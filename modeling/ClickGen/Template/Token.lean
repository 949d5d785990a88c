import ClickGen.Template.Chain

/-!
What stands inside markup: values said to be sent through filters, ranges, and the symbols between
them. Every reader returns what follows the part that it read, and takes a bound for nested parts.
-/

namespace ClickGen.Template

inductive Token where
  | phrase (p : Phrase)
  | range (first last : Expr)
  | symbol (s : Text)

/-! ### Filters -/

/-- An argument of a filter, with its name if it has one. -/
def readArgument? (n : Nat) (s : Text) : Option ((Option Text × Expr) × Text) :=
  match readNamed? s with
  | some r => some r
  | none => (readValue? n s).map fun r => ((none, r.1), r.2)
where
  readNamed? (s : Text) : Option ((Option Text × Expr) × Text) := do
    let (name, rest) ← readName? s
    let rest ← Text.after? [':'] (skipSpace rest)
    let (e, rest) ← readValue? n (skipSpace rest)
    return ((some name, e), rest)

/-- Further arguments, each after a comma. -/
def readArguments : Nat → Text → List (Option Text × Expr) × Text
  | 0, s => ([], s)
  | n + 1, s =>
    match skipSpace s with
    | ',' :: rest =>
      match readArgument? n (skipSpace rest) with
      | some (argument, after) =>
        match readArguments n after with
        | (more, after) => (argument :: more, after)
      | none => ([], s)
    | _ => ([], s)

/-- The arguments after a colon, if there is one with an argument after it. -/
def readGiven (n : Nat) (s : Text) : List (Option Text × Expr) × Text :=
  match skipSpace s with
  | ':' :: rest =>
    match readArgument? n (skipSpace rest) with
    | some (argument, after) =>
      match readArguments n after with
      | (more, after) => (argument :: more, after)
    | none => ([], s)
  | _ => ([], s)

/-- A filter with its arguments. -/
def readMention? (n : Nat) (s : Text) : Option (Mention × Text) :=
  match readName? s with
  | none => none
  | some (name, rest) =>
    match readGiven n rest with
    | (given, rest) =>
      let arguments := given.filterMap fun a => if a.1.isNone then some a.2 else none
      let named := given.filterMap fun a => a.1.map fun name => (name, a.2)
      some (⟨name, arguments, named⟩, rest)

/-- The filters that follow, each after a bar. -/
def readMentions : Nat → Text → List Mention × Text
  | 0, s => ([], s)
  | n + 1, s =>
    match skipSpace s with
    | '|' :: rest =>
      match readMention? n (skipSpace rest) with
      | some (mention, after) =>
        match readMentions n after with
        | (more, after) => (mention :: more, after)
      | none => ([], s)
    | _ => ([], s)

def readPhrase? (n : Nat) (s : Text) : Option (Phrase × Text) :=
  match readValue? n s with
  | some (start, rest) =>
    match readMentions n rest with
    | (mentions, rest) => some (⟨start, mentions⟩, rest)
  | none => none

/-! ### Tokens -/

def symbols : List Text := ["==", "!=", "<>", "<=", ">=", "<", ">", "=", ",", ":"].map String.toList

def readSymbol? (s : Text) : Option (Text × Text) :=
  (symbols.find? fun symbol => symbol.isPrefixOf s).map fun symbol =>
    (symbol, s.drop symbol.length)

/-- A range `(first..last)`. -/
def readRange? (n : Nat) : Text → Option (Token × Text)
  | '(' :: rest => do
    let (first, rest) ← readValue? n (skipSpace rest)
    let rest ← Text.after? ['.', '.'] (skipSpace rest)
    let (last, rest) ← readValue? n (skipSpace rest)
    let rest ← Text.after? [')'] (skipSpace rest)
    return (.range first last, rest)
  | _ => none

def readToken? (n : Nat) (s : Text) : Option (Token × Text) :=
  match readRange? n s with
  | some r => some r
  | none =>
    match readPhrase? n s with
    | some (p, rest) => some (.phrase p, rest)
    | none => (readSymbol? s).map fun r => (.symbol r.1, r.2)

/-- The name that a token consists of, if it does. -/
def Token.name? : Token → Option Text
  | phrase ⟨.named name [], []⟩ => some name
  | _ => none

/-- The value that a token consists of, with no filter behind it. -/
def Token.value? : Token → Option Expr
  | phrase ⟨e, []⟩ => some e
  | _ => none

/-- How a token is spelt when it is a name or a symbol. -/
def Token.word : Token → Text
  | symbol s => s
  | t => t.name?.getD []

end ClickGen.Template
