import ClickGen.Template.Expr

/-!
How names, values and paths are spelt. Every reader returns what follows the part that it read.
Readers of nested parts take a bound on how far to go; the number of characters is always enough.
-/

namespace ClickGen.Template

/-- A blank inside markup. A tab is none. -/
def isSpace (c : Char) : Bool := c == ' ' || c == '\r' || c == '\n'

def skipSpace (s : Text) : Text := s.dropWhile isSpace

/-! ### Names -/

/-- Whether the text begins with the end of markup. -/
def atClosing : Text → Bool
  | '\x7d' :: '\x7d' :: _ => true
  | '%' :: '\x7d' :: _ => true
  | _ => false

/-- Whether `c`, in front of `rest`, is a hyphen of a name: one before the end of markup is not. -/
def isHyphen (c : Char) (rest : Text) : Bool := c == '-' && !atClosing rest

def startsName (c : Char) (rest : Text) : Bool :=
  Text.isAsciiAlpha c || c == '_' || isHyphen c rest

def continuesName (c : Char) (rest : Text) : Bool :=
  Text.isAsciiAlnum c || c == '_' || isHyphen c rest

def readNameTail : Text → Text × Text
  | [] => ([], [])
  | c :: rest =>
    if continuesName c rest then (c :: (readNameTail rest).1, (readNameTail rest).2)
    else ([], c :: rest)

def readName? : Text → Option (Text × Text)
  | [] => none
  | c :: rest =>
    if startsName c rest then some (c :: (readNameTail rest).1, (readNameTail rest).2) else none

/-! ### Literals -/

/-- Words that stand for values of their own, also at the beginning of longer ones. -/
def wordLiterals : List (Text × Value) :=
  [("nil", .nil), ("null", .nil), ("empty", .void false), ("blank", .void true),
    ("true", .bool true), ("false", .bool false)]

def readWordLiteral? (s : Text) : Option (Value × Text) :=
  (wordLiterals.find? fun word => word.1.isPrefixOf s).map fun word =>
    (word.2, s.drop word.1.length)

def readDigits? (s : Text) : Option (Int × Text) :=
  let digits := s.takeWhile Text.isDigit
  if digits.isEmpty then none
  else some ((Text.digitsValue digits : Int), s.dropWhile Text.isDigit)

def readNumber? : Text → Option (Int × Text)
  | '-' :: rest => (readDigits? rest).map fun r => (-r.1, r.2)
  | '+' :: rest => readDigits? rest
  | s => readDigits? s

/-- A text in quotes of either kind, which has no way to hold its own quote. -/
def readQuoted? : Text → Option (Text × Text)
  | '\'' :: rest => Text.cutAt? ['\''] rest
  | '"' :: rest => Text.cutAt? ['"'] rest
  | _ => none

def readLiteral? (s : Text) : Option (Value × Text) :=
  match readWordLiteral? s with
  | some r => some r
  | none =>
    match readNumber? s with
    | some (i, rest) => some (.int i, rest)
    | none => (readQuoted? s).map fun r => (.text r.1, r.2)

/-! ### Values -/

mutual

def readValue? : Nat → Text → Option (Expr × Text)
  | 0, _ => none
  | n + 1, s =>
    match readLiteral? s with
    | some (v, rest) => some (.literal v, rest)
    | none =>
      match readName? s with
      | some (name, rest) =>
        match readPath n rest with
        | (path, rest) => some (.named name path, rest)
      | none => none

/-- The indexes after a variable, written `.name` or `[value]` with no blank before them. -/
def readPath : Nat → Text → List Expr × Text
  | 0, s => ([], s)
  | n + 1, '.' :: rest =>
    match readName? rest with
    | some (name, rest) =>
      match readPath n rest with
      | (path, rest) => (.literal (.text name) :: path, rest)
    | none => ([], '.' :: rest)
  | n + 1, '[' :: rest =>
    match readValue? n (skipSpace rest) with
    | some (e, after) =>
      match skipSpace after with
      | ']' :: after =>
        match readPath n after with
        | (path, after) => (e :: path, after)
      | _ => ([], '[' :: rest)
    | none => ([], '[' :: rest)
  | _ + 1, s => ([], s)

end

/-- The name and the path that a text begins with. -/
def readVariable? (s : Text) : Option (Text × List Expr) :=
  (readName? s).map fun r => (r.1, (readPath s.length r.2).1)

end ClickGen.Template
