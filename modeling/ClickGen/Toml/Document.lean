import ClickGen.Toml.Quoted
import ClickGen.Toml.Scalar

/-!
TOML documents: keys with values, and headers that begin tables. A text that is no document is
refused as a whole. The readers know a place in the text by how many bytes are left there.
-/

namespace ClickGen.Toml

/-- A range of the text, given by the bytes that are left at its ends. -/
def spanOf (size : Nat) (start stop : Text) : Span :=
  ⟨size - Text.byteSize start, size - Text.byteSize stop⟩

def skipSpace (s : Text) : Text := s.dropWhile isSpace

/-- What follows a comment, if there is one. -/
def afterComment? : Text → Option Text
  | '#' :: rest =>
    let stop := rest.dropWhile fun c => c != '\n' && !isForbidden c
    match afterNewline? stop, stop with
    | some _, _ | none, [] => some stop
    | none, _ :: _ => none
  | s => some s

/-- What follows blanks, comments and line ends, of at most `n` lines. -/
def skipLines? : Nat → Text → Option Text
  | 0, _ => none
  | n + 1, s =>
    match afterComment? (skipSpace s) with
    | some rest =>
      match afterNewline? rest with
      | some rest => skipLines? n rest
      | none => some rest
    | none => none

/-- What follows the end of a statement: blanks, a comment, and the end of the line or text. -/
def afterStatement? (s : Text) : Option Text :=
  match afterComment? (skipSpace s) with
  | some [] => some []
  | some rest => afterNewline? rest
  | none => none

/-! ### Keys -/

def isBareChar (c : Char) : Bool := Text.isAsciiAlnum c || c == '_' || c == '-'

def readKey? (size : Nat) (s : Text) : Option (Key × Text) :=
  let bare := s.takeWhile isBareChar
  if bare.isEmpty then
    (readLine? s).map fun r => (⟨r.1, spanOf size s r.2⟩, r.2)
  else
    let rest := s.dropWhile isBareChar
    some (⟨bare, spanOf size s rest⟩, rest)

/-- How many parts a key with dots has at most, and how deep brackets and braces may be nested. -/
def greatestDepth : Nat := 80

/-- A key with dots, of at most so many parts: the keys that lead to it, the key itself, and what
follows it and blanks. -/
def readParts? (size : Nat) : Nat → Text → Option (List Key × Key × Text)
  | 0, _ => none
  | n + 1, s =>
    match readKey? size s with
    | none => none
    | some (key, rest) =>
      match skipSpace rest with
      | '.' :: after =>
        (readParts? size n (skipSpace after)).map fun r => (key :: r.1, r.2)
      | rest => some ([], key, rest)

def readKeys? (size : Nat) (s : Text) : Option (List Key × Key × Text) :=
  readParts? size greatestDepth s

/-! ### Values -/

mutual

/-- A value inside at most `depth` more brackets and braces. -/
def readValue? (size : Nat) : Nat → Nat → Text → Option (Value × Text)
  | 0, _, _ => none
  | n + 1, depth + 1, '[' :: rest =>
    (readItems? size n depth rest).map fun r => (.array false r.1, r.2)
  | n + 1, depth + 1, '\x7b' :: rest =>
    (readMembers? size n depth ⟨.header, []⟩ rest).map fun r => (.table .inBraces r.1.entries, r.2)
  | _ + 1, _, s =>
    match readQuoted? s with
    | some (t, rest) => some (.text t, rest)
    | none =>
      match splitWord s with
      | (word, rest) => (readWord? word).map (·, rest)

/-- The items of an array up to its closing bracket. -/
def readItems? (size : Nat) : Nat → Nat → Text → Option (List (Span × Value) × Text)
  | 0, _, _ => none
  | n + 1, depth, s =>
    match skipLines? n s with
    | none => none
    | some (']' :: rest) => some ([], rest)
    | some s =>
      match readValue? size n depth s with
      | none => none
      | some (v, rest) =>
        let item := (spanOf size s rest, v)
        match skipLines? n rest with
        | some (',' :: rest) => (readItems? size n depth rest).map fun r => (item :: r.1, r.2)
        | some (']' :: rest) => some ([item], rest)
        | _ => none

/-- The keys and values of a table in braces, added to `t`. -/
def readMembers? (size : Nat) : Nat → Nat → Table → Text → Option (Table × Text)
  | 0, _, _, _ => none
  | n + 1, depth, t, s =>
    match skipLines? n s with
    | none => none
    | some ('\x7d' :: rest) => some (t, rest)
    | some s =>
      match readKeys? size s with
      | some (path, key, '=' :: rest) =>
        let start := skipSpace rest
        match readValue? size n depth start with
        | none => none
        | some (v, rest) =>
          match t.assign? path key (spanOf size start rest) v, skipLines? n rest with
          | some t, some (',' :: rest) => readMembers? size n depth t rest
          | some t, some ('\x7d' :: rest) => some (t, rest)
          | _, _ => none
      | _ => none

end

/-! ### Statements -/

/-- A bound on the steps that a text takes to read. Each of its characters costs at most two. -/
def steps (s : Text) : Nat := 2 * s.length + 2

/-- A value and the key that it is assigned to, at the end of a path. -/
structure Assignment where
  path : List Key
  key : Key
  span : Span
  value : Value

def readAssignment? (size : Nat) (s : Text) : Option (Assignment × Text) :=
  match readKeys? size s with
  | some (path, key, '=' :: rest) =>
    let start := skipSpace rest
    match readValue? size (steps start) greatestDepth start with
    | some (v, rest) =>
      (afterStatement? rest).map fun after => (⟨path, key, spanOf size start rest, v⟩, after)
    | none => none
  | _ => none

/-- The assignments up to the next header or the end. -/
def readAssignments? (size : Nat) : Nat → Text → Option (List Assignment × Text)
  | 0, _ => none
  | n + 1, s =>
    match skipLines? (n + 1) s with
    | none => none
    | some [] => some ([], [])
    | some ('[' :: rest) => some ([], '[' :: rest)
    | some s =>
      match readAssignment? size s with
      | some (a, rest) => (readAssignments? size n rest).map fun r => (a :: r.1, r.2)
      | none => none

/-- Puts assignments into a table. -/
def Table.assignAll? (t : Table) : List Assignment → Option Table
  | [] => some t
  | a :: rest =>
    match t.assign? a.path a.key a.span a.value with
    | some t => assignAll? t rest
    | none => none

/-- A header: whether its brackets are double, the path to its table, the range it takes, and what
comes after its line. -/
structure Header where
  double : Bool
  path : List Key
  key : Key
  span : Span
  rest : Text

def readHeader? (size : Nat) (s : Text) : Option Header :=
  match s with
  | '[' :: '[' :: inside =>
    match readKeys? size (skipSpace inside) with
    | some (path, key, ']' :: ']' :: rest) =>
      (afterStatement? rest).map fun after => ⟨true, path, key, spanOf size s rest, after⟩
    | _ => none
  | '[' :: inside =>
    match readKeys? size (skipSpace inside) with
    | some (path, key, ']' :: rest) =>
      (afterStatement? rest).map fun after => ⟨false, path, key, spanOf size s rest, after⟩
    | _ => none
  | _ => none

/-- Puts the table of a header in its place in the document, filled by `fill`. -/
def Header.place? (h : Header) (fill : Table → Option Table) (document : Table) : Option Table :=
  if h.double then document.addToArray? h.path h.key h.span fill
  else document.addTable? h.path h.key h.span fill

/-- Adds the tables from a header on to the document. -/
def readTables? (size : Nat) : Nat → Table → Text → Option Table
  | _, document, [] => some document
  | 0, _, _ => none
  | n + 1, document, s =>
    match readHeader? size s with
    | none => none
    | some h =>
      match readAssignments? size (steps h.rest) h.rest with
      | none => none
      | some (assignments, rest) =>
        match h.place? (·.assignAll? assignments) document with
        | some document => readTables? size n document rest
        | none => none

/-- Reads a document. A byte order mark at its beginning is not part of it. -/
def parse? (source : Text) : Option Entries :=
  let size := Text.byteSize source
  let s := match source with | '\uFEFF' :: rest => rest | s => s
  match readAssignments? size (steps s) s with
  | none => none
  | some (assignments, rest) =>
    match Table.assignAll? ⟨.header, []⟩ assignments with
    | none => none
    | some document => (readTables? size (steps rest) document rest).map (·.entries)

end ClickGen.Toml
