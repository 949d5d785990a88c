import ClickGen.Text.Basic

/-!
Quoted texts of a TOML document, on one line or on several, with escapes between double quotes
and without any between single ones.
-/

namespace ClickGen.Toml

/-- A character that no document has outside of line ends: controls other than the tab. -/
def isForbidden (c : Char) : Bool := (c.toNat < 0x20 && c != '\t') || c.toNat == 0x7F

def isSpace (c : Char) : Bool := c == ' ' || c == '\t'

/-- What follows a line end. -/
def afterNewline? : Text → Option Text
  | '\n' :: rest => some rest
  | '\r' :: '\n' :: rest => some rest
  | _ => none

/-- The character with a code point written in so many hexadecimal digits. -/
def readCode? (width : Nat) (s : Text) : Option (Char × Text) :=
  let digits := s.take width
  if digits.length = width then do
    let values ← digits.mapM Text.hexValue?
    let code := values.foldl (fun n d => n * 16 + d) 0
    if code.isValidChar then some (Char.ofNat code, s.drop width) else none
  else none

/-- The character that an escape stands for, read after the backslash. -/
def readEscape? : Text → Option (Char × Text)
  | 'b' :: rest => some ('\x08', rest)
  | 't' :: rest => some ('\t', rest)
  | 'n' :: rest => some ('\n', rest)
  | 'f' :: rest => some ('\x0c', rest)
  | 'r' :: rest => some ('\r', rest)
  | 'e' :: rest => some ('\x1b', rest)
  | '"' :: rest => some ('"', rest)
  | '\\' :: rest => some ('\\', rest)
  | 'x' :: rest => readCode? 2 rest
  | 'u' :: rest => readCode? 4 rest
  | 'U' :: rest => readCode? 8 rest
  | _ => none

/-- What follows blanks and line ends. -/
def skipBreaks : Text → Text
  | '\r' :: '\n' :: rest => skipBreaks rest
  | c :: rest => if isSpace c || c == '\n' then skipBreaks rest else c :: rest
  | [] => []

/-- What follows a backslash at the end of a line: the next character that is no blank, when there
is a line end before it. -/
def afterLineBreak? (s : Text) : Option Text :=
  match afterNewline? (s.dropWhile isSpace) with
  | some rest => some (skipBreaks rest)
  | none => none

/-- The rest of a text between single quotes on one line. -/
def readLiteral? : Text → Option (Text × Text)
  | [] => none
  | '\'' :: rest => some ([], rest)
  | c :: rest =>
    if isForbidden c then none else (readLiteral? rest).map fun r => (c :: r.1, r.2)

/-- The rest of a text between double quotes on one line, of at most `n` characters. -/
def readBasic? : Nat → Text → Option (Text × Text)
  | 0, _ | _, [] => none
  | _ + 1, '"' :: rest => some ([], rest)
  | n + 1, '\\' :: rest =>
    match readEscape? rest with
    | some (c, rest) => (readBasic? n rest).map fun r => (c :: r.1, r.2)
    | none => none
  | n + 1, c :: rest =>
    if isForbidden c then none else (readBasic? n rest).map fun r => (c :: r.1, r.2)

/-- Up to two quotes that stand right before the three that end a text. -/
def closeQuotes? (quote : Char) (s : Text) : Option (Text × Text) :=
  let run := s.takeWhile (· == quote)
  if run.length < 3 then none
  else if run.length ≤ 5 then some (run.drop 3, s.drop run.length)
  else some ([quote, quote], s.drop 5)

/-- The rest of a text between three quotes, with escapes or without, of at most `n`
characters. -/
def readLines? (quote : Char) (escapes : Bool) : Nat → Text → Option (Text × Text)
  | 0, _ | _, [] => none
  | n + 1, c :: rest =>
    if c = quote then
      match closeQuotes? quote (c :: rest) with
      | some r => some r
      | none => (readLines? quote escapes n rest).map fun r => (c :: r.1, r.2)
    else if escapes && c = '\\' then
      match afterLineBreak? rest with
      | some rest => readLines? quote escapes n rest
      | none =>
        match readEscape? rest with
        | some (c, rest) => (readLines? quote escapes n rest).map fun r => (c :: r.1, r.2)
        | none => none
    else
      match c, rest with
      | '\r', '\n' :: rest =>
        (readLines? quote escapes n ('\n' :: rest)).map fun r => ('\r' :: r.1, r.2)
      | c, rest =>
        if isForbidden c && c != '\n' then none
        else (readLines? quote escapes n rest).map fun r => (c :: r.1, r.2)

/-- A quoted text on one line. -/
def readLine? : Text → Option (Text × Text)
  | '"' :: rest => readBasic? rest.length rest
  | '\'' :: rest => readLiteral? rest
  | _ => none

/-- A quoted text of any kind. A line end right after three quotes is not part of it. -/
def readQuoted? : Text → Option (Text × Text)
  | '"' :: '"' :: '"' :: rest => readLines? '"' true rest.length ((afterNewline? rest).getD rest)
  | '\'' :: '\'' :: '\'' :: rest =>
    readLines? '\'' false rest.length ((afterNewline? rest).getD rest)
  | s => readLine? s

end ClickGen.Toml
