import ClickGen.Code.Name
import Mathlib.Data.List.Basic
import Mathlib.Tactic.Lemma

/-!
The tokens of Python source, as far as decorators use them, read in one pass.

A literal begins and ends with a single quote, stays on its line and holds the characters that its
escapes stand for. The scan refuses what it has no rule for: double and triple quotes, prefixes of
literals, escapes by octal or Unicode code, comments. So a text that is read here is read in the
same way by Python itself.
-/

namespace ClickGen.Code

inductive Token where
  /-- An identifier or a keyword. -/
  | name (n : Text)
  /-- A string literal, by the text that it stands for. -/
  | string (s : Text)
  /-- A bare numeral, by its characters. -/
  | number (digits : Text)
  /-- A bracket, comma, point, equals sign or `@`. -/
  | mark (c : Char)
  /-- The end of a physical line. -/
  | newline
  deriving DecidableEq

def isNumeral (c : Char) : Bool :=
  Text.isDigit c || c == '+' || c == '-' || c == '.' || c == 'e' || c == 'E'

def isMark (c : Char) : Bool :=
  c == '@' || c == '(' || c == ')' || c == '[' || c == ']' || c == ',' || c == '='

/-- What a character stands for after a backslash. -/
def simpleEscape? : Char → Option Char
  | '\\' => some '\\'
  | '\'' => some '\''
  | '"' => some '"'
  | 'n' => some '\n'
  | 'r' => some '\r'
  | 't' => some '\t'
  | 'a' => some '\x07'
  | 'b' => some '\x08'
  | 'v' => some '\x0b'
  | 'f' => some '\x0c'
  | _ => none

/-- A character that a literal does not hold as it is: the ends of lines, and the zero character. -/
def endsSource (c : Char) : Bool := c == '\n' || c == '\r' || c == '\x00'

namespace Lexer

inductive Mode where
  | between
  | name (raw : Text)
  | number (raw : Text)
  /-- After a point that may begin a numeral. -/
  | point
  /-- After the quote that opens a literal. -/
  | quoted
  /-- After two quotes: an empty literal, unless a third one follows. -/
  | emptied
  | string (raw : Text)
  | escape (raw : Text)
  | hex (raw : Text)
  | hexDigit (raw : Text) (high : Nat)

/-- A character where no token is under way. -/
def start (c : Char) : Option (List Token × Mode) :=
  if c = ' ' then some ([], .between)
  else if c = '\n' then some ([.newline], .between)
  else if c = '\'' then some ([], .quoted)
  else if c = '.' then some ([], .point)
  else if startsIdentifier c then some ([], .name [c])
  else if Text.isDigit c || c == '+' || c == '-' then some ([], .number [c])
  else if isMark c then some ([.mark c], .between)
  else none

/-- A character that ends the token under way. -/
def startAfter (t : Token) (c : Char) : Option (List Token × Mode) :=
  (start c).map fun next => (t :: next.1, next.2)

def stepString (raw : Text) (c : Char) : Option (List Token × Mode) :=
  if c = '\'' then some ([.string raw.reverse], .between)
  else if c = '\\' then some ([], .escape raw)
  else if endsSource c then none
  else some ([], .string (c :: raw))

/-- Reads one character: the tokens that it ends, and where the scan stands then. -/
def step : Mode → Char → Option (List Token × Mode)
  | .between, c => start c
  | .name raw, c =>
    if continuesIdentifier c then some ([], .name (c :: raw))
    else if c = '\'' then none
    else startAfter (.name raw.reverse) c
  | .number raw, c =>
    if isNumeral c then some ([], .number (c :: raw))
    else if startsIdentifier c || c == '\'' then none
    else startAfter (.number raw.reverse) c
  | .point, c =>
    if Text.isDigit c then some ([], .number [c, '.']) else startAfter (.mark '.') c
  | .quoted, c => if c = '\'' then some ([], .emptied) else stepString [] c
  | .emptied, c => if c = '\'' then none else startAfter (.string []) c
  | .string raw, c => stepString raw c
  | .escape raw, c =>
    if c = 'x' then some ([], .hex raw)
    else (simpleEscape? c).map fun found => ([], .string (found :: raw))
  | .hex raw, c => (Text.hexValue? c).map fun high => ([], .hexDigit raw high)
  | .hexDigit raw high, c =>
    (Text.hexValue? c).map fun low => ([], .string (Char.ofNat (high * 16 + low) :: raw))

def finish : Mode → Option (List Token)
  | .between => some []
  | .name raw => some [.name raw.reverse]
  | .number raw => some [.number raw.reverse]
  | .point => some [.mark '.']
  | .emptied => some [.string []]
  | .quoted | .string _ | .escape _ | .hex _ | .hexDigit .. => none

/-- Reads a text to its end, unless a character is refused. -/
def run (m : Mode) : Text → Option (List Token)
  | [] => finish m
  | c :: rest =>
    match step m c with
    | none => none
    | some (ts, next) => (run next rest).map (ts ++ ·)

end Lexer

def tokens? (source : Text) : Option (List Token) := Lexer.run .between source

end ClickGen.Code
