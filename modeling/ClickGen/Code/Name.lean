import ClickGen.Text.Snake

/-!
Names in Python source: which words are reserved, which names are identifiers, and the
identifier that a model name is turned into.
-/

namespace ClickGen.Code

def reservedWords : List Text :=
  ["False", "None", "True", "and", "as", "assert", "async", "await", "break", "class",
    "continue", "def", "del", "elif", "else", "except", "finally", "for", "from", "global",
    "if", "import", "in", "is", "lambda", "nonlocal", "not", "or", "pass", "raise", "return",
    "try", "while", "with", "yield"].map String.toList

def isReserved (name : Text) : Bool := reservedWords.contains name

def startsIdentifier (c : Char) : Bool := Text.isAsciiAlpha c || c == '_'

def continuesIdentifier (c : Char) : Bool := Text.isAsciiAlnum c || c == '_'

/-- A plain ASCII identifier that is not a reserved word. -/
def isIdentifier (name : Text) : Bool :=
  match name with
  | [] => false
  | c :: rest => startsIdentifier c && rest.all continuesIdentifier && !isReserved name

/-- A reserved word gets an underscore at its end. -/
def safeName (name : Text) : Text := if isReserved name then name ++ ['_'] else name

/-- The snake case of a name with each character that no identifier holds made an underscore. -/
def plainName (name : Text) : Text :=
  let plain := (Text.snake name).map fun c => if Text.isAsciiAlnum c then c else '_'
  match plain with
  | [] => ['_']
  | c :: _ => if Text.isDigit c then '_' :: plain else plain

/-- The parameter name for a model field. -/
def fieldName (name : Text) : Text := safeName (plainName name)

end ClickGen.Code
