import ClickGen.Time.Calendar
import ClickGen.Toml.Value

/-!
Values that are written as one word: booleans, whole numbers in four bases, numbers with a point
or an exponent, dates and times. A word can have the shape of a number and still say none; what
such a word is worth only matters where it is used.
-/

namespace ClickGen.Toml

/-! ### Digits -/

def isHexDigit (c : Char) : Bool := (Text.hexValue? c).isSome

/-- The value of a run of digits of a base, of which there is at least one. -/
def valueOf? (base : Nat) (s : Text) : Option Nat :=
  if s.isEmpty then none
  else s.foldlM (fun n c => ((Text.hexValue? c).filter (· < base)).map (n * base + ·)) 0

/-- The parts between underscores put together. A part begins with a digit, but for the first one,
and one of several characters ends in a digit, but for the last one. -/
def joinParts? (digit : Char → Bool) (first : Bool) : List Text → Option Text
  | [] => none
  | [part] => if first || part.head?.any digit then some part else none
  | part :: rest =>
    if (if first then !part.isEmpty else part.head?.any digit) &&
        (part.length ≤ 1 || part.getLast?.any digit) then
      (joinParts? digit false rest).map (part ++ ·)
    else none

/-- A word without the underscores that may stand between its digits. -/
def joined? (digit : Char → Bool) (word : Text) : Option Text :=
  joinParts? digit true (Text.splitOn '_' word)

/-- Whether digits begin with a zero that says nothing. -/
def hasExtraZero (s : Text) : Bool := s.head? == some '0' && s.length != 1

def isDigitOrBreak (c : Char) : Bool := Text.isDigit c || c == '_'

/-! ### Whole numbers -/

def wholeNumber (negative : Bool) (value? : Option Nat) : Value :=
  match value? with
  | some n => .integer (if negative then -(n : Int) else n)
  | none => .noNumber

/-- A whole number in a base, after the letter that names the base. There may be no digits. -/
def readInBase? (base : Nat) (s : Text) : Option Value :=
  if s.all fun c => c == '_' || (Text.hexValue? c).any (· < base) then
    (joined? isHexDigit s).map fun digits => wholeNumber false (valueOf? base digits)
  else none

/-- The base that a word without a sign begins by naming, and what follows. -/
def splitBase? : Text → Option (Nat × Text)
  | '0' :: 'x' :: rest => some (16, rest)
  | '0' :: 'o' :: rest => some (8, rest)
  | '0' :: 'b' :: rest => some (2, rest)
  | _ => none

/-- A decimal whole number. Behind an underscore there may be anything. -/
def readWhole? (word : Text) : Option Value :=
  if hasExtraZero (Text.takeSign word).2 then none
  else
    (joined? isHexDigit word).map fun joined =>
      wholeNumber (Text.takeSign joined).1 (valueOf? 10 (Text.takeSign joined).2)

/-! ### Numbers with a point or an exponent -/

def isRealMark (c : Char) : Bool := c == '.' || Text.isExponentMark c

/-- What follows digits and underscores, when there is a digit among them. -/
def afterDigits? (s : Text) : Option Text :=
  if (s.takeWhile isDigitOrBreak).any Text.isDigit then some (s.dropWhile isDigitOrBreak) else none

/-- Whether a number without its sign has a part in front of the point, without extra zeros, and
digits behind the point and the exponent mark if these are there. -/
def isReal (s : Text) : Bool :=
  let whole := s.takeWhile isDigitOrBreak
  if (whole.filter Text.isDigit).length > 1 && whole.head? == some '0' then false
  else
    match afterDigits? s with
    | some ('.' :: rest) => (afterDigits? rest).any endsReal
    | some rest => endsReal rest
    | none => false
where
  endsReal : Text → Bool
    | [] => true
    | c :: rest => Text.isExponentMark c && afterDigits? (Text.takeSign rest).2 == some []

def readReal? (word : Text) : Option Value :=
  if isReal (Text.takeSign word).2 then
    (joined? Text.isDigit word).map fun joined => .real (.finite (.ofText joined))
  else none

/-! ### Dates and times -/

/-- Reads so many decimal digits. -/
def readFixed? (width : Nat) (s : Text) : Option (Nat × Text) :=
  let digits := s.take width
  if digits.length = width ∧ digits.all Text.isDigit then
    some (Text.digitsValue digits, s.drop width)
  else none

def readMark? (mark : Char) : Text → Option Text
  | c :: rest => if c = mark then some rest else none
  | [] => none

/-- What follows a date. -/
def afterDate? (s : Text) : Option Text := do
  let (year, s) ← readFixed? 4 s
  let (month, s) ← readFixed? 2 (← readMark? '-' s)
  let (day, s) ← readFixed? 2 (← readMark? '-' s)
  if Time.isDate year month day then some s else none

/-- What follows seconds with or without a fraction. -/
def afterSeconds? (s : Text) : Option Text := do
  let (second, s) ← readFixed? 2 s
  if second > 60 then none
  match s with
  | '.' :: rest =>
    let digits := rest.takeWhile Text.isDigit
    if digits.isEmpty then none else some (rest.dropWhile Text.isDigit)
  | s => some s

/-- What follows a time of day, which may do without seconds. -/
def afterTime? (s : Text) : Option Text := do
  let (hour, s) ← readFixed? 2 s
  let (minute, s) ← readFixed? 2 (← readMark? ':' s)
  if hour > 23 ∨ minute > 59 then none
  match s with
  | ':' :: rest => afterSeconds? rest
  | s => some s

/-- The difference to universal time at the end of a date with a time, or none. -/
def isOffset : Text → Bool
  | [] => true
  | [c] => c == 'Z' || c == 'z'
  | c :: rest =>
    (c == '+' || c == '-') &&
      (match readFixed? 2 rest with
        | some (hour, ':' :: rest) =>
          match readFixed? 2 rest with
          | some (minute, []) => hour ≤ 23 && minute ≤ 59
          | _ => false
        | _ => false)

def isMoment (s : Text) : Bool :=
  match afterDate? s with
  | some [] => true
  | some (mark :: rest) =>
    (mark == 'T' || mark == 't' || mark == ' ') && (afterTime? rest).any isOffset
  | none => afterTime? s == some []

/-! ### Words -/

/-- A word that begins with a digit or an underscore behind its sign. -/
def readNumber? (word : Text) : Option Value :=
  match splitBase? word with
  | some (base, rest) => readInBase? base rest
  | none =>
    match (Text.takeSign word).2.dropWhile Text.isDigit with
    | [] => readWhole? word
    | c :: rest =>
      if c = '-' ∨ c = ':' then if isMoment word then some .moment else none
      else if (c :: rest).contains ' ' then none
      else if (c :: rest).any isRealMark then readReal? word
      else if c = '_' then readWhole? word
      else none

def readWord? (word : Text) : Option Value :=
  let (negative, name) := Text.takeSign word
  if word = "true".toList then some (.boolean true)
  else if word = "false".toList then some (.boolean false)
  else if name = "inf".toList then some (.real (.infinite negative))
  else if name = "nan".toList then some (.real .notANumber)
  else if name.head?.any isDigitOrBreak then readNumber? word
  else none

/-- A character that a word cannot hold, though points join words. -/
def endsWord (c : Char) : Bool :=
  ['=', ',', '[', ']', '\x7b', '\x7d', '#', ' ', '\t', '\r', '\n'].contains c

/-- The word that the text begins with, and what follows it. Words with only blanks between them
are one. -/
def splitWord : Text → Text × Text
  | [] => ([], [])
  | c :: rest =>
    let joins := isBlank c && (rest.dropWhile isBlank).head?.any startsWord
    if endsWord c && !joins then ([], c :: rest)
    else (c :: (splitWord rest).1, (splitWord rest).2)
where
  isBlank (c : Char) : Bool := c == ' ' || c == '\t'
  startsWord (c : Char) : Bool := !endsWord c && c != '.' && c != '"' && c != '\''

end ClickGen.Toml
