import ClickGen.Text.Basic

/-!
Whole numbers of 64 bits, read from decimal digits behind an optional sign, and decimal numbers,
which may have a point and an exponent.
-/

namespace ClickGen.Text

/-- The sign that a text begins with, if any, and what follows it. -/
def takeSign : Text → Bool × Text
  | '-' :: rest => (true, rest)
  | '+' :: rest => (false, rest)
  | s => (false, s)

/-- Reads an optionally signed run of digits that fits in 64 bits. -/
def readInt64 (s : Text) : Option Int :=
  let (negative, digits) := takeSign s
  if digits.isEmpty || !digits.all isDigit then none
  else
    let magnitude : Int := digitsValue digits
    let value := if negative then -magnitude else magnitude
    if -9223372036854775808 ≤ value && value < 9223372036854775808 then some value else none

def isExponentMark (c : Char) : Bool := c == 'e' || c == 'E'

/-- An exponent mark with its digits, or nothing. -/
def isExponent : Text → Bool
  | [] => true
  | c :: rest =>
    let digits := (takeSign rest).2
    isExponentMark c && !digits.isEmpty && digits.all isDigit

/-- A decimal number: an optional sign, digits with or without a point and at least one digit
beside it, and an optional exponent. -/
def isDecimal (s : Text) : Bool :=
  let body := (takeSign s).2
  let whole := body.takeWhile isDigit
  match body.dropWhile isDigit with
  | '.' :: rest =>
    let fraction := rest.takeWhile isDigit
    !(whole.isEmpty && fraction.isEmpty) && isExponent (rest.dropWhile isDigit)
  | rest => !whole.isEmpty && isExponent rest

end ClickGen.Text
