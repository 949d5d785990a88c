/-!
Text as a list of characters, with the handful of operations that the rest of the library
reads and writes text by: cutting at a separator, joining, trimming, sizes in bytes.
-/

namespace ClickGen

/-- Text is a list of characters, so that everything said about it is said by recursion on it. -/
abbrev Text := List Char

instance : Coe String Text := ⟨String.toList⟩

namespace Text

/-- The parts of a text between the occurrences of `sep`. There is always at least one. -/
def splitOn (sep : Char) : Text → List Text
  | [] => [[]]
  | c :: rest =>
    match splitOn sep rest with
    | [] => [[c]]
    | part :: parts => if c = sep then [] :: part :: parts else (c :: part) :: parts

/-- Drops the characters of `p` at the front. -/
def trimStart (p : Char → Bool) (s : Text) : Text := s.dropWhile p

/-- Drops the characters of `p` at the back. -/
def trimEnd (p : Char → Bool) (s : Text) : Text := (s.reverse.dropWhile p).reverse

/-- Drops the characters of `p` at both ends. -/
def trim (p : Char → Bool) (s : Text) : Text := trimEnd p (trimStart p s)

/-- The number of bytes that UTF-8 takes for the text. -/
def byteSize : Text → Nat
  | [] => 0
  | c :: rest => c.utf8Size + byteSize rest

@[simp] theorem byteSize_nil : byteSize [] = 0 := rfl

@[simp] theorem byteSize_cons (c : Char) (s : Text) :
    byteSize (c :: s) = c.utf8Size + byteSize s := rfl

theorem byteSize_append (s t : Text) : byteSize (s ++ t) = byteSize s + byteSize t := by
  induction s with
  | nil => simp
  | cons c s ih => simp [ih, Nat.add_assoc]

/-- What follows `mark` in the text, when the text begins with it. -/
def after? (mark : Text) (s : Text) : Option Text :=
  if mark.isPrefixOf s then some (s.drop mark.length) else none

/-- The text up to the first occurrence of `mark`, and what follows that occurrence. -/
def cutAt? (mark : Text) : Text → Option (Text × Text)
  | [] => if mark = [] then some ([], []) else none
  | c :: rest =>
    match after? mark (c :: rest) with
    | some tail => some ([], tail)
    | none => (cutAt? mark rest).map fun cut => (c :: cut.1, cut.2)

/-- Equality up to the case of the letters `A` to `Z`. -/
def eqIgnoreCase (s t : Text) : Bool := s.map Char.toLower == t.map Char.toLower

def isAsciiAlpha (c : Char) : Bool := ('a' ≤ c && c ≤ 'z') || ('A' ≤ c && c ≤ 'Z')

def isDigit (c : Char) : Bool := '0' ≤ c && c ≤ '9'

def isAsciiAlnum (c : Char) : Bool := isAsciiAlpha c || isDigit c

/-- The value of a hexadecimal digit of either case. -/
def hexValue? (c : Char) : Option Nat :=
  if isDigit c then some (c.toNat - '0'.toNat)
  else if 'a' ≤ c && c ≤ 'f' then some (c.toNat - 'a'.toNat + 10)
  else if 'A' ≤ c && c ≤ 'F' then some (c.toNat - 'A'.toNat + 10)
  else none

/-- The decimal digits of a number. -/
def ofNat (n : Nat) : Text := Nat.toDigits 10 n

/-- The decimal digits of a number, after a sign when it is negative. -/
def ofInt : Int → Text
  | .ofNat n => ofNat n
  | .negSucc n => '-' :: ofNat (n + 1)

/-- Reads a run of digits as a decimal number. -/
def digitsValue (s : Text) : Nat := s.foldl (fun n c => n * 10 + (c.toNat - '0'.toNat)) 0

end Text

end ClickGen
