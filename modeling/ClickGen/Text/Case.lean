import ClickGen.Text.CaseData
import ClickGen.Text.Basic

/-!
Upper and lower case over all of Unicode. A single character may map to several; a capital
sigma at the end of a word maps to the final form of the letter.
-/

namespace ClickGen.Text

open CaseData

def inSpans (spans : List Span) (c : Char) : Bool :=
  spans.any fun span => span.holds c.toNat

def shifted (shifts : List Shift) (c : Char) : Char :=
  match shifts.find? fun shift => shift.span.holds c.toNat with
  | some shift => Char.ofNat (shift.apply c.toNat)
  | none => c

def isUpper (c : Char) : Bool :=
  if c.toNat < 128 then 'A' ≤ c && c ≤ 'Z' else inSpans upperSpans c

def isLower (c : Char) : Bool :=
  if c.toNat < 128 then 'a' ≤ c && c ≤ 'z' else inSpans lowerSpans c

/-- A letter that takes part in casing. -/
def isCased (c : Char) : Bool := isUpper c || isLower c || inSpans titleSpans c

/-- The lower case of one character, regardless of what stands around it. -/
def lowerChar (c : Char) : Text :=
  if c.toNat < 128 then [c.toLower]
  else if c = 'İ' then ['i', '\u0307']
  else [shifted lowerShifts c]

/-- The upper case of one character. -/
def upperChar (c : Char) : Text :=
  if c.toNat < 128 then [c.toUpper]
  else
    match upperSequences.lookup c.toNat with
    | some codes => codes.map Char.ofNat
    | none => [shifted upperShifts c]

/-- The lower case of a text, character by character. -/
def lowerEach (s : Text) : Text := s.flatMap lowerChar

def upper (s : Text) : Text := s.flatMap upperChar

def seesCased (s : Text) : Bool :=
  match s.dropWhile (inSpans ignorableSpans) with
  | c :: _ => isCased c
  | [] => false

/-- Lower case from left to right; `before` holds the characters already passed, nearest first. -/
def lowerFrom (before : Text) : Text → Text
  | [] => []
  | c :: rest =>
    let low :=
      if c = 'Σ' then
        if seesCased before && !seesCased rest then ['ς'] else ['σ']
      else lowerChar c
    low ++ lowerFrom (c :: before) rest

/-- The lower case of a text, where a sigma that ends a word takes its final form. -/
def lower (s : Text) : Text := lowerFrom [] s

/-- The text with its first character in upper case and the others unchanged. -/
def capitalize : Text → Text
  | [] => []
  | c :: rest => upperChar c ++ rest

end ClickGen.Text
