import ClickGen.Text.Case
import ClickGen.Url.Percent
import ClickGen.Url.Punycode

/-!
Names of hosts. A name is kept in lower case and in ASCII. What is not in ASCII is left to a
mapping of names, and so is what stands for it, in a label with a mark in front.
-/

namespace ClickGen.Url.Host

/-! ### Plain names -/

/-- A character that no host holds. -/
def isForbidden (c : Char) : Bool :=
  [' ', '#', '/', ':', '<', '>', '?', '@', '[', '\\', ']', '^', '|'].contains c ||
    c.toNat == 0 || c == '\t' || c == '\n' || c == '\r'

/-- A character that a name can have. -/
def isNameChar (c : Char) : Bool := !(isForbidden c || encodesAlways c || c == '%')

/-- A character of a name as it is kept. -/
def isKept (c : Char) : Bool := isNameChar c && c.toLower == c

def isAscii (s : Text) : Bool := s.all (·.toNat < 0x80)

/-- In front of a label that stands for one outside ASCII. -/
def mark : Text := "xn--"

def isMarked (label : Text) : Bool := mark.isPrefixOf label

/-- Whether there is anything in a name in lower case for a mapping of names. -/
def needsMapping (name : Text) : Bool :=
  !isAscii name || (Text.splitOn '.' name).any isMarked

/-- What a name is in ASCII, if it is one. -/
abbrev Mapping := Text → Option Text

/-- The name that is kept of one as it is written. -/
def keptName? (toAscii? : Mapping) (name : Text) : Option Text :=
  let low := name.map Char.toLower
  if needsMapping low then toAscii? name
  else if low.all isNameChar then some low
  else none

/-! ### A mapping for the letters of some scripts -/

/-- Letters of the Latin, Greek and Cyrillic alphabets, of the syllables and signs of Japanese,
Chinese and Korean, that mean the same in lower case and stay as they are next to others. -/
def letters : List Text.Span :=
  [⟨0xC0, 0x12F, 1⟩, ⟨0x131, 0x131, 1⟩, ⟨0x134, 0x13E, 1⟩, ⟨0x141, 0x148, 1⟩, ⟨0x14A, 0x17E, 1⟩,
    ⟨0x386, 0x386, 1⟩, ⟨0x388, 0x38A, 1⟩, ⟨0x38C, 0x38C, 1⟩, ⟨0x38E, 0x3A1, 1⟩, ⟨0x3A3, 0x3CE, 1⟩,
    ⟨0x400, 0x481, 1⟩, ⟨0x48A, 0x4BF, 1⟩, ⟨0x4C1, 0x52F, 1⟩, ⟨0x3005, 0x3007, 1⟩,
    ⟨0x3041, 0x3096, 1⟩, ⟨0x309D, 0x309E, 1⟩, ⟨0x30A1, 0x30FE, 1⟩, ⟨0x3400, 0x4DBF, 1⟩,
    ⟨0x4E00, 0x9FFF, 1⟩, ⟨0xAC00, 0xD7A3, 1⟩]

/-- The characters of ASCII in full width. -/
def wide : Text.Shift := ⟨⟨0xFF01, 0xFF5E, 1⟩, 0x21⟩

/-- The character that one in a name means; none if this is not known. -/
def mapChar? (c : Char) : Option Char :=
  if c.toNat < 0x80 then some c.toLower
  else if wide.span.holds c.toNat then some (Char.ofNat (wide.apply c.toNat)).toLower
  else if c == '\u3002' || c == '\uFF61' then some '.'
  else if Text.inSpans letters c then (Text.lowerChar c).head?
  else none

/-- Whether a marked label stands for a text that would be written as this label. -/
def standsFor (label : Text) : Bool :=
  (Punycode.decode? (label.drop mark.length)).any fun s =>
    !isAscii s && !isMarked s && s.all (fun c => mapChar? c == some c) &&
      mark ++ Punycode.encode s == label

/-- A label as it is kept. -/
def isKeptLabel (label : Text) : Bool :=
  label.all (fun c => isKept c && c != '.') && (!isMarked label || standsFor label)

/-- The label that is kept of one whose characters have been mapped. -/
def keptLabel? (label : Text) : Option Text :=
  let ascii := if isMarked label || isAscii label then label else mark ++ Punycode.encode label
  if isKeptLabel ascii then some ascii else none

/-- Maps names of the letters above, and knows no others. -/
def lettersToAscii? : Mapping := fun name => do
  let mapped ← name.mapM mapChar?
  let labels ← (Text.splitOn '.' mapped).mapM keptLabel?
  return List.intercalate ['.'] labels

end ClickGen.Url.Host
