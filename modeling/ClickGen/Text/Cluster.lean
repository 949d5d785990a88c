import ClickGen.Text.Case
import ClickGen.Text.ClusterData

/-!
A text cut into clusters: the runs of characters that a reader takes for one, such as a letter
with its accents, a syllable, a flag or a picture joined of several.
-/

namespace ClickGen.Text

/-- What a character does at a cut. -/
inductive CutClass where
  | carriageReturn | lineFeed | control | extend | joiner | spacing | prepend
  | leading | vowel | trailing | openSyllable | closedSyllable
  | regional | pictograph | consonant | other
  deriving DecidableEq

namespace CutClass

open ClusterData

/-- The class of a letter of the Korean alphabet or of a syllable written with it. -/
def korean? (n : Nat) : Option CutClass :=
  let between (lo hi : Nat) : Bool := lo ≤ n && n ≤ hi
  if between 0x1100 0x115F || between 0xA960 0xA97C then some leading
  else if between 0x1160 0x11A7 || between 0xD7B0 0xD7C6 || n == 0x16D63 ||
      between 0x16D67 0x16D6A then some vowel
  else if between 0x11A8 0x11FF || between 0xD7CB 0xD7FB then some trailing
  else if between 0xAC00 0xD7A3 then
    some (if (n - 0xAC00) % 28 = 0 then openSyllable else closedSyllable)
  else none

def ofChar (c : Char) : CutClass :=
  let n := c.toNat
  if c = '\r' then carriageReturn
  else if c = '\n' then lineFeed
  else if n < 128 then (if n < 0x20 || n = 0x7F then control else other)
  else if n = 0x200D then joiner
  else if 0x1F1E6 ≤ n && n ≤ 0x1F1FF then regional
  else
    match korean? n with
    | some k => k
    | none =>
      if inSpans extendSpans c then extend
      else if inSpans pictographSpans c then pictograph
      else if inSpans spacingSpans c then spacing
      else if inSpans consonantSpans c then consonant
      else if inSpans controlSpans c then control
      else if inSpans prependSpans c then prepend
      else other

/-- A character that stands alone. -/
def standsAlone (k : CutClass) : Bool := k = carriageReturn || k = lineFeed || k = control

/-- Whether two neighbours belong together whatever stands before them. -/
def joins (a b : CutClass) : Bool :=
  if a = carriageReturn && b = lineFeed then true
  else if a.standsAlone || b.standsAlone then false
  else if b = extend || b = joiner || b = spacing || a = prepend then true
  else
    match a, b with
    | leading, leading | leading, vowel | leading, openSyllable | leading, closedSyllable => true
    | openSyllable, vowel | openSyllable, trailing | vowel, vowel | vowel, trailing => true
    | closedSyllable, trailing | trailing, trailing => true
    | _, _ => false

end CutClass

/-- What the end of a cluster says about the character after it. -/
structure ClusterEnd where
  last : CutClass
  /-- The cluster ends in an odd number of regional indicators. -/
  oddRegional : Bool
  /-- The cluster ends in a pictograph and marks that extend it. -/
  pictured : Bool
  /-- The cluster ends in such a run and a joiner. -/
  pictureJoined : Bool
  /-- The cluster ends in a consonant and marks that extend it. -/
  voiced : Bool
  /-- One of these marks joins consonants. -/
  linked : Bool

namespace ClusterEnd

/-- The end of a cluster of one character. -/
def start (c : Char) : ClusterEnd :=
  let k := CutClass.ofChar c
  ⟨k, k = .regional, k = .pictograph, false, k = .consonant, false⟩

/-- Whether the next character belongs to the cluster. -/
def takes (e : ClusterEnd) (c : Char) : Bool :=
  let k := CutClass.ofChar c
  e.last.joins k || (e.oddRegional && k = .regional) || (e.pictureJoined && k = .pictograph) ||
    (e.linked && k = .consonant)

/-- The end of the cluster with one character more. -/
def push (e : ClusterEnd) (c : Char) : ClusterEnd :=
  let k := CutClass.ofChar c
  let links := inSpans ClusterData.linkerSpans c
  let keepsVoice := e.voiced && (k = .joiner || (k = .extend && c.toNat ≠ 0x200C))
  { last := k
    oddRegional := k = .regional && !e.oddRegional
    pictured := k = .pictograph || (e.pictured && k = .extend)
    pictureJoined := e.pictured && k = .joiner
    voiced := k = .consonant || keepsVoice
    linked := keepsVoice && (links || e.linked) }

end ClusterEnd

/-- The clusters of a text, when the one before it ends in `e`; the first of them is what is left
of that one. -/
def clustersFrom (e : ClusterEnd) : Text → List Text
  | [] => [[]]
  | c :: rest =>
    if e.takes c then
      match clustersFrom (e.push c) rest with
      | [] => [[c]]
      | cluster :: more => (c :: cluster) :: more
    else
      match clustersFrom (.start c) rest with
      | [] => [[], [c]]
      | cluster :: more => [] :: (c :: cluster) :: more

/-- The clusters of a text. -/
def clusters : Text → List Text
  | [] => []
  | c :: rest =>
    match clustersFrom (.start c) rest with
    | [] => [[c]]
    | cluster :: more => (c :: cluster) :: more

end ClickGen.Text
