import ClickGen.Proofs.Code.Literal
import ClickGen.Proofs.Code.Name

/-!
Identifiers in any alphabet, and text that stands in a literal as it is.

Which characters outside ASCII an identifier may hold is up to the version of Unicode that an
interpreter goes by; inside ASCII it is settled. What is said here is said of every alphabet that
keeps to that: a name with an underscore is an identifier by its characters alone, and a literal
holds the characters of identifiers without escapes.
-/

namespace ClickGen.Code

/-- The characters of identifiers: the settled ones in ASCII, and any others. -/
structure Alphabet where
  starts : Char → Bool
  continues : Char → Bool
  continues_of_starts {c : Char} : starts c → continues c
  starts_of_lt {c : Char} : c.toNat < 128 → starts c = startsIdentifier c
  continues_of_lt {c : Char} : c.toNat < 128 → continues c = continuesIdentifier c

namespace Alphabet

def ascii : Alphabet where
  starts := startsIdentifier
  continues := continuesIdentifier
  continues_of_starts := continuesIdentifier_of_startsIdentifier
  starts_of_lt _ := rfl
  continues_of_lt _ := rfl

/-- A name made of characters of the alphabet that is no reserved word. -/
def isIdentifier (alphabet : Alphabet) : Text → Bool
  | [] => false
  | c :: rest => alphabet.starts c && rest.all alphabet.continues && !isReserved (c :: rest)

lemma isIdentifier_ascii (name : Text) : ascii.isIdentifier name = Code.isIdentifier name := by
  cases name <;> rfl

variable {alphabet : Alphabet}

lemma isIdentifier_cons {c : Char} {rest : Text} : alphabet.isIdentifier (c :: rest) ↔
    alphabet.starts c ∧ (∀ d ∈ rest, alphabet.continues d) ∧ isReserved (c :: rest) = false := by
  simp [isIdentifier, and_assoc]

lemma continues_of_mem {name : Text} (h : alphabet.isIdentifier name) {c : Char} (hc : c ∈ name) :
    alphabet.continues c := by
  cases name with
  | nil => cases hc
  | cons d rest =>
    obtain ⟨hstart, hrest, -⟩ := isIdentifier_cons.mp h
    rcases List.mem_cons.mp hc with rfl | hc
    · exact alphabet.continues_of_starts hstart
    · exact hrest c hc

lemma continues_of_continuesIdentifier {c : Char} (h : continuesIdentifier c) :
    alphabet.continues c := by
  rw [alphabet.continues_of_lt (toNat_lt_of_continuesIdentifier h), h]

lemma starts_of_startsIdentifier {c : Char} (h : startsIdentifier c) : alphabet.starts c := by
  have hc := continuesIdentifier_of_startsIdentifier h
  rw [alphabet.starts_of_lt (toNat_lt_of_continuesIdentifier hc), h]

lemma ne_of_continues {c d : Char} (h : alphabet.continues c) (hd : d.toNat < 128)
    (hd' : continuesIdentifier d = false) : c ≠ d := by
  rintro rfl
  rw [alphabet.continues_of_lt hd, hd'] at h
  cases h

lemma isIdentifier_of_underscore_mem {c : Char} {rest : Text} (hc : startsIdentifier c)
    (hrest : ∀ d ∈ rest, alphabet.continues d) (h : '_' ∈ rest) :
    alphabet.isIdentifier (c :: rest) :=
  isIdentifier_cons.mpr ⟨starts_of_startsIdentifier hc, hrest,
    isReserved_of_underscore_mem (List.mem_cons_of_mem c h)⟩

lemma startsIdentifier_toUpper {c : Char} (h : startsIdentifier c) :
    startsIdentifier c.toUpper := by
  unfold Char.toUpper
  split
  · next hlow =>
    simp only [UInt32.le_iff_toNat_le] at hlow
    simp only [startsIdentifier, Text.isAsciiAlpha, Bool.or_eq_true, Bool.and_eq_true,
      decide_eq_true_eq, Char.le_def, UInt32.le_iff_toNat_le]
    refine .inl (.inr ?_)
    have hshift : ('A'.val - 'a'.val).toNat = 2 ^ 32 - 32 := rfl
    have ha : 'a'.val.toNat = 97 := rfl
    have hz : 'z'.val.toNat = 122 := rfl
    have hA : 'A'.val.toNat = 65 := rfl
    have hZ : 'Z'.val.toNat = 90 := rfl
    rw [UInt32.toNat_add, hshift]
    omega
  · exact h

lemma starts_capitalize {name : Text} (h : alphabet.isIdentifier name)
    (hfirst : ∀ c ∈ name.head?, c.toNat < 128) :
    ∃ c rest, Text.capitalize name = c :: rest ∧ startsIdentifier c ∧
      ∀ d ∈ rest, alphabet.continues d := by
  cases name with
  | nil => cases h
  | cons c rest =>
    have hc : c.toNat < 128 := hfirst c rfl
    obtain ⟨hstart, hrest, -⟩ := isIdentifier_cons.mp h
    rw [alphabet.starts_of_lt hc] at hstart
    refine ⟨c.toUpper, rest, ?_, startsIdentifier_toUpper hstart, hrest⟩
    rw [Text.capitalize, Text.upperChar, if_pos hc]
    rfl

lemma isIdentifier_capitalize {group command : Text} (hgroup : alphabet.isIdentifier group)
    (hcommand : alphabet.isIdentifier command) (hfirst : ∀ c ∈ group.head?, c.toNat < 128)
    (hsecond : ∀ c ∈ command.head?, c.toNat < 128) :
    alphabet.isIdentifier (Text.capitalize group ++ Text.capitalize command ++ "Facade") := by
  obtain ⟨c, rest, hc, hstart, hrest⟩ := starts_capitalize hgroup hfirst
  obtain ⟨d, more, hd, hstart', hmore⟩ := starts_capitalize hcommand hsecond
  have hwords : reservedWords.all fun word => !"Facade".toList.isSuffixOf word := by decide +kernel
  have hend : "Facade".toList.all continuesIdentifier := by decide +kernel
  rw [hc, hd, List.cons_append, List.cons_append]
  refine isIdentifier_cons.mpr ⟨starts_of_startsIdentifier hstart, ?_, ?_⟩
  · intro e he
    simp only [List.mem_append, List.mem_cons] at he
    rcases he with (he | rfl | he) | he
    · exact hrest e he
    · exact continues_of_continuesIdentifier (continuesIdentifier_of_startsIdentifier hstart')
    · exact hmore e he
    · exact continues_of_continuesIdentifier (List.all_eq_true.mp hend e he)
  · by_contra hreserved
    have hmem := List.contains_iff_mem.mp (Bool.not_eq_false _ ▸ hreserved)
    have hsuffix : "Facade".toList <:+ c :: (rest ++ d :: more ++ "Facade".toList) :=
      ⟨c :: (rest ++ d :: more), rfl⟩
    have hword := List.all_eq_true.mp hwords _ hmem
    rw [List.isSuffixOf_iff_suffix.mpr hsuffix] at hword
    cases hword

end Alphabet

/-! ### Text between quotes -/

/-- A character that a literal in single quotes holds as it is. -/
def isBareInLiteral (c : Char) : Bool := escapeChar c == [c]

/-- A character that a literal in three double quotes holds as it is. -/
def isBareInDocstring (c : Char) : Bool := c != '"' && c != '\\' && c != '\r' && c != '\x00'

def isBareBetween (quote : Char) : Char → Bool :=
  if quote = '\'' then isBareInLiteral else isBareInDocstring

/-- The text between quotes is one literal that stands for the text. In single quotes it is read as
that; in double quotes, of which there are three, nothing in it ends it or is an escape. -/
def IsQuoted (quote : Char) (t : Text) : Prop :=
  if quote = '\'' then tokens? ('\'' :: (t ++ ['\''])) = some [.string t]
  else ∀ c ∈ t, isBareInDocstring c

lemma isQuoted_of_isBareBetween {quote : Char} {t : Text} (h : ∀ c ∈ t, isBareBetween quote c) :
    IsQuoted quote t := by
  unfold isBareBetween at h
  unfold IsQuoted
  split
  · next hquote =>
    rw [if_pos hquote] at h
    -- Where there is nothing to escape, the literal is the text itself.
    have hsame : t.flatMap escapeChar = t := by
      have heach : t.map escapeChar = t.map ([·]) :=
        List.map_congr_left fun c hc => by simpa [isBareInLiteral] using h c hc
      rw [List.flatMap_def, heach, ← List.flatMap_def, List.flatMap_singleton']
    have hread := tokens?_literal t
    rwa [literal, hsame] at hread
  · next hquote =>
    rwa [if_neg hquote] at h

lemma Alphabet.isBareBetween_of_continues {alphabet : Alphabet} {c : Char}
    (h : alphabet.continues c) (quote : Char) : isBareBetween quote c := by
  have hcontrol : ¬ (c.toNat < 0x20 || c.toNat == 0x7F) := by
    intro hcontrol
    simp only [Bool.or_eq_true, decide_eq_true_eq, beq_iff_eq] at hcontrol
    rw [alphabet.continues_of_lt (by omega)] at h
    have hbounds := bounds_of_continuesIdentifier h
    omega
  unfold isBareBetween
  split
  · rw [isBareInLiteral, beq_iff_eq]
    unfold escapeChar
    split
    · exact absurd rfl (ne_of_continues h (by decide) (by decide))
    · exact absurd rfl (ne_of_continues h (by decide) (by decide))
    · exact absurd rfl (ne_of_continues h (by decide) (by decide))
    · exact absurd rfl (ne_of_continues h (by decide) (by decide))
    · exact absurd rfl (ne_of_continues h (by decide) (by decide))
    · rw [if_neg hcontrol]
  · have hquote : c ≠ '"' := ne_of_continues h (by decide) (by decide)
    have hescape : c ≠ '\\' := ne_of_continues h (by decide) (by decide)
    have hreturn : c ≠ '\r' := ne_of_continues h (by decide) (by decide)
    have hzero : c ≠ '\x00' := ne_of_continues h (by decide) (by decide)
    simp [isBareInDocstring, hquote, hescape, hreturn, hzero]

end ClickGen.Code
