import ClickGen.Code.Name
import ClickGen.Proofs.Text.Snake

/-!
The names of parameters.

A field whose name is an identifier is passed on under its own name, every other one under the
identifier that its name is turned into. That identifier may be the name of a second field. It is
never a plain word, such as the words that commands use for parameters of their own: snake case that
comes out as a plain word is the word itself up to the case of its letters, and then an identifier
to begin with.
-/

namespace ClickGen.Code

/-- The name under which a field is passed on. -/
def parameterName (name : Text) : Text := if isIdentifier name then name else fieldName name

lemma continuesIdentifier_of_startsIdentifier {c : Char} (h : startsIdentifier c) :
    continuesIdentifier c := by
  simp only [startsIdentifier, Bool.or_eq_true] at h
  simp only [continuesIdentifier, Text.isAsciiAlnum, Bool.or_eq_true]
  exact h.imp_left .inl

lemma isIdentifier_cons {c : Char} {rest : Text} : isIdentifier (c :: rest) ↔
    startsIdentifier c ∧ (∀ d ∈ rest, continuesIdentifier d) ∧ isReserved (c :: rest) = false := by
  simp [isIdentifier, and_assoc]

lemma continuesIdentifier_of_mem {name : Text} (h : isIdentifier name) {c : Char} (hc : c ∈ name) :
    continuesIdentifier c := by
  cases name with
  | nil => cases hc
  | cons d rest =>
    obtain ⟨hstart, hrest, -⟩ := isIdentifier_cons.mp h
    rcases List.mem_cons.mp hc with rfl | hc
    · exact continuesIdentifier_of_startsIdentifier hstart
    · exact hrest c hc

lemma isReserved_of_underscore_mem {name : Text} (h : '_' ∈ name) : isReserved name = false := by
  have hwords : reservedWords.all fun word => !word.contains '_' := by decide +kernel
  by_contra hreserved
  have hmem : name ∈ reservedWords := by simpa [isReserved] using hreserved
  simpa [h] using List.all_eq_true.mp hwords name hmem

lemma bounds_of_continuesIdentifier {c : Char} (h : continuesIdentifier c) :
    48 ≤ c.toNat ∧ c.toNat ≤ 122 := by
  simp only [continuesIdentifier, Text.isAsciiAlnum, Text.isAsciiAlpha, Text.isDigit,
    Bool.or_eq_true, Bool.and_eq_true, decide_eq_true_eq, beq_iff_eq, Char.le_def,
    UInt32.le_iff_toNat_le] at h
  change 48 ≤ c.val.toNat ∧ c.val.toNat ≤ 122
  have h0 : '0'.val.toNat = 48 := rfl
  have h9 : '9'.val.toNat = 57 := rfl
  have ha : 'a'.val.toNat = 97 := rfl
  have hz : 'z'.val.toNat = 122 := rfl
  have hA : 'A'.val.toNat = 65 := rfl
  have hZ : 'Z'.val.toNat = 90 := rfl
  rcases h with ((h | h) | h) | rfl
  · omega
  · omega
  · omega
  · decide

lemma toNat_lt_of_continuesIdentifier {c : Char} (h : continuesIdentifier c) : c.toNat < 128 :=
  Nat.lt_of_le_of_lt (bounds_of_continuesIdentifier h).2 (by decide)

/-- A word of lower case letters without `k`, which is no reserved word in any case of letters. -/
def isPlainWord (word : Text) : Bool :=
  !word.isEmpty && word.all (fun c => 'a' ≤ c && c ≤ 'z' && c != 'k') &&
    reservedWords.all fun reserved => reserved.map Char.toLower != word

section

variable {word : Text} (h : isPlainWord word)

include h

lemma letter_of_isPlainWord {c : Char} (hc : c ∈ word) : ('a' ≤ c ∧ c ≤ 'z') ∧ c ≠ 'k' := by
  simp only [isPlainWord, Bool.and_eq_true] at h
  simpa using List.all_eq_true.mp h.1.2 c hc

lemma toNat_lt_of_isPlainWord {c : Char} (hc : c ∈ word) : c.toNat < 128 :=
  toNat_lt_of_continuesIdentifier (by
    have hletter := (letter_of_isPlainWord h hc).1
    simp [continuesIdentifier, Text.isAsciiAlnum, Text.isAsciiAlpha, hletter])

lemma underscore_notMem_of_isPlainWord : '_' ∉ word := fun hc =>
  absurd (letter_of_isPlainWord h hc).1 (by decide)

lemma map_toLower_of_isPlainWord : word.map Char.toLower = word := by
  have hsame : ∀ c ∈ word, c.toLower = c := by
    intro c hc
    have hlow : 'a' ≤ c := (letter_of_isPlainWord h hc).1.1
    rcases Text.toLower_cases c with hsame | ⟨-, hhigh, -⟩
    · exact hsame
    · exact absurd (Nat.le_trans (UInt32.le_iff_toNat_le.mp hlow) hhigh) (by decide)
  rw [List.map_congr_left hsame, List.map_id']

lemma isIdentifier_of_map_toLower {name : Text} (hname : name.map Char.toLower = word) :
    isIdentifier name := by
  have halpha : ∀ c ∈ name, Text.isAsciiAlpha c := by
    intro c hc
    have hletter := (letter_of_isPlainWord h (hname ▸ List.mem_map_of_mem hc)).1
    simp only [Text.isAsciiAlpha, Bool.or_eq_true, Bool.and_eq_true, decide_eq_true_eq]
    rcases Text.toLower_cases c with hsame | ⟨hlow, hhigh, -⟩
    · exact .inl (hsame ▸ hletter)
    · exact .inr ⟨hlow, hhigh⟩
  have hreserved : isReserved name = false := by
    simp only [isPlainWord, Bool.and_eq_true] at h
    by_contra hmem
    have hmem : name ∈ reservedWords := by simpa [isReserved] using hmem
    have hne := List.all_eq_true.mp h.2 name hmem
    simp [hname] at hne
  cases name with
  | nil =>
    subst hname
    simp [isPlainWord] at h
  | cons c rest =>
    refine isIdentifier_cons.mpr ⟨?_, fun d hd => ?_, hreserved⟩
    · simp [startsIdentifier, halpha c List.mem_cons_self]
    · simp [continuesIdentifier, Text.isAsciiAlnum, halpha d (List.mem_cons_of_mem c hd)]

end

lemma snake_eq_of_plainName {name word : Text} (h : plainName name = word) (hword : '_' ∉ word) :
    Text.snake name = word := by
  have hmap : (Text.snake name).map (fun c => if Text.isAsciiAlnum c then c else '_') = word := by
    simp only [plainName] at h
    split at h
    · simp [← h] at hword
    · split at h
      · simp [← h] at hword
      · exact h
  -- No character was replaced, since its place would be an underscore now.
  have hsame : ∀ c ∈ Text.snake name, (if Text.isAsciiAlnum c then c else '_') = c := by
    intro c hc
    have hne : (if Text.isAsciiAlnum c then c else '_') ≠ '_' := by
      intro heq
      exact hword (hmap ▸ List.mem_map.mpr ⟨c, hc, heq⟩)
    by_cases hkept : Text.isAsciiAlnum c
    · rw [if_pos hkept]
    · exact absurd (if_neg hkept) hne
  rw [← hmap, List.map_congr_left hsame, List.map_id']

/-- No other name than the word itself is passed on under a plain word. -/
lemma parameterName_eq_iff {name word : Text} (h : isPlainWord word) :
    parameterName name = word ↔ name = word := by
  have hunderscore := underscore_notMem_of_isPlainWord h
  unfold parameterName
  split
  · rfl
  · next hname =>
    refine ⟨fun hfield => absurd ?_ hname, ?_⟩
    -- An escaped reserved word ends in an underscore, so that nothing was escaped.
    · have hplain : plainName name = word := by
        unfold fieldName safeName at hfield
        split at hfield
        · simp [← hfield] at hunderscore
        · exact hfield
      have hsnake := snake_eq_of_plainName hplain hunderscore
      have hlower : Text.lowerEach name = word := by
        rw [← hsnake] at hunderscore ⊢
        exact (Text.snakeFrom_eq_lowerEach hunderscore).symm
      have hmap := (Text.eq_map_toLower_of_lowerEach hlower fun c hc =>
        ⟨toNat_lt_of_isPlainWord h hc, (letter_of_isPlainWord h hc).2⟩).2
      exact isIdentifier_of_map_toLower h hmap
    · rintro rfl
      exact absurd (isIdentifier_of_map_toLower h (map_toLower_of_isPlainWord h)) hname

end ClickGen.Code
