import ClickGen.Proofs.Code.Literal
import ClickGen.Proofs.Text.Digits

/-!
The numbers of a model that are written bare have the shape of a numeral: whole numbers in the
shortest way, texts that are read as whole numbers of 64 bits, and decimal numbers.
-/

namespace ClickGen.Code

lemma isNumeral_of_isDigit {c : Char} (h : Text.isDigit c) : isNumeral c := by
  simp [isNumeral, h]

lemma all_isNumeral_of_all_isDigit {s : Text} (h : s.all Text.isDigit) : s.all isNumeral := by
  rw [List.all_eq_true] at h ⊢
  exact fun c hc => isNumeral_of_isDigit (h c hc)

lemma all_isNumeral_of_takeSign {s : Text} (h : (Text.takeSign s).2.all isNumeral) :
    s.all isNumeral := by
  unfold Text.takeSign at h
  split at h
  · simp_all [isNumeral]
  · simp_all [isNumeral]
  · exact h

lemma startsNumeral_of_takeSign {s : Text} (h : startsNumeral (Text.takeSign s).2) :
    startsNumeral s := by
  unfold Text.takeSign at h
  split at h
  · rfl
  · rfl
  · exact h

lemma startsNumeral_of_isDigit {c : Char} (h : Text.isDigit c) (s : Text) :
    startsNumeral (c :: s) := by
  have hpoint : c ≠ '.' := by
    rintro rfl
    simp [Text.isDigit] at h
  simp [startsNumeral, hpoint, h]

lemma isBare_of_all_isDigit {s : Text} (hne : s ≠ []) (h : s.all Text.isDigit) : isBare s := by
  cases s with
  | nil => exact absurd rfl hne
  | cons c s =>
    have hc : Text.isDigit c := by simp_all
    rw [isBare, startsNumeral_of_isDigit hc, all_isNumeral_of_all_isDigit h, Bool.and_true]

lemma isBare_of_takeSign {s : Text} (h : isBare (Text.takeSign s).2) : isBare s := by
  rw [isBare, Bool.and_eq_true] at h ⊢
  exact ⟨startsNumeral_of_takeSign h.1, all_isNumeral_of_takeSign h.2⟩

lemma all_isNumeral_of_isExponent {s : Text} (h : Text.isExponent s) : s.all isNumeral := by
  cases s with
  | nil => rfl
  | cons c s =>
    simp only [Text.isExponent, Bool.and_eq_true, Text.isExponentMark, Bool.or_eq_true,
      beq_iff_eq] at h
    obtain ⟨⟨hmark, -⟩, hdigits⟩ := h
    have hs := all_isNumeral_of_takeSign (all_isNumeral_of_all_isDigit hdigits)
    have hc : isNumeral c := by rcases hmark with rfl | rfl <;> rfl
    simp [hc, hs]

lemma isBare_of_isInteger {s : Text} (h : Text.isInteger s) : isBare s := by
  obtain ⟨hne, hall⟩ := Text.isInteger_iff.mp h
  exact isBare_of_takeSign (isBare_of_all_isDigit hne (List.all_eq_true.mpr hall))

lemma isBare_of_readInt64 {s : Text} (h : (Text.readInt64 s).isSome) : isBare s := by
  obtain ⟨i, hi⟩ := Option.isSome_iff_exists.mp h
  exact isBare_of_isInteger (Text.readInt64_eq_some.mp hi).1

lemma isBare_ofInt (i : Int) : isBare (Text.ofInt i) :=
  isBare_of_isInteger (Text.isInteger_ofInt i)

lemma isBare_of_isDecimal {s : Text} (h : Text.isDecimal s) : isBare s := by
  obtain ⟨w, x, hw, hx, hparts⟩ := Text.isDecimal_parts h
  have hdigits : ∀ {t : Text}, (∀ c ∈ t, Text.isDigit c) → t.all isNumeral := fun ht =>
    all_isNumeral_of_all_isDigit (List.all_eq_true.mpr ht)
  have hexponent := all_isNumeral_of_isExponent hx
  refine isBare_of_takeSign ?_
  rw [isBare, Bool.and_eq_true]
  rcases hparts with ⟨hne, heq⟩ | ⟨f, hf, hne, heq⟩
  · rw [heq, List.all_append, hdigits hw, hexponent]
    obtain ⟨c, rest, rfl⟩ := List.exists_cons_of_ne_nil hne
    exact ⟨startsNumeral_of_isDigit (hw c (by simp)) (rest ++ x), rfl⟩
  · have hpoint : isNumeral '.' := rfl
    rw [heq, List.all_append, List.all_append, List.all_cons, hdigits hw, hdigits hf, hexponent,
      hpoint]
    refine ⟨?_, rfl⟩
    cases w with
    | cons c rest => exact startsNumeral_of_isDigit (hw c (by simp)) (rest ++ '.' :: f ++ x)
    | nil =>
      -- no digit before the point, so one after it
      obtain ⟨d, rest, rfl⟩ := List.exists_cons_of_ne_nil fun h => hne ⟨rfl, h⟩
      simpa [startsNumeral] using hf d (by simp)

end ClickGen.Code
