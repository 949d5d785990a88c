import ClickGen.Text.Numeral
import Mathlib.Data.List.Induction
import Mathlib.Data.List.TakeWhile
import Mathlib.Tactic.Lemma
import Mathlib.Tactic.Ring

/-!
The values of digits.

Digits are read from left to right, each on top of ten times what is before it, so that the value of
two runs of digits is told by theirs. A whole number is written in digits of its own value, and the
first of them is no zero unless it is the only one. A text is read as a number of 64 bits exactly
when it is a run of digits behind an optional sign and its value, which may have any size, fits.
-/

namespace ClickGen.Text

/-- Digits behind an optional sign, at least one. -/
def isInteger (s : Text) : Bool := !(takeSign s).2.isEmpty && (takeSign s).2.all isDigit

/-- The number that digits behind an optional sign write, of any size. -/
def integerValue (s : Text) : Int :=
  if (takeSign s).1 then -(digitsValue (takeSign s).2 : Int) else digitsValue (takeSign s).2

def FitsInt64 (i : Int) : Prop := -9223372036854775808 ≤ i ∧ i < 9223372036854775808

instance (i : Int) : Decidable (FitsInt64 i) := inferInstanceAs (Decidable (_ ∧ _))

lemma digitsValue_eq (s : Text) : digitsValue s = Nat.ofDigitChars 10 s 0 := by
  have hstep : (fun n (c : Char) => n * 10 + (c.toNat - '0'.toNat)) =
      fun n (c : Char) => 10 * n + (c.toNat - '0'.toNat) := by
    funext n c
    rw [Nat.mul_comm]
  rw [digitsValue, Nat.ofDigitChars, hstep]

@[simp] lemma digitsValue_nil : digitsValue [] = 0 := rfl

lemma digitsValue_append (s t : Text) :
    digitsValue (s ++ t) = digitsValue s * 10 ^ t.length + digitsValue t := by
  induction t using List.reverseRecOn with
  | nil => simp
  | append_singleton t c ih =>
    have hlast : ∀ u : Text,
        digitsValue (u ++ [c]) = digitsValue u * 10 + (c.toNat - '0'.toNat) := by
      intro u
      rw [digitsValue, List.foldl_append]
      rfl
    rw [← List.append_assoc, hlast, hlast, ih, List.length_append, List.length_singleton]
    ring

lemma digitsValue_zeros {s : Text} (h : ∀ c ∈ s, c = '0') : digitsValue s = 0 := by
  induction s using List.reverseRecOn with
  | nil => rfl
  | append_singleton s c ih =>
    obtain rfl : c = '0' := h c (by simp)
    rw [digitsValue_append, ih fun d hd => h d (by simp [hd])]
    rfl

/-! ### Written numbers -/

@[simp] lemma digitsValue_ofNat (n : Nat) : digitsValue (ofNat n) = n := by
  rw [digitsValue_eq]
  exact Nat.ofDigitChars_toDigits (by decide) (by decide)

lemma isDigit_of_mem_ofNat {n : Nat} {c : Char} (h : c ∈ ofNat n) : isDigit c := by
  have hc := Nat.isDigit_of_mem_toDigits (by decide) (by decide) h
  simpa [Char.isDigit, isDigit, Char.le_def] using hc

lemma ofNat_ne_nil (n : Nat) : ofNat n ≠ [] := Nat.toDigits_ne_nil

lemma digitChar_eq_zero {n : Nat} (h : n < 10) (hc : Nat.digitChar n = '0') : n = 0 := by
  have hall : ∀ n < 10, Nat.digitChar n = '0' → n = 0 := by decide
  exact hall n h hc

lemma head?_ofNat {n : Nat} (h : n ≠ 0) : (ofNat n).head? ≠ some '0' := by
  induction n using Nat.strong_induction_on with
  | h n ih =>
    rw [ofNat, Nat.toDigits_eq_if (by decide)]
    split
    · next hlt =>
      intro hhead
      exact h (digitChar_eq_zero hlt (Option.some.inj hhead))
    · next hge =>
      have hquotient : n / 10 ≠ 0 := by omega
      have hhead := ih (n / 10) (by omega) hquotient
      obtain ⟨c, rest, hdigits⟩ := List.exists_cons_of_ne_nil (ofNat_ne_nil (n / 10))
      rw [hdigits] at hhead
      rw [ofNat] at hdigits
      rwa [hdigits]

lemma takeSign_of_digit {c : Char} (h : isDigit c) (s : Text) :
    takeSign (c :: s) = (false, c :: s) := by
  have hminus : c ≠ '-' := by
    rintro rfl
    simp [isDigit] at h
  have hplus : c ≠ '+' := by
    rintro rfl
    simp [isDigit] at h
  unfold takeSign
  split <;> simp_all

lemma takeSign_of_all_digits {s : Text} (h : ∀ c ∈ s, isDigit c) : takeSign s = (false, s) := by
  cases s with
  | nil => rfl
  | cons c s => exact takeSign_of_digit (h c (by simp)) s

lemma integerValue_of_all_digits {s : Text} (h : ∀ c ∈ s, isDigit c) :
    integerValue s = digitsValue s := by
  rw [integerValue, takeSign_of_all_digits h]
  rfl

lemma isInteger_iff {s : Text} :
    isInteger s ↔ (takeSign s).2 ≠ [] ∧ ∀ c ∈ (takeSign s).2, isDigit c := by
  simp [isInteger]

lemma isInteger_ofInt (i : Int) : isInteger (ofInt i) := by
  rw [isInteger_iff]
  cases i with
  | ofNat n =>
    have hall : ∀ c ∈ ofNat n, isDigit c := fun c hc => isDigit_of_mem_ofNat hc
    rw [ofInt, takeSign_of_all_digits hall]
    exact ⟨ofNat_ne_nil n, hall⟩
  | negSucc n => exact ⟨ofNat_ne_nil (n + 1), fun c hc => isDigit_of_mem_ofNat hc⟩

lemma integerValue_ofInt (i : Int) : integerValue (ofInt i) = i := by
  cases i with
  | ofNat n =>
    rw [ofInt, integerValue_of_all_digits fun c hc => isDigit_of_mem_ofNat hc, digitsValue_ofNat]
    rfl
  | negSucc n =>
    rw [ofInt, integerValue, takeSign, digitsValue_ofNat]
    rfl

/-- **Numbers of 64 bits.** A text is read as one exactly when it writes a whole number that fits. -/
lemma readInt64_eq_some {s : Text} {i : Int} :
    readInt64 s = some i ↔ isInteger s ∧ FitsInt64 (integerValue s) ∧ i = integerValue s := by
  obtain ⟨⟨negative, digits⟩, hsign⟩ : ∃ sign, takeSign s = sign := ⟨_, rfl⟩
  rw [readInt64, isInteger, integerValue, FitsInt64, hsign]
  simp only
  generalize (if negative then -(digitsValue digits : Int) else digitsValue digits) = value
  have hrefused : (digits.isEmpty || !digits.all isDigit) =
      !(!digits.isEmpty && digits.all isDigit) := by
    rw [Bool.not_and, Bool.not_not]
  rw [hrefused]
  cases !digits.isEmpty && digits.all isDigit with
  | false => simp
  | true =>
    by_cases hfits : -9223372036854775808 ≤ value ∧ value < 9223372036854775808
    · simp [hfits, eq_comm]
    · rw [← Bool.decide_and, decide_eq_false hfits]
      simp [hfits]

/-! ### Decimal numbers -/

lemma isDecimal_of_isInteger {s : Text} (h : isInteger s) : isDecimal s := by
  obtain ⟨hne, hall⟩ := isInteger_iff.mp h
  have htake : (takeSign s).2.takeWhile isDigit = (takeSign s).2 :=
    List.takeWhile_eq_self_iff.mpr hall
  have hdrop : (takeSign s).2.dropWhile isDigit = [] := List.dropWhile_eq_nil_iff.mpr hall
  rw [isDecimal, htake, hdrop]
  simp [hne, isExponent]

lemma isDigit_of_mem_takeWhile {s : Text} {c : Char} (h : c ∈ s.takeWhile isDigit) : isDigit c :=
  List.all_eq_true.mp List.all_takeWhile c h

lemma isDecimal_parts {s : Text} (h : isDecimal s) :
    ∃ w x, (∀ c ∈ w, isDigit c) ∧ isExponent x ∧
      (w ≠ [] ∧ (takeSign s).2 = w ++ x ∨
        ∃ f, (∀ c ∈ f, isDigit c) ∧ ¬ (w = [] ∧ f = []) ∧ (takeSign s).2 = w ++ '.' :: f ++ x) := by
  rw [isDecimal] at h
  generalize (takeSign s).2 = body at h ⊢
  simp only at h
  have hbody := List.takeWhile_append_dropWhile (p := isDigit) (l := body)
  split at h
  · next rest hdrop =>
    simp only [Bool.and_eq_true, Bool.not_eq_true', Bool.and_eq_false_iff,
      List.isEmpty_eq_false_iff] at h
    obtain ⟨hdigits, hexponent⟩ := h
    have hrest := List.takeWhile_append_dropWhile (p := isDigit) (l := rest)
    refine ⟨body.takeWhile isDigit, rest.dropWhile isDigit,
      fun c hc => isDigit_of_mem_takeWhile hc, hexponent, .inr ⟨rest.takeWhile isDigit,
        fun c hc => isDigit_of_mem_takeWhile hc, by tauto, ?_⟩⟩
    rw [List.append_assoc, List.cons_append, hrest, ← hdrop, hbody]
  · simp only [Bool.and_eq_true, Bool.not_eq_true', List.isEmpty_eq_false_iff] at h
    exact ⟨body.takeWhile isDigit, body.dropWhile isDigit,
      fun c hc => isDigit_of_mem_takeWhile hc, h.2, .inl ⟨h.1, hbody.symm⟩⟩

end ClickGen.Text
