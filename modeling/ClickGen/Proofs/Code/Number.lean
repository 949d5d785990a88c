import ClickGen.Decimal
import ClickGen.Proofs.Code.Numeral
import ClickGen.Proofs.Text.Parts
import Mathlib.Algebra.Field.Rat
import Mathlib.Algebra.Order.Field.Basic
import Mathlib.Data.List.TakeWhile
import Mathlib.Tactic.FieldSimp
import Mathlib.Tactic.NormNum

/-!
Numbers in Python source, and the numbers that they stand for.

The grammar is that of the language: whole numbers, which begin with a zero only if they are zero;
numbers with a point, with digits on at least one side of it; exponents behind either; and one sign
in front. Digits may be grouped by single underscores. `Denotes s q` says that `s` is such a literal
and that `q` is its exact value.

A model writes decimal numbers in nearly the same way. Main statement: a decimal number of a model
is a literal, and then of the same value, exactly when it has no zeros too many, that is, unless it
is a whole number that begins with a zero without being zero.
-/

namespace ClickGen

def Decimal.value (d : Decimal) : ℚ :=
  (if d.negative then -1 else 1) * (d.mantissa * 10 ^ d.exponent)

namespace Code

open Text (isDigit isExponentMark digitsValue takeSign)

/-- Digits, which single underscores may stand between. The second text is that of the digits
alone. -/
inductive IsDigitPart : Text → Text → Prop
  | single {c : Char} (hc : isDigit c) : IsDigitPart [c] [c]
  | next {c : Char} {s digits : Text} (hc : isDigit c) (hs : IsDigitPart s digits) :
      IsDigitPart (c :: s) (c :: digits)
  | grouped {c : Char} {s digits : Text} (hc : isDigit c) (hs : IsDigitPart s digits) :
      IsDigitPart (c :: '_' :: s) (c :: digits)

inductive IsInteger : Text → Nat → Prop
  | nonzero {s digits : Text} {c : Char} (hs : IsDigitPart s (c :: digits)) (hc : c ≠ '0') :
      IsInteger s (digitsValue (c :: digits))
  | zero {s digits : Text} (hs : IsDigitPart s digits) (hzero : ∀ c ∈ digits, c = '0') :
      IsInteger s 0

def fractionValue (digits : Text) : ℚ := digitsValue digits / 10 ^ digits.length

inductive IsPointFloat : Text → ℚ → Prop
  | fraction {s digits : Text} (hs : IsDigitPart s digits) :
      IsPointFloat ('.' :: s) (fractionValue digits)
  | both {w whole s digits : Text} (hw : IsDigitPart w whole) (hs : IsDigitPart s digits) :
      IsPointFloat (w ++ '.' :: s) (digitsValue whole + fractionValue digits)
  | whole {w whole : Text} (hw : IsDigitPart w whole) :
      IsPointFloat (w ++ ['.']) (digitsValue whole)

inductive IsExponentPart : Text → ℤ → Prop
  | unsigned {m : Char} {s digits : Text} (hm : isExponentMark m) (hs : IsDigitPart s digits) :
      IsExponentPart (m :: s) (digitsValue digits)
  | plus {m : Char} {s digits : Text} (hm : isExponentMark m) (hs : IsDigitPart s digits) :
      IsExponentPart (m :: '+' :: s) (digitsValue digits)
  | minus {m : Char} {s digits : Text} (hm : isExponentMark m) (hs : IsDigitPart s digits) :
      IsExponentPart (m :: '-' :: s) (-digitsValue digits)

inductive IsUnsigned : Text → ℚ → Prop
  | integer {s : Text} {n : Nat} (hs : IsInteger s n) : IsUnsigned s n
  | point {s : Text} {q : ℚ} (hs : IsPointFloat s q) : IsUnsigned s q
  | exponent {s digits x : Text} {e : ℤ} (hs : IsDigitPart s digits) (hx : IsExponentPart x e) :
      IsUnsigned (s ++ x) (digitsValue digits * 10 ^ e)
  | pointExponent {s x : Text} {q : ℚ} {e : ℤ} (hs : IsPointFloat s q) (hx : IsExponentPart x e) :
      IsUnsigned (s ++ x) (q * 10 ^ e)

/-- A decimal literal behind an optional sign, with its value. -/
inductive Denotes : Text → ℚ → Prop
  | unsigned {s : Text} {q : ℚ} (hs : IsUnsigned s q) : Denotes s q
  | plus {s : Text} {q : ℚ} (hs : IsUnsigned s q) : Denotes ('+' :: s) q
  | minus {s : Text} {q : ℚ} (hs : IsUnsigned s q) : Denotes ('-' :: s) (-q)

/-- A whole number with zeros too many: it begins with a zero and is not zero. -/
def isPadded (s : Text) : Bool :=
  let digits := (takeSign s).2
  digits.all isDigit && digits.head? == some '0' && digits.any (· != '0')

lemma isDigitPart_of_all {s : Text} (hne : s ≠ []) (h : ∀ c ∈ s, isDigit c) : IsDigitPart s s := by
  induction s with
  | nil => exact absurd rfl hne
  | cons c s ih =>
    cases s with
    | nil => exact .single (h c (by simp))
    | cons d s => exact .next (h c (by simp)) (ih (by simp) fun e he => h e (by simp_all))

section

variable {s digits : Text} (h : IsDigitPart s digits)

include h

lemma IsDigitPart.head? : ∃ c, s.head? = some c ∧ digits.head? = some c ∧ isDigit c := by
  cases h with
  | single hc => exact ⟨_, rfl, rfl, hc⟩
  | next hc => exact ⟨_, rfl, rfl, hc⟩
  | grouped hc => exact ⟨_, rfl, rfl, hc⟩

lemma IsDigitPart.eq (hs : '_' ∉ s) : digits = s ∧ ∀ c ∈ s, isDigit c := by
  induction h with
  | single hc => simpa using hc
  | next hc _ ih =>
    obtain ⟨heq, hall⟩ := ih fun hmem => hs (List.mem_cons_of_mem _ hmem)
    subst heq
    simpa using ⟨hc, hall⟩
  | grouped => simp at hs

end

lemma IsPointFloat.head? {s : Text} {q : ℚ} (h : IsPointFloat s q) :
    ∃ c, s.head? = some c ∧ (isDigit c ∨ c = '.') := by
  have hfront : ∀ {w whole : Text} (rest : Text), IsDigitPart w whole →
      ∃ c, (w ++ rest).head? = some c ∧ (isDigit c ∨ c = '.') := by
    intro w whole rest hw
    obtain ⟨c, hc, -, hdigit⟩ := hw.head?
    exact ⟨c, by rw [List.head?_append, hc]; rfl, .inl hdigit⟩
  cases h with
  | fraction => exact ⟨'.', rfl, .inr rfl⟩
  | both hw => exact hfront _ hw
  | whole hw => exact hfront _ hw

lemma IsUnsigned.head? {s : Text} {q : ℚ} (h : IsUnsigned s q) :
    ∃ c, s.head? = some c ∧ (isDigit c ∨ c = '.') := by
  cases h with
  | integer hs =>
    cases hs with
    | nonzero hs =>
      obtain ⟨c, hc, -, hdigit⟩ := hs.head?
      exact ⟨c, hc, .inl hdigit⟩
    | zero hs =>
      obtain ⟨c, hc, -, hdigit⟩ := hs.head?
      exact ⟨c, hc, .inl hdigit⟩
  | point hs => exact hs.head?
  | exponent hs =>
    obtain ⟨c, hc, -, hdigit⟩ := hs.head?
    exact ⟨c, by rw [List.head?_append, hc]; rfl, .inl hdigit⟩
  | pointExponent hs =>
    obtain ⟨c, hc, hfirst⟩ := hs.head?
    exact ⟨c, by rw [List.head?_append, hc]; rfl, hfirst⟩

lemma IsUnsigned.takeSign {s : Text} {q : ℚ} (h : IsUnsigned s q) :
    Text.takeSign s = (false, s) := by
  obtain ⟨c, hc, hfirst⟩ := h.head?
  obtain ⟨rest, rfl⟩ : ∃ rest, s = c :: rest := List.head?_eq_some_iff.mp hc
  rcases hfirst with hdigit | rfl
  · exact Text.takeSign_of_digit hdigit rest
  · rfl

lemma IsPointFloat.point_mem {s : Text} {q : ℚ} (h : IsPointFloat s q) : '.' ∈ s := by
  cases h <;> simp

lemma IsExponentPart.exists_mark {x : Text} {e : ℤ} (h : IsExponentPart x e) :
    ∃ m ∈ x, isExponentMark m := by
  cases h with
  | unsigned hm => exact ⟨_, List.mem_cons_self, hm⟩
  | plus hm => exact ⟨_, List.mem_cons_self, hm⟩
  | minus hm => exact ⟨_, List.mem_cons_self, hm⟩

lemma isExponentMark_of_isDigit {c : Char} (h : isDigit c) : isExponentMark c = false := by
  by_contra hm
  simp only [isExponentMark, Bool.not_eq_false, Bool.or_eq_true, beq_iff_eq] at hm
  rcases hm with rfl | rfl
  · exact absurd h (by decide)
  · exact absurd h (by decide)

lemma IsUnsigned.not_padded {s : Text} {q : ℚ} (h : IsUnsigned s q) (hall : ∀ c ∈ s, isDigit c)
    (hhead : s.head? = some '0') : ∀ c ∈ s, c = '0' := by
  have hunderscore : '_' ∉ s := fun hmem => absurd (hall _ hmem) (by decide)
  have hpoint : '.' ∉ s := fun hmem => absurd (hall _ hmem) (by decide)
  have hmark : ∀ m ∈ s, ¬ isExponentMark m := fun m hmem =>
    Bool.eq_false_iff.mp (isExponentMark_of_isDigit (hall m hmem))
  cases h with
  | integer hs =>
    cases hs with
    | nonzero hs hc =>
      obtain ⟨d, hd, hfirst, -⟩ := hs.head?
      rw [hhead] at hd
      rw [← hd] at hfirst
      exact absurd (Option.some.inj hfirst) hc
    | zero hs hzero =>
      obtain ⟨rfl, -⟩ := hs.eq hunderscore
      exact hzero
  | point hs => exact absurd hs.point_mem hpoint
  | exponent _ hx =>
    obtain ⟨m, hmem, hm⟩ := hx.exists_mark
    exact absurd hm (hmark m (List.mem_append_right _ hmem))
  | pointExponent hs => exact absurd (List.mem_append_left _ hs.point_mem) hpoint

lemma isPadded_eq_false {s : Text} : isPadded s = false ↔
    ((∀ c ∈ (takeSign s).2, isDigit c) → (takeSign s).2.head? = some '0' →
      ∀ c ∈ (takeSign s).2, c = '0') := by
  generalize hdigits : (takeSign s).2 = digits
  rw [isPadded, hdigits, ← Bool.not_eq_true]
  simp only [Bool.and_eq_true, beq_iff_eq, List.all_eq_true, List.any_eq_true, bne_iff_ne]
  push Not
  tauto

lemma Denotes.not_padded {s : Text} {q : ℚ} (h : Denotes s q) : isPadded s = false := by
  rw [isPadded_eq_false]
  cases h with
  | unsigned hs =>
    rw [hs.takeSign]
    exact hs.not_padded
  | plus hs => exact hs.not_padded
  | minus hs => exact hs.not_padded

/-! ### The value of a decimal number -/

/-- The value of digits with or without a point among them. -/
def pointValue (m : Text) : ℚ :=
  digitsValue (m.takeWhile (· != '.') ++ (m.dropWhile (· != '.')).drop 1) *
    10 ^ (-(((m.dropWhile (· != '.')).drop 1).length : ℤ))

lemma ne_point_of_isDigit {c : Char} (h : isDigit c) : (c != '.') = true := by
  rw [bne_iff_ne]
  rintro rfl
  exact absurd h (by decide)

lemma pointValue_digits {w : Text} (h : ∀ c ∈ w, isDigit c) : pointValue w = digitsValue w := by
  have hw : ∀ c ∈ w, (c != '.') = true := fun c hc => ne_point_of_isDigit (h c hc)
  rw [pointValue, List.takeWhile_eq_self_iff.mpr hw, List.dropWhile_eq_nil_iff.mpr hw]
  simp

lemma pointValue_append {w : Text} (h : ∀ c ∈ w, isDigit c) (f : Text) :
    pointValue (w ++ '.' :: f) = digitsValue w + fractionValue f := by
  have hw : ∀ c ∈ w, (c != '.') = true := fun c hc => ne_point_of_isDigit (h c hc)
  have hpoint : ∀ c ∈ ('.' :: f).head?, (c != '.') = false := by simp
  have htake : (w ++ '.' :: f).takeWhile (· != '.') = w := takeWhile_append_eq hw hpoint
  have hdrop : (w ++ '.' :: f).dropWhile (· != '.') = '.' :: f := dropWhile_append_eq hw hpoint
  have hten : (10 : ℚ) ^ f.length ≠ 0 := by positivity
  rw [pointValue, htake, hdrop, List.drop_one, List.tail_cons, Text.digitsValue_append,
    fractionValue, zpow_neg, zpow_natCast]
  push_cast
  field_simp

lemma IsPointFloat.value {s : Text} {q : ℚ} (h : IsPointFloat s q) (hs : '_' ∉ s) :
    pointValue s = q ∧ ∀ c ∈ s, isExponentMark c = false := by
  cases h with
  | @fraction f digits hf =>
    obtain ⟨rfl, hall⟩ := hf.eq fun hmem => hs (List.mem_cons_of_mem _ hmem)
    have hvalue := pointValue_append (w := []) (by simp) digits
    refine ⟨by simpa using hvalue, ?_⟩
    rintro c (_ | ⟨_, hc⟩)
    · decide
    · exact isExponentMark_of_isDigit (hall c hc)
  | @both w whole f digits hw hf =>
    obtain ⟨rfl, hwhole⟩ := hw.eq fun hmem => hs (List.mem_append_left _ hmem)
    obtain ⟨rfl, hall⟩ :=
      hf.eq fun hmem => hs (List.mem_append_right _ (List.mem_cons_of_mem _ hmem))
    refine ⟨pointValue_append hwhole digits, fun c hc => ?_⟩
    rcases List.mem_append.mp hc with hc | hc
    · exact isExponentMark_of_isDigit (hwhole c hc)
    · rcases List.mem_cons.mp hc with rfl | hc
      · decide
      · exact isExponentMark_of_isDigit (hall c hc)
  | @whole w whole hw =>
    obtain ⟨rfl, hwhole⟩ := hw.eq fun hmem => hs (List.mem_append_left _ hmem)
    have hvalue := pointValue_append hwhole []
    refine ⟨by simpa [fractionValue] using hvalue, fun c hc => ?_⟩
    rcases List.mem_append.mp hc with hc | hc
    · exact isExponentMark_of_isDigit (hwhole c hc)
    · obtain rfl := List.mem_singleton.mp hc
      decide

lemma IsExponentPart.value {x : Text} {e : ℤ} (h : IsExponentPart x e) (hx : '_' ∉ x) :
    ∃ m rest, x = m :: rest ∧ isExponentMark m ∧ Text.integerValue rest = e := by
  cases h with
  | @unsigned m s digits hm hs =>
    obtain ⟨rfl, hall⟩ := hs.eq fun hmem => hx (List.mem_cons_of_mem _ hmem)
    exact ⟨m, _, rfl, hm, Text.integerValue_of_all_digits hall⟩
  | @plus m s digits hm hs =>
    obtain ⟨rfl, -⟩ := hs.eq fun hmem => hx (by simp [hmem])
    exact ⟨m, _, rfl, hm, rfl⟩
  | @minus m s digits hm hs =>
    obtain ⟨rfl, -⟩ := hs.eq fun hmem => hx (by simp [hmem])
    exact ⟨m, _, rfl, hm, rfl⟩

open Decimal

lemma value_ofText {s : Text} (h : takeSign s = (false, s)) :
    (ofText s).value = pointValue (s.takeWhile (!isExponentMark ·)) *
      10 ^ Text.integerValue ((s.dropWhile (!isExponentMark ·)).drop 1) := by
  have hten : (10 : ℚ) ≠ 0 := by norm_num
  rw [ofText, h, Decimal.value, pointValue, Text.integerValue]
  simp only [Bool.false_eq_true, if_false, one_mul, sub_eq_add_neg]
  rw [zpow_add₀ hten]
  ring

lemma value_ofText_append {s x rest : Text} {m : Char} (h : takeSign (s ++ x) = (false, s ++ x))
    (hs : ∀ c ∈ s, isExponentMark c = false) (hx : x = m :: rest) (hm : isExponentMark m) :
    (ofText (s ++ x)).value = pointValue s * 10 ^ Text.integerValue rest := by
  have hall : ∀ c ∈ s, (!isExponentMark c) = true := fun c hc => by rw [hs c hc]; rfl
  have hmark : ∀ c ∈ x.head?, (!isExponentMark c) = false := by simp [hx, hm]
  rw [value_ofText h, takeWhile_append_eq hall hmark, dropWhile_append_eq hall hmark, hx,
    List.drop_one, List.tail_cons]

lemma value_ofText_of_noMark {s : Text} (h : takeSign s = (false, s))
    (hs : ∀ c ∈ s, isExponentMark c = false) : (ofText s).value = pointValue s := by
  have hall : ∀ c ∈ s, (!isExponentMark c) = true := fun c hc => by rw [hs c hc]; rfl
  have hzero : Text.integerValue [] = 0 := rfl
  rw [value_ofText h, List.takeWhile_eq_self_iff.mpr hall, List.dropWhile_eq_nil_iff.mpr hall,
    List.drop_nil, hzero, zpow_zero, mul_one]

lemma IsUnsigned.value {s : Text} {q : ℚ} (h : IsUnsigned s q) (hs : '_' ∉ s) :
    (ofText s).value = q := by
  have hsign := h.takeSign
  have hdigits : ∀ w : Text, (∀ c ∈ w, isDigit c) → ∀ c ∈ w, isExponentMark c = false :=
    fun w hw c hc => isExponentMark_of_isDigit (hw c hc)
  cases h with
  | integer hn =>
    cases hn with
    | nonzero hd =>
      obtain ⟨rfl, hall⟩ := hd.eq hs
      rw [value_ofText_of_noMark hsign (hdigits _ hall), pointValue_digits hall]
    | zero hd hzero =>
      obtain ⟨rfl, hall⟩ := hd.eq hs
      rw [value_ofText_of_noMark hsign (hdigits _ hall), pointValue_digits hall,
        Text.digitsValue_zeros hzero]
  | point hp =>
    obtain ⟨hvalue, hmark⟩ := hp.value hs
    rw [value_ofText_of_noMark hsign hmark, hvalue]
  | exponent hd hx =>
    obtain ⟨rfl, hall⟩ := hd.eq fun hmem => hs (List.mem_append_left _ hmem)
    obtain ⟨m, rest, hrest, hm, he⟩ := hx.value fun hmem => hs (List.mem_append_right _ hmem)
    rw [value_ofText_append hsign (hdigits _ hall) hrest hm, pointValue_digits hall, he]
  | pointExponent hp hx =>
    obtain ⟨hvalue, hmark⟩ := hp.value fun hmem => hs (List.mem_append_left _ hmem)
    obtain ⟨m, rest, hrest, hm, he⟩ := hx.value fun hmem => hs (List.mem_append_right _ hmem)
    rw [value_ofText_append hsign hmark hrest hm, hvalue, he]

lemma value_ofText_minus {s : Text} (h : takeSign s = (false, s)) :
    (ofText ('-' :: s)).value = -(ofText s).value := by
  rw [ofText, ofText, h, Decimal.value, Decimal.value]
  simp [takeSign]

lemma value_ofText_plus {s : Text} (h : takeSign s = (false, s)) :
    (ofText ('+' :: s)).value = (ofText s).value := by
  rw [ofText, ofText, h]
  rfl

lemma Denotes.value {s : Text} {q : ℚ} (h : Denotes s q) (hs : '_' ∉ s) :
    (ofText s).value = q := by
  cases h with
  | unsigned hu => exact hu.value hs
  | plus hu =>
    rw [value_ofText_plus hu.takeSign]
    exact hu.value fun hmem => hs (List.mem_cons_of_mem _ hmem)
  | minus hu =>
    rw [value_ofText_minus hu.takeSign, hu.value fun hmem => hs (List.mem_cons_of_mem _ hmem)]

/-! ### The numbers of models -/

lemma exists_isInteger {s : Text} (hne : s ≠ []) (h : ∀ c ∈ s, isDigit c)
    (hzero : s.head? = some '0' → ∀ c ∈ s, c = '0') : ∃ n, IsInteger s n := by
  have hs := isDigitPart_of_all hne h
  by_cases hhead : s.head? = some '0'
  · exact ⟨0, .zero hs (hzero hhead)⟩
  · cases s with
    | nil => exact absurd rfl hne
    | cons c s => exact ⟨_, .nonzero hs (by simpa using hhead)⟩

lemma exists_isExponentPart {x : Text} (h : Text.isExponent x) (hne : x ≠ []) :
    ∃ e, IsExponentPart x e := by
  cases x with
  | nil => exact absurd rfl hne
  | cons m s =>
    simp only [Text.isExponent, Bool.and_eq_true, Bool.not_eq_true', List.isEmpty_eq_false_iff,
      List.all_eq_true] at h
    obtain ⟨⟨hm, hdigits⟩, hall⟩ := h
    have hs := isDigitPart_of_all hdigits hall
    unfold Text.takeSign at hs
    split at hs
    · exact ⟨_, .minus hm hs⟩
    · exact ⟨_, .plus hm hs⟩
    · exact ⟨_, .unsigned hm hs⟩

lemma exists_isPointFloat {w f : Text} (hw : ∀ c ∈ w, isDigit c) (hf : ∀ c ∈ f, isDigit c)
    (hne : ¬ (w = [] ∧ f = [])) : ∃ q, IsPointFloat (w ++ '.' :: f) q := by
  by_cases hwhole : w = []
  · have hfraction : f ≠ [] := fun h => hne ⟨hwhole, h⟩
    rw [hwhole]
    exact ⟨_, .fraction (isDigitPart_of_all hfraction hf)⟩
  · by_cases hfraction : f = []
    · rw [hfraction]
      exact ⟨_, .whole (isDigitPart_of_all hwhole hw)⟩
    · exact ⟨_, .both (isDigitPart_of_all hwhole hw) (isDigitPart_of_all hfraction hf)⟩

lemma exists_isUnsigned {s : Text} (h : Text.isDecimal s) (hzero : isPadded s = false) :
    ∃ q, IsUnsigned (takeSign s).2 q := by
  rw [isPadded_eq_false] at hzero
  obtain ⟨w, x, hw, hx, ⟨hne, heq⟩ | ⟨f, hf, hne, heq⟩⟩ := Text.isDecimal_parts h
  · rw [heq] at hzero ⊢
    by_cases hexponent : x = []
    · rw [hexponent, List.append_nil] at hzero ⊢
      obtain ⟨n, hn⟩ := exists_isInteger hne hw (hzero hw)
      exact ⟨n, .integer hn⟩
    · obtain ⟨e, he⟩ := exists_isExponentPart hx hexponent
      exact ⟨_, .exponent (isDigitPart_of_all hne hw) he⟩
  · obtain ⟨q, hpoint⟩ := exists_isPointFloat hw hf hne
    rw [heq]
    by_cases hexponent : x = []
    · rw [hexponent, List.append_nil]
      exact ⟨q, .point hpoint⟩
    · obtain ⟨e, he⟩ := exists_isExponentPart hx hexponent
      exact ⟨_, .pointExponent hpoint he⟩

lemma exists_denotes {s : Text} (h : Text.isDecimal s) (hzero : isPadded s = false) :
    ∃ q, Denotes s q := by
  obtain ⟨q, hq⟩ := exists_isUnsigned h hzero
  unfold Text.takeSign at hq
  split at hq
  · exact ⟨_, .minus hq⟩
  · exact ⟨_, .plus hq⟩
  · exact ⟨_, .unsigned hq⟩

/-- **Which decimal numbers are literals.** A decimal number is a literal exactly when it has no
zeros too many, and a literal of its own value and no other. -/
lemma denotes_iff {s : Text} (h : Text.isDecimal s) {q : ℚ} :
    Denotes s q ↔ isPadded s = false ∧ q = (Decimal.ofText s).value := by
  have hunderscore : '_' ∉ s := by
    have hbare := isBare_of_isDecimal h
    rw [isBare, Bool.and_eq_true, List.all_eq_true] at hbare
    exact fun hmem => absurd (hbare.2 _ hmem) (by decide)
  constructor
  · exact fun hq => ⟨hq.not_padded, (hq.value hunderscore).symm⟩
  · rintro ⟨hzero, rfl⟩
    obtain ⟨q, hq⟩ := exists_denotes h hzero
    rwa [hq.value hunderscore]

lemma value_ofText_of_isInteger {s : Text} (h : Text.isInteger s) :
    (ofText s).value = Text.integerValue s := by
  obtain ⟨-, hall⟩ := Text.isInteger_iff.mp h
  have hdigits : ∀ t : Text, (∀ c ∈ t, isDigit c) → (ofText t).value = digitsValue t := by
    intro t ht
    rw [value_ofText_of_noMark (Text.takeSign_of_all_digits ht)
      fun c hc => isExponentMark_of_isDigit (ht c hc), pointValue_digits ht]
  rw [Text.integerValue]
  unfold Text.takeSign at hall ⊢
  split at hall
  · rw [value_ofText_minus (Text.takeSign_of_all_digits hall), hdigits _ hall]
    simp
  · rw [value_ofText_plus (Text.takeSign_of_all_digits hall), hdigits _ hall]
    simp
  · rw [hdigits _ hall]
    simp

lemma isPadded_ofInt (i : ℤ) : isPadded (Text.ofInt i) = false := by
  have hnat : ∀ n : Nat, (Text.ofNat n).head? = some '0' → ∀ c ∈ Text.ofNat n, c = '0' := by
    intro n hhead
    have hn : n = 0 := by
      by_contra hne
      exact Text.head?_ofNat hne hhead
    subst hn
    simp [Text.ofNat]
  rw [isPadded_eq_false]
  cases i with
  | ofNat n =>
    rw [Text.ofInt, Text.takeSign_of_all_digits fun c hc => Text.isDigit_of_mem_ofNat hc]
    exact fun _ => hnat n
  | negSucc n => exact fun _ => hnat (n + 1)

lemma denotes_ofInt {i : ℤ} {q : ℚ} : Denotes (Text.ofInt i) q ↔ q = i := by
  have hwhole := Text.isInteger_ofInt i
  rw [denotes_iff (Text.isDecimal_of_isInteger hwhole), value_ofText_of_isInteger hwhole,
    Text.integerValue_ofInt]
  exact and_iff_right (isPadded_ofInt i)

end Code

end ClickGen
