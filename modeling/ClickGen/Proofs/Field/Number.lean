import ClickGen.Proofs.Code.Number
import ClickGen.Proofs.Field.Line

/-!
The numbers that stand bare in an option.

The default of a field with numbers, and the bounds of its type, are written without quotes where
the model has numbers for them. `typeBounds?` reads the bounds out of the source of an option. Main
statement: each of them stands for the number of the model, unless it has zeros too many: a whole
number that the model writes as `007`, say, is no literal. The bounds of whole numbers never are
written so, since they are put in the shortest way.
-/

namespace ClickGen

open Code Decorator

namespace Decorator

structure Bounds where
  minimum? : Option Text
  maximum? : Option Text
  deriving DecidableEq

/-- Reads a type of numbers: the word `plain`, or a call of `range` with the bounds. -/
def bounds? (range plain : Text) : List Token → Option Bounds
  | [.name word] => if word = plain then some ⟨none, none⟩ else none
  | .name package :: .mark '.' :: .name function :: .mark '(' :: arguments =>
    if package = "click" ∧ function = range then
      match arguments with
      | [.number low, .mark ',', .number high, .mark ')'] => some ⟨some low, some high⟩
      | [.name bound, .mark '=', .number n, .mark ')'] =>
        if bound = "min" then some ⟨some n, none⟩
        else if bound = "max" then some ⟨none, some n⟩
        else none
      | _ => none
    else none
  | _ => none

lemma bounds?_rangeTokens (range plain : Text) (minimum? maximum? : Option Text) :
    bounds? range plain (rangeTokens range plain minimum? maximum?) =
      some ⟨minimum?, maximum?⟩ := by
  cases minimum? with
  | none =>
    cases maximum? with
    | none => exact if_pos rfl
    | some high => exact if_pos ⟨rfl, rfl⟩
  | some low =>
    cases maximum? with
    | none => exact if_pos ⟨rfl, rfl⟩
    | some high => exact if_pos ⟨rfl, rfl⟩

lemma rangeTokens_eq_plain {range plain : Text} {minimum? maximum? : Option Text} :
    rangeTokens range plain minimum? maximum? = [.name plain] ↔
      minimum? = none ∧ maximum? = none := by
  cases minimum? <;> cases maximum? <;> simp [rangeTokens, callTokens]

end Decorator

namespace Kind

/-- The words for the numbers of a kind: between bounds, and without any. -/
def numberWords? : Kind → Option (Text × Text)
  | .integer => some ("IntRange", "int")
  | .float => some ("FloatRange", "float")
  | _ => none

def typeBounds? (kind : Kind) (source : Text) : Option Bounds :=
  kind.numberWords?.bind fun words => (value? source "type").bind (bounds? words.1 words.2)

lemma typeBounds?_of_value {kind : Kind} {source range plain : Text}
    {minimum? maximum? : Option Text} (hwords : kind.numberWords? = some (range, plain))
    (h : value? source "type" = some (rangeTokens range plain minimum? maximum?)) :
    kind.typeBounds? source = some ⟨minimum?, maximum?⟩ := by
  rw [typeBounds?, hwords, Option.bind_some, h, Option.bind_some, bounds?_rangeTokens]

end Kind

namespace Field

variable {f : Field} {purpose : Purpose} {code : Text}

lemma value?_type_integer (hk : f.kind = .integer) (h : f.code? purpose = some code) :
    value? code "type" = some (rangeTokens "IntRange" "int" (integerBound? f.props.minimum?)
      (integerBound? f.props.maximum?)) := by
  rw [value?_code? h]
  unfold Reading.value? reading kindReading
  rw [hk]
  rfl

lemma value?_type_float (hk : f.kind = .float) (h : f.code? purpose = some code) :
    value? code "type" = some (rangeTokens "FloatRange" "float" (floatBound? f.props.minimum?)
      (floatBound? f.props.maximum?)) := by
  rw [value?_code? h]
  unfold Reading.value? reading kindReading
  rw [hk]
  rfl

lemma typeBounds?_integer (hk : f.kind = .integer) (h : f.code? purpose = some code) :
    Kind.integer.typeBounds? code =
      some ⟨integerBound? f.props.minimum?, integerBound? f.props.maximum?⟩ :=
  Kind.typeBounds?_of_value rfl (value?_type_integer hk h)

lemma typeBounds?_float (hk : f.kind = .float) (h : f.code? purpose = some code) :
    Kind.float.typeBounds? code =
      some ⟨floatBound? f.props.minimum?, floatBound? f.props.maximum?⟩ :=
  Kind.typeBounds?_of_value rfl (value?_type_float hk h)

/-- The numeral `n` is written for the text `t` of the model: it is a literal of the number that the
model writes, and of no other, or it is no literal at all for its zeros. -/
def IsWrittenFor (n t : Text) : Prop :=
  ∀ q, Denotes n q ↔ isPadded n = false ∧ q = (Decimal.ofText t).value

lemma IsWrittenFor.denotes {n t : Text} {d : Decimal} (h : IsWrittenFor n t)
    (hn : isPadded n = false) (ht : Decimal.ofText t = d) : Denotes n d.value :=
  (h _).mpr ⟨hn, by rw [ht]⟩

lemma isWrittenFor_self {t : Text} (h : Text.isDecimal t) : IsWrittenFor t t :=
  fun _ => denotes_iff h

lemma integerBound?_written {bound? : Option Text} {n : Text} (h : integerBound? bound? = some n) :
    ∃ t, bound? = some t ∧ IsWrittenFor n t ∧ isPadded n = false := by
  obtain ⟨i, hi, rfl⟩ := Option.map_eq_some_iff.mp h
  obtain ⟨t, rfl, ht⟩ := Option.bind_eq_some_iff.mp hi
  obtain ⟨hinteger, -, rfl⟩ := Text.readInt64_eq_some.mp ht
  refine ⟨t, rfl, fun q => ?_, isPadded_ofInt _⟩
  rw [denotes_ofInt, isPadded_ofInt, value_ofText_of_isInteger hinteger, eq_self, true_and]

lemma floatBound?_written {bound? : Option Text} {n : Text} (h : floatBound? bound? = some n) :
    bound? = some n ∧ IsWrittenFor n n := by
  obtain ⟨hbound, hdecimal⟩ := Option.filter_eq_some_iff.mp h
  exact ⟨hbound, isWrittenFor_self hdecimal⟩

/-- The default of a field with numbers is missing, quoted, or a number of the model. -/
lemma default_cases (hk : f.kind = .integer ∨ f.kind = .float) (h : f.code? purpose = some code) :
    value? code "default" = some [.name "None"] ∨ ∃ t, f.props.default? = some t ∧
      (value? code "default" = some [.string t] ∨
        value? code "default" = some [.number t] ∧ IsWrittenFor t t) := by
  have hvalue : value? code "default" = (f.purposeReading purpose).lookup "default".toList := by
    rw [value?_code? h]
    unfold Reading.value? reading kindReading
    rcases hk with hk | hk <;> rw [hk] <;> rfl
  rw [hvalue]
  cases purpose with
  | update => exact .inl rfl
  | create =>
    have hdefault : (f.purposeReading .create).lookup "default".toList =
        some f.defaultReading := rfl
    rw [hdefault]
    unfold defaultReading isMultiple
    cases htext : f.props.default? with
    | none => rcases hk with hk | hk <;> rw [hk] <;> exact .inl rfl
    | some t =>
      refine .inr ⟨t, rfl, ?_⟩
      rcases hk with hk | hk
      · rw [hk]
        by_cases hread : (Text.readInt64 t).isSome
        · obtain ⟨i, hi⟩ := Option.isSome_iff_exists.mp hread
          have hinteger := (Text.readInt64_eq_some.mp hi).1
          refine .inr ⟨?_, isWrittenFor_self (Text.isDecimal_of_isInteger hinteger)⟩
          simp [hread]
        · refine .inl ?_
          simp [hread]
      · rw [hk]
        by_cases hread : Text.isDecimal t
        · exact .inr ⟨by simp [hread], isWrittenFor_self hread⟩
        · exact .inl (by simp [hread])

/-- **Bare numbers.** In the option of a field with numbers a default is missing, quoted, or the
text of the model, and the bounds are written for those of the model. What stands bare is a literal
of the number in the model exactly when it has no zeros too many. Bounds of whole numbers have none,
and other bounds are the texts of the model. -/
theorem bare_numbers (hk : f.kind = .integer ∨ f.kind = .float) (h : f.code? purpose = some code) :
    (value? code "default" = some [.name "None"] ∨ ∃ t, f.props.default? = some t ∧
      (value? code "default" = some [.string t] ∨
        value? code "default" = some [.number t] ∧ IsWrittenFor t t)) ∧
      ∃ bounds, f.kind.typeBounds? code = some bounds ∧
        (∀ n, bounds.minimum? = some n → ∃ t, f.props.minimum? = some t ∧ IsWrittenFor n t ∧
          if f.kind = .integer then isPadded n = false else n = t) ∧
        (∀ n, bounds.maximum? = some n → ∃ t, f.props.maximum? = some t ∧ IsWrittenFor n t ∧
          if f.kind = .integer then isPadded n = false else n = t) := by
  refine ⟨default_cases hk h, ?_⟩
  rcases hk with hk | hk
  · rw [hk]
    refine ⟨_, typeBounds?_integer hk h, fun n hn => ?_, fun n hn => ?_⟩
    · exact integerBound?_written hn
    · exact integerBound?_written hn
  · rw [hk]
    refine ⟨_, typeBounds?_float hk h, fun n hn => ?_, fun n hn => ?_⟩
    · obtain ⟨ht, hwritten⟩ := floatBound?_written hn
      exact ⟨n, ht, hwritten, rfl⟩
    · obtain ⟨ht, hwritten⟩ := floatBound?_written hn
      exact ⟨n, ht, hwritten, rfl⟩

/-- Decimal numbers with a sign, without a digit before the point, and with an exponent. -/
def ratio : Field :=
  ⟨"ratio", .float, { default? := some "00.5", minimum? := some "-.25", maximum? := some "1E+2" }⟩

theorem bare_numbers_ratio : ratio.kind = .float ∧ ∃ code, ratio.code? .create = some code ∧
    value? code "default" = some [.number "00.5"] ∧ Denotes "00.5" (1 / 2) ∧
    ratio.kind.typeBounds? code = some ⟨some "-.25", some "1E+2"⟩ ∧
    Denotes "-.25" (-(1 / 4)) ∧ Denotes "1E+2" 100 := by
  obtain ⟨code, hcode⟩ := Option.isSome_iff_exists.mp (code?_isSome.mpr (by decide) :
    (ratio.code? .create).isSome)
  obtain ⟨hdefault, bounds, hbounds, hminimum, hmaximum⟩ := bare_numbers (.inr rfl) hcode
  have hkept : floatBound? ratio.props.minimum? = some "-.25" ∧
      floatBound? ratio.props.maximum? = some "1E+2" := by decide
  have hfloat := typeBounds?_float (f := ratio) rfl hcode
  rw [hkept.1, hkept.2] at hfloat
  obtain rfl := Option.some.inj (hbounds.symm.trans hfloat)
  have hread : value? code "default" = some [.number "00.5"] := by
    rw [value?_code? hcode]
    rfl
  refine ⟨rfl, code, hcode, hread, ?_, hbounds, ?_, ?_⟩
  · rw [hread] at hdefault
    obtain hnone | ⟨t, ht, hstring | ⟨-, hwritten⟩⟩ := hdefault
    · cases hnone
    · cases hstring
    · obtain rfl := Option.some.inj ht
      have hhalf := hwritten.denotes rfl (by decide : Decimal.ofText "00.5" = ⟨false, 5, -1⟩)
      norm_num [Decimal.value] at hhalf
      exact hhalf
  · obtain ⟨t, ht, hwritten, -⟩ := hminimum _ rfl
    obtain rfl := Option.some.inj ht
    have hquarter := hwritten.denotes rfl (by decide : Decimal.ofText "-.25" = ⟨true, 25, -2⟩)
    norm_num [Decimal.value] at hquarter
    exact hquarter
  · obtain ⟨t, ht, hwritten, -⟩ := hmaximum _ rfl
    obtain rfl := Option.some.inj ht
    have hhundred := hwritten.denotes rfl (by decide : Decimal.ofText "1E+2" = ⟨false, 1, 2⟩)
    norm_num [Decimal.value] at hhundred
    exact hhundred

/-- A whole number with zeros too many. -/
def agent : Field := ⟨"agent", .integer, { default? := some "007" }⟩

/-- The default of `agent` stands bare and is no literal. -/
theorem not_forall_default_denotes :
    ¬ ∀ (f : Field) (code n : Text), f.kind = .integer ∨ f.kind = .float →
      f.code? .create = some code → value? code "default" = some [.number n] →
        Denotes n (Decimal.ofText n).value := by
  intro h
  obtain ⟨code, hcode⟩ := Option.isSome_iff_exists.mp (code?_isSome.mpr (by decide) :
    (agent.code? .create).isSome)
  have hdefault : value? code "default" = some [.number "007"] := by
    rw [value?_code? hcode]
    rfl
  exact absurd (h agent code "007" (.inl rfl) hcode hdefault).not_padded (by decide)

end Field

end ClickGen
