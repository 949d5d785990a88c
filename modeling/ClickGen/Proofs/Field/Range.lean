import ClickGen.Proofs.Field.Number

/-!
Between which bounds an option takes whole numbers.

A model may bound whole numbers from below and from above, by numerals of any length. Main
statement: the type of the option keeps a bound exactly when it fits in 64 bits, so that the option
takes the numbers that the model allows, and no others, exactly when all declared bounds fit. A
bound that does not fit is left out without a word, and then the option takes too much.
-/

namespace ClickGen

open Code Decorator

/-- The whole numbers between two bounds, either of which may be missing. -/
def Between (low? high? : Option ℤ) (n : ℤ) : Prop :=
  (∀ m, low? = some m → m ≤ n) ∧ ∀ m, high? = some m → n ≤ m

namespace Between

variable {low? high? : Option ℤ}

lemma exists_below (high? : Option ℤ) (m : ℤ) : ∃ n < m, ∀ h, high? = some h → n ≤ h := by
  cases high? with
  | none => exact ⟨m - 1, by omega, by simp⟩
  | some h =>
    refine ⟨min (m - 1) h, by omega, fun h' heq => ?_⟩
    obtain rfl := Option.some.inj heq
    exact min_le_right _ _

lemma exists_above (low? : Option ℤ) (m : ℤ) : ∃ n > m, ∀ l, low? = some l → l ≤ n := by
  cases low? with
  | none => exact ⟨m + 1, by omega, by simp⟩
  | some l =>
    refine ⟨max (m + 1) l, by omega, fun l' heq => ?_⟩
    obtain rfl := Option.some.inj heq
    exact le_max_right _ _

/-- **Bounds that are left out.** With bounds left out, the same numbers remain only if none is. -/
lemma filter_iff (p : ℤ → Bool) :
    (∀ n, Between (low?.filter p) (high?.filter p) n ↔ Between low? high? n) ↔
      (∀ m, low? = some m → p m) ∧ ∀ m, high? = some m → p m := by
  constructor
  · intro h
    constructor
    · rintro m rfl
      by_contra hp
      obtain ⟨n, hlt, hn⟩ := exists_below (high?.filter p) m
      have hkept : Between ((some m).filter p) (high?.filter p) n := ⟨by simp [hp], hn⟩
      exact absurd (((h n).mp hkept).1 m rfl) (by omega)
    · rintro m rfl
      by_contra hp
      obtain ⟨n, hgt, hn⟩ := exists_above (low?.filter p) m
      have hkept : Between (low?.filter p) ((some m).filter p) n := ⟨hn, by simp [hp]⟩
      exact absurd (((h n).mp hkept).2 m rfl) (by omega)
  · rintro ⟨hlow, hhigh⟩ n
    have hself : ∀ bound? : Option ℤ, (∀ m, bound? = some m → p m) → bound?.filter p = bound? := by
      intro bound? hall
      cases bound? with
      | none => rfl
      | some m => exact Option.filter_some_pos (hall m rfl)
    rw [hself _ hlow, hself _ hhigh]

end Between

/-- The whole numbers that a type of numbers takes. -/
def Decorator.Bounds.Takes (b : Bounds) (n : ℤ) : Prop :=
  (∀ low, b.minimum? = some low → ∃ q, Denotes low q ∧ q ≤ n) ∧
    ∀ high, b.maximum? = some high → ∃ q, Denotes high q ∧ n ≤ q

lemma takes_ofInt {low? high? : Option ℤ} {n : ℤ} :
    Bounds.Takes ⟨low?.map Text.ofInt, high?.map Text.ofInt⟩ n ↔ Between low? high? n := by
  simp [Bounds.Takes, Between, denotes_ofInt]

namespace Field

variable {f : Field} {purpose : Purpose} {code : Text}

def minimum? (f : Field) : Option ℤ := f.props.minimum?.map Text.integerValue

def maximum? (f : Field) : Option ℤ := f.props.maximum?.map Text.integerValue

/-- A bound, if it fits in 64 bits. -/
def fitting? (bound? : Option ℤ) : Option ℤ := bound?.filter (decide <| Text.FitsInt64 ·)

lemma between_fitting_iff {low? high? : Option ℤ} :
    (∀ n, Between (fitting? low?) (fitting? high?) n ↔ Between low? high? n) ↔
      (∀ m, low? = some m → Text.FitsInt64 m) ∧ ∀ m, high? = some m → Text.FitsInt64 m := by
  simpa [fitting?] using @Between.filter_iff low? high? (decide <| Text.FitsInt64 ·)

lemma integerBound?_eq {bound? : Option Text} (h : ∀ s, bound? = some s → Text.isInteger s) :
    integerBound? bound? = (fitting? (bound?.map Text.integerValue)).map Text.ofInt := by
  rw [integerBound?]
  congr 1
  cases bound? with
  | none => rfl
  | some s =>
    ext i
    rw [Option.bind_some, Text.readInt64_eq_some, fitting?, Option.map_some,
      Option.filter_eq_some_iff]
    simp only [h s rfl, true_and, Option.some.injEq, decide_eq_true_eq]
    constructor
    · rintro ⟨hfits, rfl⟩
      exact ⟨rfl, hfits⟩
    · rintro ⟨rfl, hfits⟩
      exact ⟨hfits, rfl⟩

/-- **Which whole numbers an option takes.** The option of a field with whole numbers takes those
between the declared bounds that fit in 64 bits, and those between all declared bounds exactly when
all of them fit. It takes any whole number when none of them does. -/
theorem integer_range (hk : f.kind = .integer)
    (hmin : ∀ s, f.props.minimum? = some s → Text.isInteger s)
    (hmax : ∀ s, f.props.maximum? = some s → Text.isInteger s) (purpose : Purpose) :
    ∃ code bounds, f.code? purpose = some code ∧ f.kind.typeBounds? code = some bounds ∧
      (∀ n, bounds.Takes n ↔ Between (fitting? f.minimum?) (fitting? f.maximum?) n) ∧
      ((∀ n, bounds.Takes n ↔ Between f.minimum? f.maximum? n) ↔
        (∀ m, f.minimum? = some m → Text.FitsInt64 m) ∧
          ∀ m, f.maximum? = some m → Text.FitsInt64 m) ∧
      (value? code "type" = some [.name "int"] ↔
        fitting? f.minimum? = none ∧ fitting? f.maximum? = none) := by
  have hsome : (f.code? purpose).isSome := code?_isSome.mpr (by simp [hk])
  obtain ⟨code, hcode⟩ := Option.isSome_iff_exists.mp hsome
  have hlow : integerBound? f.props.minimum? = (fitting? f.minimum?).map Text.ofInt :=
    integerBound?_eq hmin
  have hhigh : integerBound? f.props.maximum? = (fitting? f.maximum?).map Text.ofInt :=
    integerBound?_eq hmax
  have hbounds := typeBounds?_integer hk hcode
  have hplain := value?_type_integer hk hcode
  rw [hlow, hhigh] at hbounds hplain
  have htakes : ∀ n, Bounds.Takes ⟨(fitting? f.minimum?).map Text.ofInt,
      (fitting? f.maximum?).map Text.ofInt⟩ n ↔
        Between (fitting? f.minimum?) (fitting? f.maximum?) n := fun _ => takes_ofInt
  refine ⟨code, _, hcode, hk ▸ hbounds, htakes, ?_, ?_⟩
  · simp only [htakes]
    exact between_fitting_iff
  · rw [hplain, Option.some.injEq, rangeTokens_eq_plain, Option.map_eq_none_iff,
      Option.map_eq_none_iff]

/-- The lower bound has zeros too many and fits. The upper one has a sign and is too large by
one. -/
def port : Field :=
  ⟨"port", .integer, { minimum? := some "-007", maximum? := some "+9223372036854775808" }⟩

theorem integer_range_port : port.kind = .integer ∧ Text.isInteger "-007" ∧
    Text.isInteger "+9223372036854775808" ∧ ∃ code bounds, port.code? .create = some code ∧
      port.kind.typeBounds? code = some bounds ∧ (∀ n, bounds.Takes n ↔ -7 ≤ n) ∧
      ¬ ∀ n, bounds.Takes n ↔ -7 ≤ n ∧ n ≤ 9223372036854775808 := by
  have hlow : Text.isInteger "-007" := by decide
  have hhigh : Text.isInteger "+9223372036854775808" := by decide
  obtain ⟨code, bounds, hcode, hbounds, htakes, hall, -⟩ := integer_range (f := port) rfl
    (fun s hs => Option.some.inj hs ▸ hlow) (fun s hs => Option.some.inj hs ▸ hhigh) .create
  have hmin : port.minimum? = some (-7) := by decide
  have hmax : port.maximum? = some 9223372036854775808 := by decide
  have hkept : fitting? port.minimum? = some (-7) ∧ fitting? port.maximum? = none := by decide
  rw [hkept.1, hkept.2] at htakes
  rw [hmin, hmax] at hall
  refine ⟨rfl, hlow, hhigh, code, bounds, hcode, hbounds, ?_, ?_⟩
  · simpa [Between] using htakes
  · intro hsame
    have hfits := (hall.mp (by simpa [Between] using hsame)).2 _ rfl
    exact absurd hfits (by decide)

/-- An element whose upper bound is too large by one. -/
def beyond : Element :=
  ⟨"x", [("type", "IntegerField")], [], [⟨"MaximumValue", [], "9223372036854775808", []⟩]⟩

/-- The option of `beyond` takes any number. -/
theorem not_forall_takes_declared :
    ¬ ∀ (e : Element) (code : Text) (bounds : Bounds), (Field.ofElement e).kind = .integer →
      (∀ s, (Field.ofElement e).props.minimum? = some s → Text.isInteger s) →
      (∀ s, (Field.ofElement e).props.maximum? = some s → Text.isInteger s) →
      (Field.ofElement e).code? .create = some code →
      (Field.ofElement e).kind.typeBounds? code = some bounds →
        ∀ n, bounds.Takes n ↔
          Between (Field.ofElement e).minimum? (Field.ofElement e).maximum? n := by
  intro h
  have hfield : Field.ofElement beyond = ⟨"x", .integer,
      { type? := some "IntegerField", maximum? := some "9223372036854775808" }⟩ := by
    decide
  have hsome : ((Field.ofElement beyond).code? .create).isSome :=
    code?_isSome.mpr (by rw [hfield]; decide)
  obtain ⟨code, hcode⟩ := Option.isSome_iff_exists.mp hsome
  have hbounds := typeBounds?_integer (f := Field.ofElement beyond) (by rw [hfield]) hcode
  have hnone : integerBound? (Field.ofElement beyond).props.minimum? = none ∧
      integerBound? (Field.ofElement beyond).props.maximum? = none := by
    rw [hfield]
    decide
  rw [hnone.1, hnone.2] at hbounds
  have htakes := h beyond code ⟨none, none⟩
  rw [hfield] at htakes hcode
  have hfalse := (htakes rfl (by simp) (fun s hs => Option.some.inj hs ▸ by decide) hcode
    hbounds 9223372036854775809).mp ⟨by simp, by simp⟩
  exact absurd (hfalse.2 9223372036854775808 (by decide)) (by decide)

end Field

end ClickGen
