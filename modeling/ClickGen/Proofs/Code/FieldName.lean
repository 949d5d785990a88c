import ClickGen.Proofs.Code.Literal
import ClickGen.Proofs.Code.Name
import ClickGen.Proofs.Text.Underscore

/-!
The identifier that a name is turned into.

It is made of small letters, digits and underscores, whatever characters the name has. Each step
that makes it leaves such an identifier alone: there is nothing to lower, no character to replace,
no digit at the front and no reserved word. So these identifiers are exactly the names that stay
as they are, and turning a name into one a second time changes nothing.
-/

namespace ClickGen.Code

/-- A character of the identifiers that names are turned into. -/
def isFieldChar (c : Char) : Bool := ('a' ≤ c && c ≤ 'z') || Text.isDigit c || c == '_'

structure IsFieldName (name : Text) : Prop where
  identifier : isIdentifier name
  chars : ∀ c ∈ name, isFieldChar c

lemma continuesIdentifier_of_isFieldChar {c : Char} (h : isFieldChar c) :
    continuesIdentifier c := by
  simp only [isFieldChar, Bool.or_eq_true] at h
  simp only [continuesIdentifier, Text.isAsciiAlnum, Text.isAsciiAlpha, Bool.or_eq_true]
  exact h.imp_left (.imp_left .inl)

lemma not_isUpper_of_isFieldChar {c : Char} (h : isFieldChar c) : ¬ Text.isUpper c := by
  have hsmall := toNat_lt_of_continuesIdentifier (continuesIdentifier_of_isFieldChar h)
  rw [Text.isUpper_of_lt hsmall]
  rintro ⟨hA, hZ⟩
  simp only [isFieldChar, Text.isDigit, Bool.or_eq_true, Bool.and_eq_true, decide_eq_true_eq,
    beq_iff_eq, Char.le_def, UInt32.le_iff_toNat_le] at h hA hZ
  have hA' : 'A'.val.toNat = 65 := rfl
  have hZ' : 'Z'.val.toNat = 90 := rfl
  have ha : 'a'.val.toNat = 97 := rfl
  have h9 : '9'.val.toNat = 57 := rfl
  rcases h with (h | h) | rfl
  · omega
  · omega
  · exact absurd hZ (by decide)

lemma not_isSeparator_of_isFieldChar {c : Char} (h : isFieldChar c) : ¬ Text.isSeparator c := by
  intro hsep
  simp only [Text.isSeparator, Bool.or_eq_true, beq_iff_eq] at hsep
  rcases hsep with (rfl | rfl) | rfl <;> exact absurd h (by decide)

lemma isFieldChar_of_mem_snake {name : Text} {c : Char} (h : c ∈ Text.snake name)
    (hc : Text.isAsciiAlnum c) : isFieldChar c := by
  have hsmall : c.toNat < 128 := toNat_lt_of_continuesIdentifier (by simp [continuesIdentifier, hc])
  have hupper := Text.not_isUpper_of_mem_snakeFrom h hsmall
  rw [Text.isUpper_of_lt hsmall] at hupper
  simp only [Text.isAsciiAlnum, Text.isAsciiAlpha, Bool.or_eq_true, Bool.and_eq_true,
    decide_eq_true_eq] at hc
  simp only [isFieldChar, Bool.or_eq_true, Bool.and_eq_true, decide_eq_true_eq]
  exact .inl (hc.imp_left (Or.resolve_right · hupper))

/-- The snake case of a name with other characters than letters and digits replaced. -/
def replaced (name : Text) : Text :=
  (Text.snake name).map fun c => if Text.isAsciiAlnum c then c else '_'

lemma isFieldChar_of_mem_replaced {name : Text} {c : Char} (h : c ∈ replaced name) :
    isFieldChar c := by
  obtain ⟨d, hd, rfl⟩ := List.mem_map.mp h
  split
  · next halnum => exact isFieldChar_of_mem_snake hd halnum
  · rfl

lemma plainName_cases (name : Text) :
    plainName name = '_' :: replaced name ∨
      plainName name = replaced name ∧ ∃ c rest, replaced name = c :: rest ∧ ¬ Text.isDigit c := by
  rw [plainName, ← replaced]
  cases hname : replaced name with
  | nil => exact .inl rfl
  | cons c rest =>
    by_cases hc : Text.isDigit c
    · exact .inl (if_pos hc)
    · exact .inr ⟨if_neg hc, c, rest, rfl, hc⟩

lemma isFieldChar_of_mem_plainName {name : Text} {c : Char} (h : c ∈ plainName name) :
    isFieldChar c := by
  rcases plainName_cases name with heq | ⟨heq, -⟩
  · rw [heq] at h
    rcases List.mem_cons.mp h with rfl | h
    · rfl
    · exact isFieldChar_of_mem_replaced h
  · rw [heq] at h
    exact isFieldChar_of_mem_replaced h

lemma startsIdentifier_of_isFieldChar {c : Char} (h : isFieldChar c) (hc : ¬ Text.isDigit c) :
    startsIdentifier c := by
  simp only [isFieldChar, Bool.or_eq_true, hc, Bool.false_eq_true, or_false] at h
  simp only [startsIdentifier, Text.isAsciiAlpha, Bool.or_eq_true]
  exact h.imp_left .inl

lemma exists_plainName (name : Text) :
    ∃ c rest, plainName name = c :: rest ∧ startsIdentifier c := by
  rcases plainName_cases name with heq | ⟨heq, c, rest, hname, hc⟩
  · exact ⟨'_', _, heq, rfl⟩
  · have hmem : c ∈ replaced name := hname ▸ List.mem_cons_self
    exact ⟨c, rest, heq.trans hname,
      startsIdentifier_of_isFieldChar (isFieldChar_of_mem_replaced hmem) hc⟩

lemma isFieldName_cons {c : Char} {rest : Text} (hc : startsIdentifier c)
    (hchars : ∀ d ∈ c :: rest, isFieldChar d) (hreserved : isReserved (c :: rest) = false) :
    IsFieldName (c :: rest) where
  identifier := by
    refine isIdentifier_cons.mpr ⟨hc, fun d hd => ?_, hreserved⟩
    exact continuesIdentifier_of_isFieldChar (hchars d (List.mem_cons_of_mem c hd))
  chars := hchars

lemma isFieldName_fieldName (name : Text) : IsFieldName (fieldName name) := by
  obtain ⟨c, rest, heq, hc⟩ := exists_plainName name
  have hchars : ∀ d ∈ c :: rest, isFieldChar d := fun d hd =>
    isFieldChar_of_mem_plainName (heq ▸ hd)
  rw [fieldName, safeName, heq]
  split
  -- A reserved word is none any more with an underscore.
  · refine isFieldName_cons hc (fun d hd => ?_) (isReserved_of_underscore_mem (by simp))
    have hsplit : d ∈ (c :: rest) ++ ['_'] := hd
    rcases List.mem_append.mp hsplit with hd | hd
    · exact hchars d hd
    · rw [List.mem_singleton.mp hd]
      rfl
  · next hreserved =>
    exact isFieldName_cons hc hchars (Bool.not_eq_true _ ▸ hreserved)

/-! ### What stays as it is -/

lemma snake_eq_self {name : Text} (h : ∀ c ∈ name, isFieldChar c) : Text.snake name = name := by
  refine Text.snakeFrom_eq_self (fun c hc => ⟨?_, ?_, ?_⟩) [] false
  · exact toNat_lt_of_continuesIdentifier (continuesIdentifier_of_isFieldChar (h c hc))
  · exact not_isSeparator_of_isFieldChar (h c hc)
  · exact not_isUpper_of_isFieldChar (h c hc)

lemma replaced_eq_self {name : Text} (h : ∀ c ∈ name, isFieldChar c) : replaced name = name := by
  have hsame : ∀ c ∈ name, (if Text.isAsciiAlnum c then c else '_') = c := by
    intro c hc
    have hcontinues := continuesIdentifier_of_isFieldChar (h c hc)
    simp only [continuesIdentifier, Bool.or_eq_true, beq_iff_eq] at hcontinues
    split
    · rfl
    · next halnum => exact (hcontinues.resolve_left halnum).symm
  rw [replaced, snake_eq_self h, List.map_congr_left hsame, List.map_id']

lemma IsFieldName.fieldName_eq {name : Text} (h : IsFieldName name) : fieldName name = name := by
  have hreplaced := replaced_eq_self h.chars
  cases name with
  | nil => exact absurd h.identifier (by decide)
  | cons c rest =>
    obtain ⟨hc, -, hreserved⟩ := isIdentifier_cons.mp h.identifier
    have hdigit : ¬ Text.isDigit c := by simp [digit_not_letter hc]
    have hplain : plainName (c :: rest) = c :: rest := by
      rw [plainName, ← replaced, hreplaced]
      exact if_neg hdigit
    rw [fieldName, hplain, safeName, hreserved]
    rfl

lemma isIdentifier_parameterName (name : Text) : isIdentifier (parameterName name) := by
  unfold parameterName
  split
  · assumption
  · exact (isFieldName_fieldName name).identifier

/-- **What names are turned into.** The result is an identifier of small letters, digits and
underscores. The names that stay as they are are exactly these identifiers, so that turning a
name into one twice is the same as once. -/
theorem fieldName_settles (name : Text) :
    isIdentifier (fieldName name) ∧ (∀ c ∈ fieldName name, isFieldChar c) ∧
      fieldName (fieldName name) = fieldName name ∧
      (fieldName name = name ↔ isIdentifier name ∧ ∀ c ∈ name, isFieldChar c) := by
  have hresult := isFieldName_fieldName name
  refine ⟨hresult.identifier, hresult.chars, hresult.fieldName_eq, ?_⟩
  constructor
  · intro heq
    rw [heq] at hresult
    exact ⟨hresult.identifier, hresult.chars⟩
  · rintro ⟨hname, hchars⟩
    exact IsFieldName.fieldName_eq ⟨hname, hchars⟩

/-- A capital letter, without which the name is a reserved word. -/
theorem fieldName_settles_sample :
    fieldName "Class" = "class_".toList ∧ 's' ∈ fieldName "Class" ∧ isFieldChar 's' ∧
      isIdentifier (fieldName "Class") ∧ fieldName (fieldName "Class") = fieldName "Class" := by
  have hname : fieldName "Class" = "class_".toList := by decide
  have hmem : 's' ∈ fieldName "Class" := by
    rw [hname]
    decide
  obtain ⟨hidentifier, hchars, hstable, -⟩ := fieldName_settles "Class"
  exact ⟨hname, hmem, hchars 's' hmem, hidentifier, hstable⟩

end ClickGen.Code
