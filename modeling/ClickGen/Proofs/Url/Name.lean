import ClickGen.Proofs.Text.Parts
import ClickGen.Proofs.Text.Snake
import ClickGen.Proofs.Url.Percent
import ClickGen.Url.Name

/-!
Names of hosts, as they are kept.

Of a mapping of names, two things have to be known: its results are in ASCII and in lower case, and
it leaves them as they are. Main statements: with such a mapping, the name that is kept of a name
is kept again as it is; and the mapping for the letters of some scripts is one.
-/

namespace ClickGen

section Traverse

variable {α β : Type} {f : α → Option β}

lemma exists_of_mem_mapM {l : List α} {read : List β} (h : l.mapM f = some read) :
    ∀ b ∈ read, ∃ a ∈ l, f a = some b := by
  induction l generalizing read with
  | nil =>
    obtain rfl : [] = read := Option.some.inj h
    exact fun _ hb => (List.not_mem_nil hb).elim
  | cons a l ih =>
    rw [List.mapM_cons] at h
    obtain ⟨first, hfirst, h⟩ := Option.bind_eq_some_iff.mp h
    obtain ⟨more, hmore, h⟩ := Option.bind_eq_some_iff.mp h
    obtain rfl := Option.some.inj h
    refine List.forall_mem_cons.mpr ⟨⟨a, List.mem_cons_self, hfirst⟩, fun b hb => ?_⟩
    obtain ⟨a', hmem, ha'⟩ := ih hmore b hb
    exact ⟨a', List.mem_cons_of_mem a hmem, ha'⟩

lemma mapM_map_eq_some {write : β → α} {l : List β} (h : ∀ b ∈ l, f (write b) = some b) :
    (l.map write).mapM f = some l := by
  induction l with
  | nil => rfl
  | cons b l ih =>
    obtain ⟨hb, hl⟩ := List.forall_mem_cons.mp h
    rw [List.map_cons, List.mapM_cons, hb, ih hl]
    rfl

lemma mapM_eq_self {f : α → Option α} {l : List α} (h : ∀ a ∈ l, f a = some a) :
    l.mapM f = some l := by
  simpa using @mapM_map_eq_some α α f id l h

lemma ne_nil_of_mapM {l : List α} {read : List β} (h : l.mapM f = some read) (hne : l ≠ []) :
    read ≠ [] := by
  rintro rfl
  cases l with
  | nil => exact hne rfl
  | cons a l =>
    rw [List.mapM_cons] at h
    obtain ⟨first, -, h⟩ := Option.bind_eq_some_iff.mp h
    obtain ⟨more, -, h⟩ := Option.bind_eq_some_iff.mp h
    cases h

end Traverse

namespace Url.Host

variable {c : Char} {name kept label : Text} {toAscii? : Mapping}

lemma isNameChar_ne (h : isNameChar c) {d : Char} (hd : isNameChar d = false) : c ≠ d := by
  rintro rfl
  rw [h] at hd
  cases hd

lemma isVisible_of_isNameChar (h : isNameChar c) : IsVisible c :=
  @isVisible_of_kept (!isNameChar ·) c (fun d hd => by simp [isNameChar, hd])
    (by decide) (by simp [h])

lemma isKept_iff : isKept c ↔ isNameChar c ∧ c.toLower = c := by
  simp [isKept]

lemma isAscii_of_isKept (h : ∀ c ∈ name, isKept c) : isAscii name := by
  refine List.all_eq_true.mpr fun c hc => decide_eq_true ?_
  have hvisible := (isVisible_of_isNameChar (isKept_iff.mp (h c hc)).1).2
  omega

lemma toLower_toLower (c : Char) : c.toLower.toLower = c.toLower := by
  have hA : 'A'.toNat = 65 := rfl
  have hZ : 'Z'.toNat = 90 := rfl
  rcases Text.toLower_cases c.toLower with hsame | ⟨hlow, hhigh, -⟩
  · exact hsame
  · rcases Text.toLower_cases c with hsame | ⟨hlow', -, hsum⟩
    · rw [hsame, hsame]
    · omega

/-! ### Mappings of names -/

/-- What is to be known of a mapping of names: a result is a name in ASCII and in lower case, and it
is mapped to itself. -/
structure IsMapping (toAscii? : Mapping) : Prop where
  kept {name mapped : Text} (h : toAscii? name = some mapped) : ∀ c ∈ mapped, isKept c
  stable {name mapped : Text} (h : toAscii? name = some mapped) : toAscii? mapped = some mapped

lemma keptName?_of_isKept (h : ∀ c ∈ name, isKept c) :
    keptName? toAscii? name = if needsMapping name then toAscii? name else some name := by
  have hlow : name.map Char.toLower = name :=
    (List.map_congr_left fun c hc => (isKept_iff.mp (h c hc)).2).trans (List.map_id name)
  have hall : name.all isNameChar :=
    List.all_eq_true.mpr fun c hc => (isKept_iff.mp (h c hc)).1
  unfold keptName?
  simp only [hlow, hall, if_true]

lemma keptName?_of_notMem (h : ∀ c ∈ name, isKept c) (hmark : '-' ∉ name) :
    keptName? toAscii? name = some name := by
  have hplain : (Text.splitOn '.' name).any isMarked = false := by
    refine List.any_eq_false.mpr fun label hlabel hmarked => hmark ?_
    refine Text.mem_of_mem_splitOn hlabel ((List.isPrefixOf_iff_prefix.mp hmarked).subset ?_)
    decide
  rw [keptName?_of_isKept h, needsMapping, isAscii_of_isKept h, hplain]
  rfl

/-- **A name that is kept stays**: it is in lower case, and kept as it is. -/
lemma IsMapping.keptName?_eq_some (hmap : IsMapping toAscii?)
    (h : keptName? toAscii? name = some kept) :
    (∀ c ∈ kept, isKept c) ∧ keptName? toAscii? kept = some kept := by
  unfold keptName? at h
  simp only at h
  split_ifs at h with hneeds hall
  · have hkept := hmap.kept h
    refine ⟨hkept, ?_⟩
    rw [keptName?_of_isKept hkept, hmap.stable h, ite_self]
  · obtain rfl := Option.some.inj h
    have hkept : ∀ c ∈ name.map Char.toLower, isKept c := by
      intro c hc
      obtain ⟨d, -, rfl⟩ := List.mem_map.mp hc
      exact isKept_iff.mpr ⟨List.all_eq_true.mp hall _ hc, toLower_toLower d⟩
    refine ⟨hkept, ?_⟩
    rw [keptName?_of_isKept hkept, if_neg hneeds]

/-! ### The letters of some scripts -/

lemma isKeptLabel_of_keptLabel? {kept : Text} (h : keptLabel? label = some kept) :
    isKeptLabel kept := by
  simp only [keptLabel?, Option.ite_none_right_eq_some, Option.some.injEq] at h
  obtain ⟨hkept, rfl⟩ := h
  exact hkept

lemma isKept_of_isKeptLabel (h : isKeptLabel label) : ∀ c ∈ label, isKept c ∧ c ≠ '.' := by
  simp only [isKeptLabel, Bool.and_eq_true, List.all_eq_true, bne_iff_ne] at h
  exact h.1

lemma keptLabel?_eq_self (h : isKeptLabel label) : keptLabel? label = some label := by
  have hascii : isAscii label := isAscii_of_isKept fun c hc => (isKept_of_isKeptLabel h c hc).1
  unfold keptLabel?
  simp only [hascii, Bool.or_true, if_true, h]

lemma mapChar?_eq_self (h : isKept c) : mapChar? c = some c := by
  obtain ⟨hname, hlow⟩ := isKept_iff.mp h
  have hvisible := (isVisible_of_isNameChar hname).2
  rw [mapChar?, if_pos (by omega), hlow]

/-- A name that comes out of the mapping is made of labels that are kept. -/
lemma exists_labels {mapped : Text} (h : lettersToAscii? name = some mapped) :
    ∃ labels : List Text, labels ≠ [] ∧ (∀ label ∈ labels, isKeptLabel label) ∧
      mapped = List.intercalate ['.'] labels := by
  obtain ⟨low, -, h⟩ := Option.bind_eq_some_iff.mp h
  obtain ⟨labels, hread, h⟩ := Option.bind_eq_some_iff.mp h
  refine ⟨labels, ne_nil_of_mapM hread (Text.splitOn_ne_nil '.' low), fun label hlabel => ?_,
    (Option.some.inj h).symm⟩
  obtain ⟨_, -, hkept⟩ := exists_of_mem_mapM hread label hlabel
  exact isKeptLabel_of_keptLabel? hkept

lemma isKept_of_mem_labels {labels : List Text} (h : ∀ label ∈ labels, isKeptLabel label) :
    ∀ c ∈ List.intercalate ['.'] labels, isKept c := by
  intro c hc
  rcases Text.mem_intercalate hc with rfl | ⟨label, hlabel, hc⟩
  · decide
  · exact (isKept_of_isKeptLabel (h label hlabel) c hc).1

lemma lettersToAscii?_labels {labels : List Text} (hne : labels ≠ [])
    (h : ∀ label ∈ labels, isKeptLabel label) :
    lettersToAscii? (List.intercalate ['.'] labels) = some (List.intercalate ['.'] labels) := by
  have hsplit : Text.splitOn '.' (List.intercalate ['.'] labels) = labels :=
    Text.splitOn_intercalate hne fun label hlabel hdot =>
      (isKept_of_isKeptLabel (h label hlabel) '.' hdot).2 rfl
  unfold lettersToAscii?
  rw [mapM_eq_self fun c hc => mapChar?_eq_self (isKept_of_mem_labels h c hc), Option.bind_eq_bind,
    Option.bind_some, hsplit, mapM_eq_self fun label hlabel => keptLabel?_eq_self (h label hlabel)]
  rfl

/-- **The program has a mapping of names.** -/
lemma isMapping_lettersToAscii? : IsMapping lettersToAscii? where
  kept h := by
    obtain ⟨labels, -, hkept, rfl⟩ := exists_labels h
    exact isKept_of_mem_labels hkept
  stable h := by
    obtain ⟨labels, hne, hkept, rfl⟩ := exists_labels h
    exact lettersToAscii?_labels hne hkept

end Url.Host

end ClickGen
