import ClickGen.Text.Basic
import Mathlib.Tactic.Lemma
import Mathlib.Tactic.TypeStar

/-!
Cutting a text at a separator and putting the parts together again. The parts make up the text, no
part holds the separator, and parts without it that stand between separators are cut apart as they
were.
-/

namespace ClickGen

section Mark

variable {α : Type*} {p : α → Bool} {xs ys : List α}

lemma takeWhile_append_eq (h : ∀ x ∈ xs, p x) (hmark : ∀ y ∈ ys.head?, p y = false) :
    (xs ++ ys).takeWhile p = xs := by
  have hrest : ys.takeWhile p = [] := by
    cases ys with
    | nil => rfl
    | cons y ys => exact List.takeWhile_cons_of_neg (by simp [hmark y rfl])
  rw [List.takeWhile_append_of_pos h, hrest, List.append_nil]

lemma dropWhile_append_eq (h : ∀ x ∈ xs, p x) (hmark : ∀ y ∈ ys.head?, p y = false) :
    (xs ++ ys).dropWhile p = ys := by
  rw [List.dropWhile_append_of_pos h]
  cases ys with
  | nil => rfl
  | cons y ys => exact List.dropWhile_cons_of_neg (by simp [hmark y rfl])

end Mark

/-! ### What stands between -/

section Between

variable {α : Type*} {sep x : α} {xs : List α}

lemma mem_of_mem_intersperse (h : x ∈ xs.intersperse sep) : x ∈ xs ∨ x = sep := by
  induction xs with
  | nil => simp at h
  | cons y xs ih =>
    cases xs with
    | nil => exact .inl h
    | cons z xs =>
      rw [List.intersperse_cons_cons, List.mem_cons, List.mem_cons] at h
      rcases h with rfl | rfl | h
      · simp
      · simp
      · rcases ih h with h | h
        · exact .inl (List.mem_cons_of_mem y h)
        · exact .inr h

lemma mem_intersperse (h : x ∈ xs) (sep : α) : x ∈ xs.intersperse sep := by
  induction xs with
  | nil => cases h
  | cons y xs ih =>
    cases xs with
    | nil => exact h
    | cons z xs =>
      rw [List.intersperse_cons_cons]
      rcases List.mem_cons.mp h with rfl | h
      · exact List.mem_cons_self
      · exact List.mem_cons_of_mem y (List.mem_cons_of_mem sep (ih h))

lemma splitOn_flatMap_append [BEq α] [LawfulBEq α] {parts : List (List α)}
    (h : ∀ part ∈ parts, sep ∉ part) (rest : List α) :
    (parts.flatMap (· ++ [sep]) ++ rest).splitOn sep = parts ++ rest.splitOn sep := by
  induction parts with
  | nil => rfl
  | cons part parts ih =>
    have hpart : sep ∉ part := h part List.mem_cons_self
    have hparts : ∀ q ∈ parts, sep ∉ q := fun q hq => h q (List.mem_cons_of_mem part hq)
    rw [List.flatMap_cons, List.append_assoc, List.append_assoc, List.singleton_append,
      List.splitOn_append_cons_self, List.splitOn_eq_singleton hpart, ih hparts]
    rfl

lemma eq_false_of_mem_splitOnP {p : α → Bool} {part : List α} (h : part ∈ xs.splitOnP p) :
    ∀ x ∈ part, p x = false := by
  induction xs generalizing part with
  | nil =>
    rw [List.splitOnP_nil, List.mem_singleton] at h
    simp [h]
  | cons y xs ih =>
    rw [List.splitOnP_cons_eq_if_modifyHead] at h
    split at h
    · rcases List.mem_cons.mp h with rfl | h
      · simp
      · exact ih h
    · next hy =>
      obtain ⟨first, parts, hs⟩ := List.exists_cons_of_ne_nil (List.splitOnP_ne_nil p xs)
      rw [hs] at ih h
      rcases List.mem_cons.mp h with rfl | h
      · simpa [hy] using ih List.mem_cons_self
      · exact ih (List.mem_cons_of_mem first h)

lemma separator_notMem [BEq α] [LawfulBEq α] {part : List α} (h : part ∈ xs.splitOn sep) :
    sep ∉ part := by
  rw [List.splitOn_eq_splitOnP] at h
  intro hmem
  simpa using eq_false_of_mem_splitOnP h sep hmem

end Between

namespace Text

variable {sep c : Char} {s part : Text} {parts : List Text}

lemma mem_intercalate (h : c ∈ List.intercalate [sep] parts) :
    c = sep ∨ ∃ part ∈ parts, c ∈ part := by
  obtain ⟨part, hpart, hc⟩ := List.mem_flatten.mp h
  rcases mem_of_mem_intersperse hpart with hpart | rfl
  · exact .inr ⟨part, hpart, hc⟩
  · exact .inl (List.mem_singleton.mp hc)

lemma intercalate_ne_nil (sep : Text) (hne : parts ≠ []) (h : ∀ part ∈ parts, part ≠ []) :
    List.intercalate sep parts ≠ [] := by
  obtain ⟨part, more, rfl⟩ := List.exists_cons_of_ne_nil hne
  have hpart : part ≠ [] := h part List.mem_cons_self
  cases more with
  | nil => rwa [List.intercalate_singleton]
  | cons next more => simp [List.intercalate_cons_cons, hpart]

lemma flatMap_append_intercalate (front : List Text) (hne : parts ≠ []) :
    front.flatMap (· ++ [sep]) ++ List.intercalate [sep] parts =
      List.intercalate [sep] (front ++ parts) := by
  induction front with
  | nil => rfl
  | cons part front ih =>
    have hnil : front ++ parts ≠ [] := List.append_ne_nil_of_right_ne_nil front hne
    obtain ⟨next, rest, hrest⟩ := List.exists_cons_of_ne_nil hnil
    rw [List.flatMap_cons, List.append_assoc, ih, List.cons_append, hrest,
      List.intercalate_cons_cons]

/-! ### Cutting -/

lemma splitOn_eq (sep : Char) (s : Text) : splitOn sep s = List.splitOn sep s := by
  induction s with
  | nil => rfl
  | cons c s ih =>
    rw [splitOn, ih, List.splitOn_cons_eq_if_modifyHead]
    cases hs : List.splitOn sep s with
    | nil => exact absurd hs (List.splitOn_ne_nil sep s)
    | cons part parts => simp

lemma splitOn_ne_nil (sep : Char) (s : Text) : splitOn sep s ≠ [] := by
  rw [splitOn_eq]
  exact List.splitOn_ne_nil sep s

lemma splitOn_of_notMem (h : sep ∉ s) : splitOn sep s = [s] := by
  rw [splitOn_eq, List.splitOn_eq_singleton h]

lemma splitOn_append_cons (sep : Char) (s rest : Text) :
    splitOn sep (s ++ sep :: rest) = splitOn sep s ++ splitOn sep rest := by
  rw [splitOn_eq, splitOn_eq, splitOn_eq, List.splitOn_append_cons_self]

lemma splitOn_append (h : sep ∉ s) (rest : Text) :
    splitOn sep (s ++ sep :: rest) = s :: splitOn sep rest := by
  rw [splitOn_append_cons, splitOn_of_notMem h, List.singleton_append]

lemma splitOn_append_of_notMem {t : Text} (h : sep ∉ t) (s : Text) :
    ∃ parts last, splitOn sep s = parts ++ [last] ∧
      splitOn sep (s ++ t) = parts ++ [last ++ t] := by
  induction s with
  | nil => exact ⟨[], [], rfl, splitOn_of_notMem h⟩
  | cons c s ih =>
    obtain ⟨parts, last, hs, hst⟩ := ih
    rw [List.cons_append, splitOn, splitOn, hs, hst]
    by_cases hc : c = sep
    · cases parts with
      | nil => exact ⟨[[]], last, by simp [hc], by simp [hc]⟩
      | cons part parts => exact ⟨[] :: part :: parts, last, by simp [hc], by simp [hc]⟩
    · cases parts with
      | nil => exact ⟨[], c :: last, by simp [hc], by simp [hc]⟩
      | cons part parts => exact ⟨(c :: part) :: parts, last, by simp [hc], by simp [hc]⟩

lemma splitOn_flatMap (h : ∀ p ∈ parts, sep ∉ p) (rest : Text) :
    splitOn sep (parts.flatMap (· ++ [sep]) ++ rest) = parts ++ splitOn sep rest := by
  rw [splitOn_eq, splitOn_eq, splitOn_flatMap_append h]

lemma splitOn_intercalate (hne : parts ≠ []) (h : ∀ part ∈ parts, sep ∉ part) :
    splitOn sep (List.intercalate [sep] parts) = parts := by
  rw [splitOn_eq, List.splitOn_intercalate sep h hne]

lemma intercalate_splitOn (sep : Char) (s : Text) : List.intercalate [sep] (splitOn sep s) = s := by
  rw [splitOn_eq, List.intercalate_splitOn]

lemma mem_of_mem_splitOn (h : part ∈ splitOn sep s) (hc : c ∈ part) : c ∈ s := by
  rw [← intercalate_splitOn sep s]
  exact List.mem_flatten.mpr ⟨part, mem_intersperse h [sep], hc⟩

lemma notMem_of_mem_splitOn (h : part ∈ splitOn sep s) : sep ∉ part := by
  rw [splitOn_eq] at h
  exact separator_notMem h

end Text

end ClickGen
