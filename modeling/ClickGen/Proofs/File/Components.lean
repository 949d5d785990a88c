import ClickGen.File.Path
import ClickGen.Proofs.Text.Parts
import Mathlib.Data.List.Basic

/-!
The components of a path, and what joining does to them.

A path says whether it starts at the root, and then which names it goes through. Slashes in a row
count as one, and `.` counts at the very beginning only. Joining two paths puts their components
together, unless the second one starts at the root, which takes the place of the first.
-/

namespace ClickGen

namespace Path

inductive Component where
  | root
  /-- A dot that a path begins with. -/
  | here
  | above
  | name (part : Text)
  deriving DecidableEq

/-- The component that a part between slashes is, away from the beginning. -/
def Component.ofPart? (part : Text) : Option Component :=
  if part = [] ∨ part = ['.'] then none
  else if part = ['.', '.'] then some above
  else some (name part)

/-- The component that a path may have before its parts. -/
def opening (path : Text) : List Component :=
  if isAbsolute path then [.root]
  else if (Text.splitOn '/' path).head? = some ['.'] then [.here]
  else []

def components (path : Text) : List Component :=
  opening path ++ (Text.splitOn '/' path).filterMap Component.ofPart?

lemma isAbsolute_iff (path : Text) : isAbsolute path ↔ path.head? = some '/' := by
  simp [isAbsolute]

lemma join_of_isAbsolute {base path : Text} (h : isAbsolute path) : join base path = path := by
  rw [join, if_pos h]

lemma join_cases (base : Text) {path : Text} (h : ¬ isAbsolute path) :
    base = [] ∧ join base path = path ∨
      base ≠ [] ∧ ∃ front, (base = front ∨ base = front ++ ['/']) ∧
        join base path = front ++ '/' :: path := by
  rw [join, if_neg h]
  rcases List.eq_nil_or_concat' base with rfl | ⟨front, c, rfl⟩
  · exact .inl ⟨rfl, rfl⟩
  · refine .inr ⟨by simp, ?_⟩
    rw [List.getLast?_concat]
    by_cases hc : c = '/'
    · exact ⟨front, .inr (by rw [hc]), by simp [hc]⟩
    · exact ⟨front ++ [c], .inl rfl, by simp [hc]⟩

lemma isAbsolute_append {base : Text} (h : base ≠ []) (more : Text) :
    isAbsolute (base ++ more) = isAbsolute base := by
  cases base with
  | nil => exact absurd rfl h
  | cons c base => rfl

lemma opening_append (front rest : Text) :
    opening (front ++ '/' :: rest) = opening (front ++ ['/']) := by
  obtain ⟨part, parts, hfront⟩ := List.exists_cons_of_ne_nil (Text.splitOn_ne_nil '/' front)
  have habs : isAbsolute (front ++ '/' :: rest) = isAbsolute (front ++ ['/']) := by
    cases front <;> rfl
  rw [opening, opening, habs, Text.splitOn_append_cons, Text.splitOn_append_cons, hfront]
  rfl

lemma opening_concat {front : Text} (h : front ≠ []) :
    opening (front ++ ['/']) = opening front := by
  obtain ⟨part, parts, hfront⟩ := List.exists_cons_of_ne_nil (Text.splitOn_ne_nil '/' front)
  rw [opening, opening, isAbsolute_append h, Text.splitOn_append_cons, hfront]
  rfl

lemma isAbsolute_join (base path : Text) :
    isAbsolute (join base path) ↔ isAbsolute base ∨ isAbsolute path := by
  by_cases h : isAbsolute path
  · simp [join_of_isAbsolute h, h]
  · rcases join_cases base h with ⟨rfl, hjoin⟩ | ⟨hne, front, rfl | rfl, hjoin⟩
    · rw [hjoin]
      simp [isAbsolute]
    · rw [hjoin, isAbsolute_append hne]
      simp [h]
    · have hsplit : front ++ '/' :: path = (front ++ ['/']) ++ path := by simp
      rw [hjoin, hsplit, isAbsolute_append hne]
      simp [h]

lemma mem_splitOn_join {base path part : Text} (h : part ∈ Text.splitOn '/' (join base path)) :
    part ∈ Text.splitOn '/' base ∨ part ∈ Text.splitOn '/' path := by
  by_cases habs : isAbsolute path
  · rw [join_of_isAbsolute habs] at h
    exact .inr h
  · rcases join_cases base habs with ⟨-, hjoin⟩ | ⟨-, front, hbase, hjoin⟩
    · rw [hjoin] at h
      exact .inr h
    · rw [hjoin, Text.splitOn_append_cons, List.mem_append] at h
      refine h.imp_left fun hfront => ?_
      rcases hbase with rfl | rfl
      · exact hfront
      · rw [Text.splitOn_append_cons]
        exact List.mem_append_left _ hfront

/-- **Joining puts components together**, unless the second path says itself where it starts. -/
theorem components_join (base : Text) {path : Text} (h : opening path = []) :
    components (join base path) = components base ++ components path := by
  have habs : ¬ isAbsolute path := by
    intro habs
    simp [opening, habs] at h
  rcases join_cases base habs with ⟨rfl, hjoin⟩ | ⟨hne, front, rfl | rfl, hjoin⟩
  · rw [hjoin]
    rfl
  · rw [components, components, components, hjoin, opening_append, opening_concat hne,
      Text.splitOn_append_cons, List.filterMap_append, h]
    simp
  -- A slash that is there already leaves an empty part, which is no component.
  · have hempty : Text.splitOn '/' (front ++ ['/']) = Text.splitOn '/' front ++ [[]] :=
      Text.splitOn_append_cons '/' front []
    rw [components, components, components, hjoin, opening_append, hempty,
      Text.splitOn_append_cons, List.filterMap_append, List.filterMap_append, h]
    simp [Component.ofPart?]

/-! ### Paths that only go down -/

/-- No part of the path stays where it is or goes up. -/
def IsPlain (path : Text) : Prop :=
  ∀ part ∈ Text.splitOn '/' path, part ≠ ['.'] ∧ part ≠ ['.', '.']

lemma isPlain_of_notMem {path : Text} (h : '.' ∉ path) : IsPlain path := by
  intro part hpart
  constructor
  · rintro rfl
    exact h (Text.mem_of_mem_splitOn hpart List.mem_cons_self)
  · rintro rfl
    exact h (Text.mem_of_mem_splitOn hpart List.mem_cons_self)

lemma isPlain_append {path extension : Text} (h : '.' ∉ path) (hslash : '/' ∉ extension)
    (hletter : ∃ c ∈ extension, c ≠ '.') : IsPlain (path ++ extension) := by
  obtain ⟨parts, last, hpath, happend⟩ := Text.splitOn_append_of_notMem hslash path
  intro part hpart
  rw [happend, List.mem_append, List.mem_singleton] at hpart
  rcases hpart with hpart | rfl
  · exact isPlain_of_notMem h part (by rw [hpath]; exact List.mem_append_left _ hpart)
  · obtain ⟨c, hc, hne⟩ := hletter
    have hmem : c ∈ last ++ extension := List.mem_append_right _ hc
    constructor
    · intro heq
      rw [heq] at hmem
      simp [hne] at hmem
    · intro heq
      rw [heq] at hmem
      simp [hne] at hmem

lemma IsPlain.join {base path : Text} (hbase : IsPlain base) (hpath : IsPlain path) :
    IsPlain (join base path) := by
  intro part hpart
  rcases mem_splitOn_join hpart with hpart | hpart
  · exact hbase part hpart
  · exact hpath part hpart

lemma IsPlain.opening_eq {path : Text} (h : IsPlain path) (habs : ¬ isAbsolute path) :
    opening path = [] := by
  rw [opening, if_neg habs, if_neg]
  intro hhead
  exact (h ['.'] (List.mem_of_mem_head? hhead)).1 rfl

lemma IsPlain.above_notMem {path : Text} (h : IsPlain path) : .above ∉ components path := by
  intro hmem
  rcases List.mem_append.mp hmem with hopening | hpart
  · unfold opening at hopening
    split at hopening
    · simp at hopening
    · split at hopening
      · simp at hopening
      · cases hopening
  · obtain ⟨part, hpart, heq⟩ := List.mem_filterMap.mp hpart
    unfold Component.ofPart? at heq
    split at heq
    · cases heq
    · split at heq
      · next hdots => exact (h part hpart).2 hdots
      · cases heq

end Path

end ClickGen
