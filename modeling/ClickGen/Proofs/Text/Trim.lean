import ClickGen.Proofs.Text.Parts
import ClickGen.Text.Blank
import Mathlib.Data.List.DropRight

/-!
Trimming texts that are put together. What is dropped at one end reaches over a part only when all
of it can be dropped; so characters that are taken out between two parts show in the trimmed text
unless one of the parts is dropped as a whole.
-/

namespace ClickGen.Text

variable {p : Char → Bool} {s t : Text}

lemma trimStart_append_of_all (h : s.all p) : trimStart p (s ++ t) = trimStart p t :=
  List.dropWhile_append_of_pos (by simpa using h)

lemma trimStart_append (h : ¬ s.all p) : trimStart p (s ++ t) = trimStart p s ++ t := by
  have hne : s.dropWhile p ≠ [] := by simpa using h
  rw [trimStart, List.dropWhile_append, if_neg (by simpa using hne), trimStart]

lemma trimEnd_append_of_all (h : t.all p) : trimEnd p (s ++ t) = trimEnd p s := by
  rw [trimEnd, List.reverse_append, List.dropWhile_append_of_pos (by simpa using h), trimEnd]

lemma trimEnd_append (h : ¬ t.all p) : trimEnd p (s ++ t) = s ++ trimEnd p t := by
  have hne : t.reverse.dropWhile p ≠ [] := by simpa using h
  rw [trimEnd, List.reverse_append, List.dropWhile_append, if_neg (by simpa using hne), trimEnd,
    List.reverse_append, List.reverse_reverse]

lemma trimStart_eq_self (h : ∀ c ∈ s.head?, p c = false) : trimStart p s = s := by
  cases s with
  | nil => rfl
  | cons c rest => rw [trimStart, List.dropWhile_cons_of_neg (by simpa using h c rfl)]

lemma trimEnd_eq_self_of_last (h : ∀ c ∈ s.getLast?, p c = false) : trimEnd p s = s := by
  have hstart : trimStart p s.reverse = s.reverse :=
    trimStart_eq_self fun c hc => h c (by rwa [List.head?_reverse] at hc)
  rw [trimEnd, ← trimStart, hstart, List.reverse_reverse]

lemma trimEnd_eq_self (h : ∀ c ∈ s, p c = false) : trimEnd p s = s :=
  trimEnd_eq_self_of_last fun c hc => h c (List.mem_of_getLast? hc)

lemma trim_eq_self (h : ∀ c ∈ s, p c = false) : trim p s = s := by
  rw [trim, trimStart_eq_self fun c hc => h c (List.mem_of_mem_head? hc), trimEnd_eq_self h]

lemma all_trimStart : (trimStart p s).all p = s.all p := by
  conv_rhs => rw [← s.takeWhile_append_dropWhile (p := p), List.all_append]
  rw [List.all_takeWhile, Bool.true_and, trimStart]

lemma trim_eq_nil_iff : trim p s = [] ↔ s.all p := by
  rw [← all_trimStart, trim, trimEnd, List.reverse_eq_nil_iff, List.dropWhile_eq_nil_iff,
    List.all_eq_true]
  simp only [List.mem_reverse]

lemma trimEnd_eq_append (h : ¬ s.all p) : trimEnd p s = s.takeWhile p ++ trim p s := by
  conv_lhs => rw [← s.takeWhile_append_dropWhile (p := p)]
  rw [trimEnd_append (by rwa [← trimStart, all_trimStart]), trim, trimStart]

lemma trimEnd_append_rtakeWhile : trimEnd p s ++ s.rtakeWhile p = s :=
  List.rdropWhile_append_rtakeWhile

lemma mem_of_mem_trim {c : Char} (h : c ∈ trim p s) : c ∈ s := by
  rw [trim, trimEnd, List.mem_reverse] at h
  have hstart : c ∈ trimStart p s := List.mem_reverse.mp ((List.dropWhile_sublist p).subset h)
  exact (List.dropWhile_sublist p).subset hstart

structure IsTrimmed (p : Char → Bool) (s : Text) : Prop where
  head : ∀ c ∈ s.head?, p c = false
  last : ∀ c ∈ s.getLast?, p c = false

lemma head?_trimStart {c : Char} (h : (trimStart p s).head? = some c) : p c = false := by
  have hhead := List.head?_dropWhile_not p s
  rw [← trimStart, h] at hhead
  exact hhead

lemma isTrimmed_trim (p : Char → Bool) (s : Text) : IsTrimmed p (trim p s) where
  head := by
    intro c hc
    have hwhole : (trimStart p s).head? = some c := by
      rw [← trimEnd_append_rtakeWhile (p := p) (s := trimStart p s), List.head?_append, ← trim,
        Option.mem_def.mp hc, Option.some_or]
    exact head?_trimStart hwhole
  last := by
    intro c hc
    rw [trim, trimEnd, List.getLast?_reverse] at hc
    exact head?_trimStart hc

lemma IsTrimmed.trim_eq (h : IsTrimmed p s) : trim p s = s := by
  rw [trim, trimStart_eq_self h.head, trimEnd_eq_self_of_last h.last]

lemma IsTrimmed.append (hs : IsTrimmed p s) (ht : IsTrimmed p t) (hsne : s ≠ []) (htne : t ≠ [])
    (middle : Text) : IsTrimmed p (s ++ middle ++ t) where
  head := by
    obtain ⟨c, rest, rfl⟩ := List.exists_cons_of_ne_nil hsne
    exact hs.head
  last := by
    obtain ⟨front, c, rfl⟩ := (List.eq_nil_or_concat' t).resolve_left htne
    rw [List.getLast?_append, List.getLast?_concat]
    simpa using ht.last

lemma isTrimmed_intercalate (sep : Text) {parts : List Text}
    (h : ∀ part ∈ parts, part ≠ [] ∧ IsTrimmed p part) :
    IsTrimmed p (List.intercalate sep parts) := by
  induction parts with
  | nil => exact ⟨by simp, by simp⟩
  | cons part more ih =>
    obtain ⟨hne, hpart⟩ := h part List.mem_cons_self
    have hmore : ∀ next ∈ more, next ≠ [] ∧ IsTrimmed p next :=
      fun next hnext => h next (List.mem_cons_of_mem part hnext)
    cases more with
    | nil => rwa [List.intercalate_singleton]
    | cons next more =>
      rw [List.intercalate_cons_cons]
      exact hpart.append (ih hmore) hne
        (intercalate_ne_nil sep (List.cons_ne_nil _ _) fun q hq => (hmore q hq).1) sep

/-- **Characters taken out**: a text trims to the same without some of these characters in it
exactly when there were none, or when what stands in front of them or behind them is trimmed
away. -/
lemma trim_append_eq_iff {gap : Text} (hgap : gap.all p) :
    trim p (s ++ t) = trim p (s ++ gap ++ t) ↔ gap = [] ∨ s.all p ∨ t.all p := by
  by_cases hs : s.all p
  · rw [trim, trim, trimStart_append_of_all hs, List.append_assoc, trimStart_append_of_all hs,
      trimStart_append_of_all hgap]
    simp [hs]
  have hs' : ¬ (s ++ gap).all p := by simp [List.all_append, hs]
  rw [trim, trim, trimStart_append hs, trimStart_append hs', trimStart_append hs]
  by_cases ht : t.all p
  · rw [trimEnd_append_of_all ht, trimEnd_append_of_all ht, trimEnd_append_of_all hgap]
    simp [ht]
  · rw [trimEnd_append ht, trimEnd_append ht]
    simp [hs, ht]

end ClickGen.Text
