import ClickGen.Proofs.Text.Parts
import ClickGen.Proofs.Url.Percent
import ClickGen.Url.Basic
import Mathlib.Data.List.Basic

/-!
The paths of web URLs in normal form.

A path that has been read is a slash in front of segments with slashes between them. No segment
stands for another one any more: its characters need no encoding, and it is none of the segments of
dots that a path is shortened by. Main statements: reading gives a path of normal segments, whatever
it reads, and reads a path of normal segments as it is.
-/

namespace ClickGen.Url

open ClickGen.Text

/-- A character that stands for itself in a path and that no segment ends with. -/
def isSegmentChar (c : Char) : Bool := !encodesInPath c && !isSlash c

lemma isSegmentChar_iff {c : Char} :
    isSegmentChar c ↔ encodesInPath c = false ∧ isSlash c = false := by
  simp [isSegmentChar]

lemma isIgnored_of_isVisible {c : Char} (h : IsVisible c) : isIgnored c = false := by
  have hne : ∀ d, d.toNat ≤ 0x20 → c ≠ d := by
    rintro d hd rfl
    exact absurd h.1 (Nat.not_lt.mpr hd)
  simp only [isIgnored, Bool.or_eq_false_iff, beq_eq_false_iff_ne]
  exact ⟨⟨hne '\t' (by decide), hne '\n' (by decide)⟩, hne '\r' (by decide)⟩

lemma isSegmentChar_apart {c : Char} (h : isSegmentChar c) :
    IsVisible c ∧ startsSuffix c = false := by
  have hne : ∀ d, isSegmentChar d = false → c ≠ d := by
    rintro d hd rfl
    rw [hd] at h
    cases h
  have halways : ∀ d, encodesAlways d → encodesInPath d :=
    fun d hd => by simp [encodesInPath, encodesInFragment, hd]
  simp only [startsSuffix, Bool.or_eq_false_iff, beq_eq_false_iff_ne]
  exact ⟨isVisible_of_kept halways (by decide) (isSegmentChar_iff.mp h).1, hne '?' (by decide),
    hne '#' (by decide)⟩

lemma isSegmentChar_of_mem_percentEncode {s : Text} (h : ∀ c ∈ s, isSlash c = false) {c : Char}
    (hc : c ∈ percentEncode encodesInPath s) : isSegmentChar c := by
  have hcode : codeCharacters.all isSegmentChar := by decide
  rcases mem_percentEncode hc with hc | ⟨hmem, hkept⟩
  · exact List.all_eq_true.mp hcode c hc
  · exact isSegmentChar_iff.mpr ⟨hkept, h c hmem⟩

namespace Path

/-! ### Segments -/

structure IsNormal (segment : Text) : Prop where
  chars : ∀ c ∈ segment, isSegmentChar c
  not_singleDot : ¬ isSingleDot segment
  not_doubleDot : ¬ isDoubleDot segment

lemma isNormal_nil : IsNormal [] := ⟨by simp, by decide, by decide⟩

variable {segment : Text}

lemma IsNormal.slash_notMem (h : IsNormal segment) : '/' ∉ segment :=
  fun hmem => absurd (h.chars _ hmem) (by decide)

lemma IsNormal.dropIgnored_eq (h : IsNormal segment) : dropIgnored segment = segment :=
  List.filter_eq_self.mpr fun c hc => by
    simp [isIgnored_of_isVisible (isSegmentChar_apart (h.chars c hc)).1]

lemma IsNormal.percentEncode_eq (h : IsNormal segment) :
    percentEncode encodesInPath segment = segment :=
  percentEncode_eq_self fun c hc => (isSegmentChar_iff.mp (h.chars c hc)).1

lemma segments_eq (s : Text) : segments s = s.splitOnP isSlash := by
  induction s with
  | nil => rfl
  | cons c s ih =>
    obtain ⟨part, parts, hs⟩ := List.exists_cons_of_ne_nil (List.splitOnP_ne_nil isSlash s)
    rw [segments, ih, List.splitOnP_cons_eq_if_modifyHead, hs]
    simp

lemma segments_intercalate {parts : List Text} (hne : parts ≠ [])
    (h : ∀ part ∈ parts, IsNormal part) : segments (List.intercalate ['/'] parts) = parts := by
  have hslash : ∀ part ∈ parts, ∀ c ∈ part, isSlash c = false :=
    fun part hpart c hc => (isSegmentChar_iff.mp ((h part hpart).chars c hc)).2
  rw [segments_eq]
  induction parts with
  | nil => exact absurd rfl hne
  | cons part more ih =>
    have hpart := hslash part List.mem_cons_self
    cases more with
    | nil => rw [List.intercalate_singleton, List.splitOnP_eq_singleton hpart]
    | cons next more =>
      rw [List.intercalate_cons_cons, List.append_assoc, List.singleton_append,
        List.splitOnP_append_cons_of_forall_mem hpart '/' rfl,
        ih (List.cons_ne_nil _ _) (fun q hq => h q (List.mem_cons_of_mem part hq))
          fun q hq => hslash q (List.mem_cons_of_mem part hq)]

/-- The path of segments that are all followed by a slash. -/
def directory (front : List Text) : Text := '/' :: front.flatMap (· ++ ['/'])

lemma directory_concat (front : List Text) (segment : Text) :
    directory (front ++ [segment]) = directory front ++ segment ++ ['/'] := by
  simp [directory]

lemma exists_directory_eq (front : List Text) : ∃ s, directory front = s ++ ['/'] := by
  rcases List.eq_nil_or_concat' front with rfl | ⟨front, segment, rfl⟩
  · exact ⟨[], rfl⟩
  · exact ⟨_, directory_concat front segment⟩

lemma directory_append (front : List Text) {more : List Text} (hne : more ≠ []) :
    directory front ++ List.intercalate ['/'] more =
      '/' :: List.intercalate ['/'] (front ++ more) := by
  rw [directory, List.cons_append, flatMap_append_intercalate front hne]

lemma lastSegment_append (s : Text) {last : Text} (h : '/' ∉ last) :
    lastSegment (s ++ '/' :: last) = last := by
  have hlast : ∀ c ∈ last.reverse, (c != '/') = true := by
    intro c hc
    rw [bne_iff_ne]
    rintro rfl
    exact h (List.mem_reverse.mp hc)
  rw [lastSegment, List.reverse_append, List.reverse_cons, List.append_assoc,
    takeWhile_append_eq hlast (by simp), List.reverse_reverse]

lemma upToSlash_directory_append (front : List Text) {last : Text} (h : '/' ∉ last) :
    upToSlash (directory front ++ last) = directory front := by
  obtain ⟨s, hs⟩ := exists_directory_eq front
  have hlast : lastSegment (directory front ++ last) = last := by
    rw [hs, List.append_assoc, List.singleton_append, lastSegment_append s h]
  rw [upToSlash, hlast, List.length_append, Nat.add_sub_cancel, List.take_left]

lemma withSlash_directory (front : List Text) : withSlash (directory front) = directory front := by
  obtain ⟨s, hs⟩ := exists_directory_eq front
  rw [withSlash, hs, List.getLast?_concat, if_pos rfl]

lemma exists_goUp {front : List Text} (h : ∀ segment ∈ front, IsNormal segment) :
    ∃ front', (∀ segment ∈ front', IsNormal segment) ∧
      goUp false (directory front) = directory front' := by
  have hstay : upToSlash (directory front) = directory front := by
    simpa using upToSlash_directory_append front List.not_mem_nil
  unfold goUp
  simp only [Bool.false_and, Bool.false_eq_true, if_false]
  split
  · next hcut =>
    rcases List.eq_nil_or_concat' front with rfl | ⟨init, segment, rfl⟩
    · simp [directory] at hcut
    · refine ⟨init, fun s hs => h s (List.mem_append_left _ hs), ?_⟩
      rw [directory_concat, List.dropLast_concat]
      exact upToSlash_directory_append init (h segment (by simp)).slash_notMem
  · exact ⟨front, h, hstay⟩

variable {front : List Text}

lemma addSegment_eq (path segment : Text) (more : Bool) :
    addSegment false path segment more = addWhole false path (dropIgnored segment) more := by
  simp [addSegment]

lemma addSegments_singleton (path : Text) (drive : Bool) (segment : Text) :
    (addSegments false path drive [segment]).1 = (addSegment false path segment false).1 := rfl

lemma addSegments_cons_cons (path : Text) (drive : Bool) (segment next : Text) (rest : List Text) :
    addSegments false path drive (segment :: next :: rest) =
      addSegments false (addSegment false path segment true).1
        (drive || (addSegment false path segment true).2) (next :: rest) := rfl

lemma addSegment_cases (hfront : ∀ s ∈ front, IsNormal s)
    (hsegment : ∀ c ∈ segment, isSlash c = false) (more : Bool) :
    (∃ front', (∀ s ∈ front', IsNormal s) ∧
      (addSegment false (directory front) segment more).1 = directory front') ∨
    ∃ s, IsNormal s ∧ (addSegment false (directory front) segment more).1 =
      directory front ++ s ++ if more then ['/'] else [] := by
  have hslash : ∀ c ∈ dropIgnored segment, isSlash c = false :=
    fun c hc => hsegment c (List.mem_filter.mp hc).1
  rw [addSegment_eq, addWhole]
  simp only [Bool.false_and, Bool.false_eq_true, if_false]
  by_cases hdouble : isDoubleDot (percentEncode encodesInPath (dropIgnored segment))
  · obtain ⟨front', hfront', hup⟩ := exists_goUp hfront
    rw [if_pos hdouble, hup, withSlash_directory, ite_self]
    exact .inl ⟨front', hfront', rfl⟩
  by_cases hsingle : isSingleDot (percentEncode encodesInPath (dropIgnored segment))
  · rw [if_neg hdouble, if_pos hsingle, withSlash_directory]
    exact .inl ⟨front, hfront, rfl⟩
  · rw [if_neg hdouble, if_neg hsingle]
    have hchars : ∀ c ∈ percentEncode encodesInPath (dropIgnored segment), isSegmentChar c :=
      fun c hc => isSegmentChar_of_mem_percentEncode hslash hc
    exact .inr ⟨_, ⟨hchars, hsingle, hdouble⟩, rfl⟩

lemma exists_addSegment_more (hfront : ∀ s ∈ front, IsNormal s)
    (hsegment : ∀ c ∈ segment, isSlash c = false) :
    ∃ front', (∀ s ∈ front', IsNormal s) ∧
      (addSegment false (directory front) segment true).1 = directory front' := by
  rcases addSegment_cases hfront hsegment true with h | ⟨s, hs, h⟩
  · exact h
  · refine ⟨front ++ [s], ?_, by rw [h, directory_concat, if_pos rfl]⟩
    simpa [or_imp, forall_and] using ⟨hfront, hs⟩

lemma exists_addSegment_last (hfront : ∀ s ∈ front, IsNormal s)
    (hsegment : ∀ c ∈ segment, isSlash c = false) :
    ∃ parts, parts ≠ [] ∧ (∀ s ∈ parts, IsNormal s) ∧
      (addSegment false (directory front) segment false).1 =
        '/' :: List.intercalate ['/'] parts := by
  have hlast : ∀ {init : List Text} {s : Text}, (∀ s ∈ init, IsNormal s) → IsNormal s →
      ∃ parts, parts ≠ [] ∧ (∀ s ∈ parts, IsNormal s) ∧
        directory init ++ s = '/' :: List.intercalate ['/'] parts := by
    intro init s hinit hs
    refine ⟨init ++ [s], by simp, by simpa [or_imp, forall_and] using ⟨hinit, hs⟩, ?_⟩
    rw [← directory_append init (List.cons_ne_nil s []), List.intercalate_singleton]
  rcases addSegment_cases hfront hsegment false with ⟨front', hfront', h⟩ | ⟨s, hs, h⟩
  · rw [h]
    simpa using hlast hfront' isNormal_nil
  · rw [h]
    simpa using hlast hfront hs

/-- The segments of a path are put together to normal ones. -/
lemma exists_addSegments {read : List Text} (hne : read ≠ [])
    (hread : ∀ s ∈ read, ∀ c ∈ s, isSlash c = false) (hfront : ∀ s ∈ front, IsNormal s)
    (drive : Bool) :
    ∃ parts, parts ≠ [] ∧ (∀ s ∈ parts, IsNormal s) ∧
      (addSegments false (directory front) drive read).1 =
        '/' :: List.intercalate ['/'] parts := by
  induction read generalizing front drive with
  | nil => exact absurd rfl hne
  | cons segment rest ih =>
    have hsegment := hread segment List.mem_cons_self
    cases rest with
    | nil => exact exists_addSegment_last hfront hsegment
    | cons next rest =>
      obtain ⟨front', hfront', hpath⟩ := exists_addSegment_more hfront hsegment
      rw [addSegments_cons_cons, hpath]
      exact ih (List.cons_ne_nil next rest)
        (fun s hs => hread s (List.mem_cons_of_mem segment hs)) hfront' _

/-- **Normal form**: whatever is read as the path of a web URL, what comes out is a path of normal
segments. -/
theorem exists_readWeb (s : Text) : ∃ parts, parts ≠ [] ∧ (∀ part ∈ parts, IsNormal part) ∧
    readWeb s = '/' :: List.intercalate ['/'] parts := by
  have hread : ∀ t, ∃ parts, parts ≠ [] ∧ (∀ part ∈ parts, IsNormal part) ∧
      (addSegments false ['/'] false (segments t)).1 = '/' :: List.intercalate ['/'] parts := by
    intro t
    rw [segments_eq]
    exact @exists_addSegments [] _ (List.splitOnP_ne_nil _ _)
      (fun part hpart => eq_false_of_mem_splitOnP hpart) (by simp) false
  exact hread _

/-! ### Reading what is in normal form -/

lemma addSegment_of_isNormal (path : Text) (h : IsNormal segment) (more : Bool) :
    (addSegment false path segment more).1 = path ++ segment ++ if more then ['/'] else [] := by
  rw [addSegment_eq, addWhole, h.dropIgnored_eq, h.percentEncode_eq]
  simp only [Bool.false_and, Bool.false_eq_true, if_false]
  rw [if_neg h.not_doubleDot, if_neg h.not_singleDot]

lemma addSegments_of_isNormal {parts : List Text} (hne : parts ≠ [])
    (h : ∀ part ∈ parts, IsNormal part) (path : Text) (drive : Bool) :
    (addSegments false path drive parts).1 = path ++ List.intercalate ['/'] parts := by
  induction parts generalizing path drive with
  | nil => exact absurd rfl hne
  | cons segment rest ih =>
    have hsegment := h segment List.mem_cons_self
    cases rest with
    | nil =>
      rw [addSegments_singleton, addSegment_of_isNormal path hsegment false,
        List.intercalate_singleton]
      simp
    | cons next rest =>
      have hrest : ∀ part ∈ next :: rest, IsNormal part :=
        fun part hpart => h part (List.mem_cons_of_mem segment hpart)
      rw [addSegments_cons_cons, ih (List.cons_ne_nil next rest) hrest,
        addSegment_of_isNormal path hsegment true, List.intercalate_cons_cons]
      simp

/-- **Stability**: a path of normal segments is read as it is. -/
theorem readWeb_of_isNormal {parts : List Text} (hne : parts ≠ [])
    (h : ∀ part ∈ parts, IsNormal part) :
    readWeb ('/' :: List.intercalate ['/'] parts) = '/' :: List.intercalate ['/'] parts := by
  have hsegments := segments_intercalate hne h
  have hread := addSegments_of_isNormal hne h ['/'] false
  rw [readWeb]
  simp only [isSlash, beq_self_eq_true, Bool.true_or, if_true]
  rw [hsegments, hread]
  rfl

end Path

end ClickGen.Url
