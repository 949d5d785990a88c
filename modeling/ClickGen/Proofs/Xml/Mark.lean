import ClickGen.Model
import ClickGen.Proofs.Except
import ClickGen.Proofs.Xml.Scan
import ClickGen.Proofs.Xml.Step

/-!
Documents with a byte order mark in front.

The mark is dropped before the first character is read, and the scan counts bytes from there. Every
position that it reports is one that it has been at, so none is behind the end of the text that it
reads. Main statement: with the mark a document has the same tree, or fails with the same message;
the label is where it is without the mark, and so three bytes in front of what it is about.
-/

namespace ClickGen.Xml

namespace Scanner

structure IsBounded (s : Scanner) : Prop where
  mark : s.mark ≤ s.offset
  markup : s.markup ≤ s.offset

/-- The step ends at `offset`, or at a fault before it. -/
inductive EndsAt (offset : Nat) : Step → Prop where
  | going {next : Scanner} (hnext : next.IsBounded) (hoffset : next.offset = offset) :
    EndsAt offset (.going next)
  | event {e : Event} {next : Scanner} (hnext : next.IsBounded) (hoffset : next.offset = offset) :
    EndsAt offset (.event e next)
  | fault {fault : Fault} {position : Nat} (h : position ≤ offset) :
    EndsAt offset (.fault fault position)

variable {s : Scanner}

lemma Ends.endsAt (h : s.IsBounded) {step : Step} (hends : s.Ends step) :
    EndsAt s.offset step := by
  cases hends with
  | event => exact .event ⟨le_rfl, h.markup⟩ rfl
  | fault _ hposition => exact .fault hposition

lemma endsAt_step (h : s.IsBounded) (c : Char) : EndsAt (s.offset + c.utf8Size) (s.step c) := by
  have hstep := takes_step s c
  have hmark : s.mark ≤ s.offset + c.utf8Size := Nat.le_add_right_of_le h.mark
  have hmarkup : s.markup ≤ s.offset + c.utf8Size := Nat.le_add_right_of_le h.markup
  generalize s.step c = step at hstep ⊢
  cases hstep with
  | @going mode markup _ hplace =>
    have hnext : markup ≤ s.offset + c.utf8Size := by omega
    exact .going ⟨hmark, hnext⟩ rfl
  | text => exact .event ⟨Nat.le_add_right _ _, le_rfl⟩ rfl
  | ends hends => exact hends.endsAt ⟨hmark, hmarkup⟩
  | refused => exact .fault hmarkup

end Scanner

/-! ### Positions of a stream -/

def Ending.position : Ending → Nat
  | .finished position | .fault _ position => position

structure Stream.IsBounded (stream : Stream) (bound : Nat) : Prop where
  events : ∀ entry ∈ stream.events, entry.1 ≤ bound
  ending : stream.ending.position ≤ bound

namespace Scanner

variable {s : Scanner}

lemma isBounded_ended (h : s.IsBounded) {step : Step} (hstep : EndsAt s.offset step) :
    (finish.ended s step).IsBounded s.offset := by
  cases hstep with
  | going _ hoffset => exact ⟨by simp [finish.ended], hoffset.le⟩
  | event _ hoffset => exact ⟨by simpa [finish.ended] using h.mark, hoffset.le⟩
  | fault hposition => exact ⟨by simp [finish.ended], hposition⟩

lemma isBounded_finish (h : s.IsBounded) : s.finish.IsBounded s.offset := by
  obtain ⟨mode, offset, mark, markup, names⟩ := s
  cases mode with
  | between | opened => exact ⟨by simp [finish], le_rfl⟩
  | text raw => exact ⟨by simpa [finish] using h.mark, le_rfl⟩
  | closing raw => exact isBounded_ended h ((ends_endClosing _ _).endsAt h)
  | instruction raw => exact isBounded_ended h ((ends_endInstruction _ _).endsAt h)
  | element | bang | comment | cdata | doctype =>
    exact ⟨by simp [finish, finish.unfinished], h.markup⟩

/-- A scan reports no position behind the end of the text. -/
lemma isBounded_run (h : s.IsBounded) (v : Text) :
    (s.run v).IsBounded (s.offset + Text.byteSize v) := by
  induction v generalizing s with
  | nil => exact isBounded_finish h
  | cons c v ih =>
    have hsize : s.offset + Text.byteSize (c :: v) = s.offset + c.utf8Size + Text.byteSize v := by
      simp [Nat.add_assoc]
    have hstep := endsAt_step h c
    rw [run, hsize]
    generalize s.offset + c.utf8Size = offset at hstep hsize ⊢
    generalize s.step c = step at hstep ⊢
    cases hstep with
    | going hnext hoffset => exact hoffset ▸ ih hnext
    | event hnext hoffset =>
      obtain ⟨hevents, hending⟩ := hoffset ▸ ih hnext
      refine ⟨List.forall_mem_cons.mpr ⟨?_, hevents⟩, hending⟩
      have hmark := h.mark
      simp only
      omega
    | fault hposition =>
      exact ⟨fun _ hmem => (List.not_mem_nil hmem).elim, Nat.le_add_right_of_le hposition⟩

end Scanner

lemma Builder.position_le {b : Builder} {marked : List (Nat × Event)} {ending : Ending}
    {bound : Nat} {m : Malformed} (h : Stream.IsBounded ⟨marked, ending⟩ bound)
    (hrun : b.run marked ending = .error m) : m.position ≤ bound := by
  obtain ⟨hevents, hending⟩ := h
  simp only at hevents hending
  induction marked generalizing b with
  | nil =>
    unfold run close at hrun
    split at hrun
    · cases hrun
      exact hending
    · split at hrun
      · cases hrun
        exact hending
      · cases hrun
      · cases hrun
        exact Nat.zero_le _
  | cons entry rest ih =>
    obtain ⟨hposition, hrest⟩ := List.forall_mem_cons.mp hevents
    rw [run] at hrun
    split at hrun
    · exact ih hrun hrest
    · cases hrun
      exact hposition

lemma position_le_byteSize {xml : Text} {m : Malformed} (h : parse xml = .error m) :
    m.position ≤ Text.byteSize (withoutMark xml) := by
  have hbounded := Scanner.isBounded_run (s := {}) ⟨le_rfl, le_rfl⟩ (withoutMark xml)
  rw [Nat.zero_add, ← ofText_eq] at hbounded
  exact Builder.position_le hbounded h

end ClickGen.Xml

namespace ClickGen.Model

open Xml

lemma parse_mark {x : Text} (h : x.head? ≠ some '\uFEFF') :
    Xml.parse ('\uFEFF' :: x) = Xml.parse x := by
  have hx : withoutMark x = x := by
    cases x with
    | nil => rfl
    | cons c rest => exact withoutMark_of_ne (fun heq => h (congrArg some heq)) rest
  rw [Xml.parse, ofText_eq, Xml.parse, ofText_eq, hx]
  rfl

lemma readTree_eq_error {xml label : Text} {m : Malformed} (h : Xml.parse xml = .error m) :
    readTree xml label =
      .error (.malformed label m.fault.message m.position (Text.byteSize xml)) := by
  rw [readTree, h]
  rfl

/-- **A byte order mark is transparent, but for the label.** With the mark in front a document has
the same tree, or fails with the same message. The label begins at the same number of bytes, though
all of the document has moved by the three bytes of the mark. -/
theorem readTree_mark {x : Text} (h : x.head? ≠ some '\uFEFF') (label : Text) :
    (∀ t, readTree x label = .ok t → readTree ('\uFEFF' :: x) label = .ok t) ∧
      ∀ failure, readTree x label = .error failure →
        ∃ marked start, readTree ('\uFEFF' :: x) label = .error marked ∧
          marked.message? = failure.message? ∧ failure.label?.map (·.start) = some start ∧
          marked.label? = some ⟨start, start + 1⟩ := by
  have hmarked := parse_mark h
  constructor
  · intro t ht
    exact mapError_eq_ok.mpr (hmarked.trans (mapError_eq_ok.mp ht))
  · intro failure hfailure
    cases hparse : Xml.parse x with
    | ok t =>
      rw [readTree, hparse] at hfailure
      cases hfailure
    | error m =>
      rw [readTree_eq_error hparse] at hfailure
      obtain rfl := Except.error.inj hfailure
      have hposition : m.position ≤ Text.byteSize x := by
        simpa [withoutMark] using position_le_byteSize (hmarked.trans hparse)
      have hsize : Text.byteSize ('\uFEFF' :: x) = 3 + Text.byteSize x := rfl
      refine ⟨_, m.position, readTree_eq_error (hmarked.trans hparse), rfl, ?_, ?_⟩
      · rw [Failure.label?, Option.map_some, Nat.min_eq_left hposition]
      · rw [Failure.label?, hsize, Nat.min_eq_left (by omega), Nat.min_eq_left (by omega)]

lemma readTree_strayText :
    readTree "<a/>x" "m" = .error (.malformed "m" Fault.strayText.message 4 5) := by
  rfl

theorem readTree_mark_strayText :
    readTree "<a/>x" "m" = .error (.malformed "m" Fault.strayText.message 4 5) ∧
      ∃ marked, readTree ('\uFEFF' :: "<a/>x".toList) "m" = .error marked ∧
        marked.label? = some ⟨4, 5⟩ := by
  obtain ⟨marked, start, hmarked, -, hstart, hlabel⟩ :=
    (readTree_mark (x := "<a/>x") (by decide) "m").2 _ readTree_strayText
  obtain rfl : 4 = start := Option.some.inj hstart
  exact ⟨readTree_strayText, marked, hmarked, hlabel⟩

/-- The label does not move with the document. -/
theorem not_forall_label_moved :
    ¬ ∀ (x label : Text) (failure : Failure), x.head? ≠ some '\uFEFF' →
      readTree x label = .error failure → ∃ marked, readTree ('\uFEFF' :: x) label = .error marked ∧
        marked.message? = failure.message? ∧
        marked.label?.map (·.start) = failure.label?.map (·.start + 3) := by
  intro h
  have hwith : readTree ('\uFEFF' :: "<a/>x".toList) "m" =
      .error (.malformed "m" Fault.strayText.message 4 8) := by rfl
  obtain ⟨marked, hmarked, -, hlabel⟩ := h "<a/>x" "m" _ (by decide) readTree_strayText
  obtain rfl := Except.error.inj (hmarked.symm.trans hwith)
  exact absurd hlabel (by decide)

end ClickGen.Model
