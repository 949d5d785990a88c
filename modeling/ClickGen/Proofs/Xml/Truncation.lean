import ClickGen.Proofs.Xml.Nesting

/-!
Documents that are cut off. Up to the cut a scan gives the same events; at the cut it can only add
a text, an instruction or an end tag. A text closes nothing, an instruction does not count, and an
end tag that is taken there is the one that the whole document goes on with. So a part of a document
that is read at all is read as the same tree.
-/

namespace ClickGen.Xml

namespace Scanner

lemma exists_advance {s : Scanner} {p : Text} {position : Nat}
    (h : (s.run p).ending = .finished position) : ∃ marked s', s.advance p = some (marked, s') := by
  induction p generalizing s with
  | nil => exact ⟨[], s, rfl⟩
  | cons c p ih =>
    rw [run] at h
    rw [advance]
    cases hc : s.step c with
    | going next =>
      rw [hc] at h
      exact ih h
    | event e next =>
      rw [hc] at h
      obtain ⟨marked, s', hadvance⟩ := ih h
      exact ⟨(s.mark, e) :: marked, s', by simp [hadvance]⟩
    | fault fault position =>
      rw [hc] at h
      cases h

lemma endClosing_cases (s : Scanner) (content : Text) :
    (∃ name next, s.endClosing content = .event (.close name) next) ∨
      ∃ fault position, s.endClosing content = .fault fault position := by
  unfold endClosing
  cases s.openNames with
  | nil => exact .inr ⟨_, _, rfl⟩
  | cons expected outer =>
    simp only
    split_ifs
    · exact .inl ⟨_, _, rfl⟩
    · exact .inr ⟨_, _, rfl⟩
    · exact .inl ⟨_, _, rfl⟩
    · exact .inr ⟨_, _, rfl⟩

lemma endInstruction_cases (s : Scanner) (content : Text) :
    (∃ next, s.endInstruction content = .event .instruction next) ∨
      ∃ fault position, s.endInstruction content = .fault fault position := by
  unfold endInstruction
  split
  · exact .inl ⟨_, rfl⟩
  · exact .inr ⟨_, _, rfl⟩

lemma run_closing (raw : Text) (offset mark markup : Nat) (names : List Text) (rest : Text) :
    (∃ name more ending, run ⟨.closing raw, offset, mark, markup, names⟩ rest =
        ⟨(mark, .close name) :: more, ending⟩) ∨
      ∃ fault position, run ⟨.closing raw, offset, mark, markup, names⟩ rest =
        ⟨[], .fault fault position⟩ := by
  induction rest generalizing raw offset with
  | nil =>
    rw [run, finish]
    rcases endClosing_cases ⟨.closing raw, offset, mark, markup, names⟩ raw.reverse with
      ⟨name, next, hend⟩ | ⟨fault, position, hend⟩
    · simp only [hend]
      exact .inl ⟨_, _, _, rfl⟩
    · simp only [hend]
      exact .inr ⟨_, _, rfl⟩
  | cons c rest ih =>
    rw [run, step]
    by_cases hc : c = '>'
    · rcases endClosing_cases ⟨.closing raw, offset + c.utf8Size, mark, markup, names⟩
        raw.reverse with ⟨name, next, hend⟩ | ⟨fault, position, hend⟩
      · simp only [if_pos hc, hend]
        exact .inl ⟨_, _, _, rfl⟩
      · simp only [if_pos hc, hend]
        exact .inr ⟨_, _, rfl⟩
    · simp only [if_neg hc]
      exact ih (c :: raw) (offset + c.utf8Size)

end Scanner

/-! ### The builder at the cut -/

namespace Builder

lemma Attaches.root_eq {b next : Builder} {e t : Element} (h : Attaches e b next)
    (hroot : b.root = some t) : next.root = some t := by
  cases h with
  | inside => exact hroot
  | root => cases hroot

lemma root_of_step {b next : Builder} {e : Event} {t : Element} (h : b.step e = .ok next)
    (hroot : b.root = some t) : next.root = some t := by
  cases steps_of_ok h with
  | empty _ hattach => exact hattach.root_eq hroot
  | close name hattach => exact hattach.root_eq hroot
  | start | text | cdata | strayCData | comment | instruction | doctype => exact hroot

lemma run_cons_eq_ok {b : Builder} {entry : Nat × Event} {rest : List (Nat × Event)}
    {ending : Ending} {t : Element} :
    b.run (entry :: rest) ending = .ok t ↔
      ∃ next, b.step entry.2 = .ok next ∧ next.run rest ending = .ok t := by
  obtain ⟨position, e⟩ := entry
  rw [run]
  cases b.step e <;> simp

lemma run_append_eq_ok {b : Builder} {marked rest : List (Nat × Event)} {ending : Ending}
    {t : Element} : b.run (marked ++ rest) ending = .ok t ↔
      ∃ next, (marked.map Prod.snd).foldlM step b = .ok next ∧ next.run rest ending = .ok t := by
  induction marked generalizing b with
  | nil => simp [pure, Except.pure]
  | cons entry marked ih =>
    rw [List.cons_append, run_cons_eq_ok, List.map_cons, List.foldlM_cons]
    simp only [ih, bind_eq_ok]
    constructor
    · rintro ⟨next, hstep, last, hlast, hrun⟩
      exact ⟨last, ⟨next, hstep, hlast⟩, hrun⟩
    · rintro ⟨last, ⟨next, hstep, hlast⟩, hrun⟩
      exact ⟨next, hstep, last, hlast, hrun⟩

lemma eq_of_run {b : Builder} {marked : List (Nat × Event)} {ending : Ending} {t t' : Element}
    (hroot : b.root = some t) (h : b.run marked ending = .ok t') : t' = t := by
  induction marked generalizing b with
  | nil =>
    obtain ⟨-, rfl⟩ := close_eq_ok.mp h
    exact Option.some.inj hroot
  | cons entry rest ih =>
    obtain ⟨next, hstep, hrest⟩ := run_cons_eq_ok.mp h
    exact ih (root_of_step hstep hroot) hrest

lemma step_close_congr {b next : Builder} {name : Text} (h : b.step (.close name) = .ok next)
    (other : Text) : b.step (.close other) = .ok next := by
  obtain ⟨stack, root⟩ := b
  cases stack with
  | nil => cases h
  | cons element outer => exact h

lemma not_step_text {b : Builder} {raw : Text} {t : Element} :
    b.step (.text raw) ≠ .ok ⟨[], some t⟩ := by
  intro h
  cases steps_of_ok h

lemma not_run_fault {b : Builder} {fault : Fault} {position : Nat} {t : Element} :
    b.run [] (.fault fault position) ≠ .ok t := by
  intro h
  cases h

lemma eq_of_done {b : Builder} {position : Nat} {marked : List (Nat × Event)} {ending : Ending}
    {t t' : Element} (hcut : b.run [] (.finished position) = .ok t')
    (hwhole : b.run marked ending = .ok t) : t = t' := by
  obtain ⟨-, rfl⟩ := close_eq_ok.mp hcut
  exact eq_of_run rfl hwhole

lemma eq_of_closing {raw rest : Text} {offset mark markup : Nat} {names : List Text}
    {b : Builder} {t t' : Element}
    (hcut : b.run (Scanner.finish ⟨.closing raw, offset, mark, markup, names⟩).events
      (Scanner.finish ⟨.closing raw, offset, mark, markup, names⟩).ending = .ok t')
    (hwhole : b.run (Scanner.run ⟨.closing raw, offset, mark, markup, names⟩ rest).events
      (Scanner.run ⟨.closing raw, offset, mark, markup, names⟩ rest).ending = .ok t) :
    t = t' := by
  rw [Scanner.finish] at hcut
  rcases Scanner.endClosing_cases ⟨.closing raw, offset, mark, markup, names⟩ raw.reverse with
    ⟨name, after, hend⟩ | ⟨fault, position, hend⟩
  · simp only [hend] at hcut
    obtain ⟨next, hstep, hclose⟩ := run_cons_eq_ok.mp hcut
    rcases Scanner.run_closing raw offset mark markup names rest with
      ⟨other, more, ending, hrun⟩ | ⟨fault, position, hrun⟩
    · rw [hrun] at hwhole
      obtain ⟨next', hstep', hmore⟩ := run_cons_eq_ok.mp hwhole
      obtain rfl : next = next' :=
        Except.ok.inj ((step_close_congr hstep other).symm.trans hstep')
      exact eq_of_done hclose hmore
    · rw [hrun] at hwhole
      exact absurd hwhole not_run_fault
  · simp only [hend] at hcut
    exact absurd hcut not_run_fault

/-- Where the scan stands at the cut, a builder that is done at the end of the text is done with
the same tree when the text goes on. -/
lemma eq_of_finish {s : Scanner} {b : Builder} {t t' : Element} {rest : Text}
    (hcut : b.run s.finish.events s.finish.ending = .ok t')
    (hwhole : b.run (s.run rest).events (s.run rest).ending = .ok t) : t = t' := by
  obtain ⟨mode, offset, mark, markup, names⟩ := s
  cases mode with
  | between | opened => exact eq_of_done hcut hwhole
  | text raw =>
    obtain ⟨next, hstep, hclose⟩ := run_cons_eq_ok.mp hcut
    obtain ⟨-, rfl⟩ := close_eq_ok.mp hclose
    exact absurd hstep not_step_text
  | closing raw => exact eq_of_closing hcut hwhole
  | instruction raw =>
    rw [Scanner.finish] at hcut
    rcases Scanner.endInstruction_cases ⟨.instruction raw, offset, mark, markup, names⟩
      raw.reverse with ⟨after, hend⟩ | ⟨fault, position, hend⟩
    · simp only [hend] at hcut
      obtain ⟨next, hstep, hclose⟩ := run_cons_eq_ok.mp hcut
      obtain rfl : b = next := Except.ok.inj hstep
      exact eq_of_done hclose hwhole
    · simp only [hend] at hcut
      exact absurd hcut not_run_fault
  | element | bang | comment | cdata | doctype => exact absurd hcut not_run_fault

end Builder

/-! ### Parts of a document -/

lemma tree_run_append {s : Scanner} {p rest : Text} {t t' : Element}
    (hcut : (s.run p).tree = .ok t') (hwhole : (s.run (p ++ rest)).tree = .ok t) : t = t' := by
  obtain ⟨⟨position, hfinished⟩, -⟩ := Builder.run_eq_ok.mp hcut
  obtain ⟨marked, s', hadvance⟩ := Scanner.exists_advance hfinished
  have hp := Scanner.run_append hadvance []
  rw [List.append_nil] at hp
  rw [Stream.tree, hp] at hcut
  rw [Stream.tree, Scanner.run_append hadvance rest] at hwhole
  obtain ⟨b, hb, hcut⟩ := Builder.run_append_eq_ok.mp hcut
  obtain ⟨b', hb', hwhole⟩ := Builder.run_append_eq_ok.mp hwhole
  obtain rfl : b = b' := Except.ok.inj (hb.symm.trans hb')
  exact Builder.eq_of_finish hcut hwhole

lemma parse_prefix {d p : Text} (hp : p <+: d) {t t' : Element} (hcut : parse p = .ok t')
    (hwhole : parse d = .ok t) : t = t' := by
  obtain ⟨rest, rfl⟩ := hp
  have hne : p ≠ [] := by
    rintro rfl
    cases hcut
  rw [parse, ofText_eq] at hcut
  rw [parse, ofText_append hne] at hwhole
  exact tree_run_append hcut hwhole

end ClickGen.Xml

namespace ClickGen.Model

/-- **What is cut off**: any beginning of a document that can be read is malformed, or it is read
as the same tree. -/
theorem readTree_prefix {d p label : Text} {t : Element} (hd : readTree d label = .ok t)
    (hp : p <+: d) :
    (∃ message position,
        readTree p label = .error (.malformed label message position (Text.byteSize p))) ∨
      readTree p label = .ok t := by
  by_cases hcut : ∃ t', readTree p label = .ok t'
  · obtain ⟨t', ht'⟩ := hcut
    obtain rfl := Xml.parse_prefix hp (readTree_eq_ok.mp ht') (readTree_eq_ok.mp hd)
    exact .inr ht'
  · exact .inl (exists_malformed hcut)

/-- Cut inside the end tag of the root, with a comment behind it. -/
theorem readTree_prefix_endTag :
    readTree "<a>x<b/></a ><!-- -->" "m" = .ok ⟨"a", [], "x", [⟨"b", [], [], []⟩]⟩ ∧
      ("<a>x<b/></a " : Text) <+: ("<a>x<b/></a ><!-- -->" : Text) ∧
      ((∃ message position, readTree "<a>x<b/></a " "m" =
          .error (.malformed "m" message position (Text.byteSize "<a>x<b/></a "))) ∨
        readTree "<a>x<b/></a " "m" = .ok ⟨"a", [], "x", [⟨"b", [], [], []⟩]⟩) := by
  have hd : readTree "<a>x<b/></a ><!-- -->" "m" = .ok ⟨"a", [], "x", [⟨"b", [], [], []⟩]⟩ := by
    decide +kernel
  have hp : ("<a>x<b/></a " : Text) <+: ("<a>x<b/></a ><!-- -->" : Text) := by decide
  exact ⟨hd, hp, readTree_prefix hd hp⟩

example : readTree "<a>x<b/></a" "m" = .ok ⟨"a", [], "x", [⟨"b", [], [], []⟩]⟩ := by
  decide +kernel

end ClickGen.Model
