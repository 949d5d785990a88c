import ClickGen.Proofs.Xml.Building
import ClickGen.Proofs.Xml.Loop

/-!
Two stacks: the names of the tags that the reader holds open, and the elements that the builder has
under construction.

Different code keeps them. The reader pushes the name of a start tag and pops it at the end tag
that has the same name; the builder pushes an element and pops whatever is on top. Main statement:
in front of every turn of the loop they have the same names, so that an end tag always finds the
element that it names, and a stray one is refused before the builder hears of it.
-/

namespace ClickGen.Xml

lemma attributesFrom_fault {size position : Nat} {seen : SeenKeys} {state : AttributeState}
    {s : Text} {fault : Fault} (h : attributesFrom size position seen state s = .error fault) :
    (∃ cause, fault = .attribute cause) ∨ ∃ cause, fault = .reference cause := by
  induction s generalizing position seen state with
  | nil =>
    cases state <;> cases h <;> exact .inl ⟨_, rfl⟩
  | cons c rest ih =>
    rcases attributesFrom_cons size position seen state c rest with
      ⟨seen', state', -, hread⟩ | ⟨key, raw, -, hread⟩ | ⟨cause, hread⟩
    · exact ih (hread ▸ h)
    · rcases bind_eq_error.mp (hread ▸ h) with hvalue | ⟨value, -, h⟩
      · obtain ⟨cause, -, rfl⟩ := mapError_eq_error.mp hvalue
        exact .inr ⟨cause, rfl⟩
      · rcases bind_eq_error.mp h with hrest | ⟨more, -, h⟩
        · exact ih hrest
        · cases h
    · obtain rfl : .attribute cause = fault := Except.error.inj (hread ▸ h)
      exact .inl ⟨cause, rfl⟩

lemma Tag.element_ne_strayEnd (tag : Tag) (name : Text) :
    tag.element ≠ .error (.strayEnd name) := by
  intro h
  rw [Tag.element_eq] at h
  rcases bind_eq_error.mp h with h | ⟨attributes, -, h⟩
  · rcases attributesFrom_fault h with ⟨cause, hcause⟩ | ⟨cause, hcause⟩ <;> cases hcause
  · cases h

namespace Builder

def names (b : Builder) : List Text := b.stack.map Element.name

variable {b next : Builder} {e : Event}

lemma attach_ne_strayEnd (b : Builder) (child : Element) (name : Text) :
    b.attach child ≠ .error (.strayEnd name) := by
  obtain ⟨stack, root⟩ := b
  cases stack <;> cases root <;> exact nofun

lemma of_strayEnd {name : Text} (h : b.step e = .error (.strayEnd name)) :
    e = .close name ∧ b.stack = [] := by
  obtain ⟨stack, root⟩ := b
  cases e with
  | start tag =>
    rcases bind_eq_error.mp h with h | ⟨child, -, h⟩
    · exact absurd h (tag.element_ne_strayEnd name)
    · cases h
  | empty tag =>
    rcases bind_eq_error.mp h with h | ⟨child, -, h⟩
    · exact absurd h (tag.element_ne_strayEnd name)
    · exact absurd h (attach_ne_strayEnd _ child name)
  | close closed =>
    cases stack with
    | nil =>
      cases h
      exact ⟨rfl, rfl⟩
    | cons child outer => exact absurd h (attach_ne_strayEnd _ child name)
  | text raw =>
    rcases bind_eq_error.mp h with h | ⟨text, -, h⟩
    · obtain ⟨cause, -, hcause⟩ := mapError_eq_error.mp h
      cases hcause
    · cases stack <;> cases h
  | cdata raw => cases stack <;> cases h
  | comment | instruction | doctype => cases h

/-! ### What an event does to both stacks -/

lemma Attaches.names_eq {child : Element} (h : Attaches child b next) : next.names = b.names := by
  cases h <;> rfl

lemma Steps.names_eq {left : List Text} (h : Steps b e next) (hleads : e.Leads b.names left) :
    next.names = left := by
  cases h with
  | start => exact hleads.symm
  | empty _ hattach => exact hattach.names_eq.trans hleads.symm
  | close name hattach => exact hattach.names_eq.trans (List.cons.inj hleads).2
  | text | cdata | strayCData | comment | instruction | doctype => exact hleads.symm

lemma Steps.stack_ne_nil {raw : Text} (h : Steps b (.text raw) next) : next.stack ≠ [] := by
  cases h with
  | text => exact List.cons_ne_nil _ _

end Builder

/-- Reader and builder are inside of the same elements, with the reader at rest. -/
structure Loop.Mirrors (l : Loop) : Prop where
  atRest : l.scanner.AtRest
  names : l.builder.names = l.scanner.openNames
  /-- A bracket is taken ahead only behind a text, which there is inside of an element only. -/
  inside : l.scanner.mode = .opened → l.builder.stack ≠ []

namespace Loop

variable {l next : Loop}

lemma mirrors_start (xml : Text) : (start xml).Mirrors := ⟨atRest_start xml, rfl, nofun⟩

lemma Mirrors.of_goes (hl : l.Mirrors) (h : l.turn = .goes next) : next.Mirrors := by
  obtain ⟨e, taken, -, -, hreads, hstep⟩ := reads_of_goes hl.atRest h
  have hleads : e.Leads l.builder.names next.scanner.openNames := hl.names ▸ hreads.leads
  have hsteps := Builder.steps_of_ok hstep
  refine ⟨hreads.atRest, hsteps.names_eq hleads, fun hmode => ?_⟩
  obtain ⟨raw, rfl⟩ := hreads.text hmode
  exact hsteps.stack_ne_nil

/-- What an end tag ends is under construction, and has its name. -/
lemma Mirrors.exists_of_close (hl : l.Mirrors) {name rest : Text} {next : Scanner}
    (h : l.scanner.read l.rest = .event (.close name) next rest) :
    ∃ e outer, l.builder.stack = e :: outer ∧ e.name = name := by
  obtain ⟨taken, -, -, hreads⟩ := Scanner.exists_reads hl.atRest h
  have hnames : l.builder.stack.map Element.name = name :: next.openNames :=
    hl.names.trans hreads.leads
  cases hstack : l.builder.stack with
  | nil =>
    rw [hstack] at hnames
    cases hnames
  | cons e outer =>
    rw [hstack] at hnames
    exact ⟨e, outer, rfl, (List.cons.inj hnames).1⟩

end Loop

namespace Scanner

variable {s s' : Scanner} {fault : Fault} {position : Nat}

lemma isReaders_of_readEnd (h : s.readEnd = .ended (.fault fault position)) :
    fault.IsReaders := by
  have hlast : ∀ step, s.Ends step → lastReading step = .ended (.fault fault position) →
      fault.IsReaders := by
    intro step hends hstep
    cases hends with
    | event => cases hstep
    | fault hfault =>
      cases hstep
      exact hfault
  obtain ⟨mode, offset, mark, markup, names⟩ := s
  cases mode with
  | closing raw => exact hlast _ (ends_endClosing _ _) h
  | instruction raw => exact hlast _ (ends_endInstruction _ _) h
  | between | text | opened => cases h
  | element | bang | comment | cdata | doctype =>
    cases h
    trivial

lemma isReaders_of_read {v : Text} (h : s.read v = .ended (.fault fault position)) :
    fault.IsReaders := by
  induction v generalizing s with
  | nil => exact isReaders_of_readEnd h
  | cons c v ih =>
    have hstep := takes_step s c
    rw [read] at h
    generalize s.step c = step at h hstep
    cases hstep with
    | going => exact ih h
    | text => cases h
    | ends hends =>
      cases hends with
      | event => cases h
      | fault hfault =>
        cases h
        exact hfault
    | refused hfault =>
      cases h
      exact hfault

lemma read_of_advance {v : Text} (h : s.advance v = some ([], s')) (w : Text) :
    s.read (v ++ w) = s'.read w := by
  induction v generalizing s with
  | nil =>
    obtain rfl : s = s' := by simpa [advance] using h
    rfl
  | cons c v ih =>
    rw [advance] at h
    rw [List.cons_append, read]
    cases hc : s.step c with
    | going next =>
      rw [hc] at h
      exact ih h
    | event e next => simp [hc] at h
    | fault fault position => simp [hc] at h

/-- An end tag, up to its bracket or to the end of the text, with white space in front of it. -/
structure IsEndTag (v gap name tail : Text) : Prop where
  eq : v = gap ++ '<' :: '/' :: (name ++ tail)
  gap : ∀ c ∈ gap, isSpace c
  name : '>' ∉ name
  tail : ∀ c ∈ tail.head?, c = '>'

lemma advance_gap {gap : Text} (h : ∀ c ∈ gap, isSpace c) (offset mark markup : Nat)
    (names : List Text) : advance ⟨.between, offset, mark, markup, names⟩ gap =
      some ([], ⟨.between, offset + Text.byteSize gap, mark, markup, names⟩) := by
  induction gap generalizing offset with
  | nil => rfl
  | cons c gap ih =>
    obtain ⟨hc, hgap⟩ := List.forall_mem_cons.mp h
    have hrest := ih hgap (offset + c.utf8Size)
    rw [advance]
    simpa [step, hc, Nat.add_assoc] using hrest

lemma read_endTag {v gap name tail : Text} (h : IsEndTag v gap name tail)
    (hmode : s.mode = .between) (hnames : s.openNames = []) :
    ∃ position, s.read v = .ended (.fault (.mismatchedEnd [] name) position) := by
  obtain ⟨mode, offset, mark, markup, names⟩ := s
  obtain ⟨rfl, hgap, hname, htail⟩ := h
  obtain rfl : mode = .between := hmode
  obtain rfl : names = [] := hnames
  obtain ⟨after, behind, hslash⟩ : ∃ after behind,
      advance ⟨.between, offset + Text.byteSize gap, mark, markup, []⟩ ['<', '/'] =
        some ([], ⟨.closing [], after, mark, behind, []⟩) := ⟨_, _, rfl⟩
  have hparts : gap ++ '<' :: '/' :: (name ++ tail) = gap ++ (['<', '/'] ++ (name ++ tail)) := rfl
  rw [hparts, read_of_advance (advance_gap hgap offset mark markup []), read_of_advance hslash,
    read_of_advance (advance_closing after mark behind [] [] hname), List.append_nil]
  cases tail with
  | nil =>
    simp only [read, readEnd, List.reverse_reverse]
    exact ⟨_, rfl⟩
  | cons c rest =>
    obtain rfl : c = '>' := htail c rfl
    simp only [read, step, if_true, List.reverse_reverse]
    exact ⟨_, rfl⟩

end Scanner

namespace Loop

variable {l : Loop}

lemma Mirrors.not_strayEnd (hl : l.Mirrors) (name : Text) (position : Nat) :
    l.turn ≠ .ends (.error ⟨.strayEnd name, position⟩) := by
  intro h
  unfold turn at h
  cases hread : l.scanner.read l.rest with
  | ended ending =>
    rw [hread] at h
    cases ending with
    | fault fault position =>
      have hfault := Scanner.isReaders_of_read hread
      cases h
      exact hfault
    | finished position =>
      obtain ⟨scanner, ⟨stack, root⟩, rest⟩ := l
      cases stack <;> cases root <;> cases h
  | event e next rest =>
    simp only [hread] at h
    cases hstep : l.builder.step e with
    | ok builder =>
      rw [hstep] at h
      cases h
    | error fault =>
      rw [hstep] at h
      cases h
      obtain ⟨rfl, hnone⟩ := Builder.of_strayEnd hstep
      obtain ⟨e, outer, hstack, -⟩ := hl.exists_of_close hread
      rw [hnone] at hstack
      cases hstack

lemma Mirrors.turn_endTag (hl : l.Mirrors) (hnone : l.builder.stack = []) {gap name tail : Text}
    (h : Scanner.IsEndTag l.rest gap name tail) :
    ∃ position, l.turn = .ends (.error ⟨.mismatchedEnd [] name, position⟩) := by
  have hmode : l.scanner.mode = .between := by
    rcases hl.atRest with ⟨hmode, -⟩ | ⟨hmode, -⟩
    · exact hmode
    · exact absurd hnone (hl.inside hmode)
  have hnames : l.scanner.openNames = [] := by
    rw [← hl.names, Builder.names, hnone, List.map_nil]
  obtain ⟨position, hread⟩ := Scanner.read_endTag h hmode hnames
  refine ⟨position, ?_⟩
  rw [turn, hread]
  rfl

end Loop

/-- **Open tags.** The loop of the parser ends with what parsing gives, and in front of each of its
turns the elements under construction have the names that the reader holds open, innermost first.
So an end tag that the builder hears of has the name of the element that it ends; one that has
nothing to end is refused by the reader, in that turn; and no document is ever refused because the
builder has nothing to end. -/
theorem turns_openTags (xml : Text) :
    (∃ states, Turns (.start xml) states (parse xml)) ∧
      (∀ name position, parse xml ≠ .error ⟨.strayEnd name, position⟩) ∧
      ∀ states result, Turns (.start xml) states result → result = parse xml ∧ ∀ l ∈ states,
        l.builder.stack.map Element.name = l.scanner.openNames ∧
        (∀ name next rest, l.scanner.read l.rest = .event (.close name) next rest →
          ∃ e outer, l.builder.stack = e :: outer ∧ e.name = name) ∧
        ∀ gap name tail, l.builder.stack = [] → Scanner.IsEndTag l.rest gap name tail →
          ∃ position, l.turn = .ends (.error ⟨.mismatchedEnd [] name, position⟩) := by
  have hmirrors : ∀ {states result}, Turns (.start xml) states result → ∀ l ∈ states, l.Mirrors :=
    fun h => h.forall_of_goes (Loop.mirrors_start xml) fun l next hl hturn => hl.of_goes hturn
  refine ⟨exists_turns_parse xml, ?_, ?_⟩
  · intro name position hparse
    obtain ⟨states, hturns⟩ := exists_turns_parse xml
    obtain ⟨last, hmem, hlast⟩ := hturns.exists_last
    exact (hmirrors hturns last hmem).not_strayEnd name position (hparse ▸ hlast)
  · intro states result hturns
    refine ⟨hturns.result_eq.symm.trans (Loop.result_start xml), fun l hl => ?_⟩
    have hmirror := hmirrors hturns l hl
    exact ⟨hmirror.names, fun name next rest hread => hmirror.exists_of_close hread,
      fun gap name tail hnone htag => hmirror.turn_endTag hnone htag⟩

/-- A text inside of an element, and an end tag behind it with nothing to end. -/
theorem turns_openTags_stray : ∃ first second third last : Loop,
    Turns (.start "<a>x</a></b>") [first, second, third, last]
        (.error ⟨.mismatchedEnd [] "b", 10⟩) ∧
      third.scanner.openNames = ["a".toList] ∧ third.builder.stack.map Element.name = ["a".toList] ∧
      ∃ position, last.turn = .ends (.error ⟨.mismatchedEnd [] "b", position⟩) := by
  obtain ⟨first, second, third, last, hturns, hthird, hlast, htag⟩ :
      ∃ first second third last : Loop, Turns (.start "<a>x</a></b>") [first, second, third, last]
        (.error ⟨.mismatchedEnd [] "b", 10⟩) ∧ third.scanner.openNames = ["a".toList] ∧
        last.builder.stack = [] ∧ Scanner.IsEndTag last.rest [] "b" ">" :=
    ⟨_, _, _, _, .goes rfl (.goes rfl (.goes rfl (.ends rfl))), rfl, rfl, rfl, by simp, by decide,
      by simp⟩
  obtain ⟨-, -, hstates⟩ := turns_openTags "<a>x</a></b>"
  obtain ⟨-, hall⟩ := hstates _ _ hturns
  obtain ⟨hnames, -⟩ := hall third (by simp)
  obtain ⟨-, -, hstray⟩ := hall last (by simp)
  exact ⟨first, second, third, last, hturns, hthird, hnames.trans hthird, hstray _ _ _ hlast htag⟩

end ClickGen.Xml
