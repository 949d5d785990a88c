import ClickGen.Proofs.Xml.Mark

/-!
The parser as a loop that asks the reader for one event at a time and gives it to the builder.

Between two events the reader stands behind the markup that it has read, or behind the bracket that
ended a text. A turn of the loop goes on with what is left of the text, which is shorter by at least
one character, or ends with the outcome. So every loop comes to an end, and from the whole text it
ends with what parsing the text gives.
-/

namespace ClickGen.Xml

/-- What a reader gives when it is asked for an event: one, with the scan and the text behind it,
or the end of the text. -/
inductive Reading where
  | event (e : Event) (next : Scanner) (rest : Text)
  | ended (ending : Ending)

namespace Scanner

/-- What is left of the last step in a text. -/
def lastReading : Step → Reading
  | .going next => .ended (.finished next.offset)
  | .event e next => .event e next []
  | .fault fault position => .ended (.fault fault position)

/-- What the end of the text gives. A text ends there as it does at a bracket. -/
def readEnd (s : Scanner) : Reading :=
  match s.mode with
  | .text raw =>
    .event (.text (Text.trimEnd isSpace raw.reverse))
      { s with mode := .opened, mark := s.offset - 1, markup := s.offset } []
  | .closing raw => lastReading (s.endClosing raw.reverse)
  | .instruction raw => lastReading (s.endInstruction raw.reverse)
  | .between | .opened | .element .. | .bang | .comment _ | .cdata _ | .doctype .. =>
    .ended s.finish.ending

def read (s : Scanner) : Text → Reading
  | [] => s.readEnd
  | c :: rest =>
    match s.step c with
    | .going next => next.read rest
    | .event e next => .event e next rest
    | .fault fault position => .ended (.fault fault position)

end Scanner

/-- The stream of a reader that gives this next, and has ended the last event at `mark`. -/
def Reading.stream (mark : Nat) : Reading → Stream
  | .event e next rest => ⟨(mark, e) :: (next.run rest).events, (next.run rest).ending⟩
  | .ended ending => ⟨[], ending⟩

namespace Scanner

lemma Ends.stream_lastReading {s : Scanner} {step : Step} (h : s.Ends step) :
    finish.ended s step = (lastReading step).stream s.mark := by
  cases h <;> rfl

lemma finish_eq_stream (s : Scanner) : s.finish = s.readEnd.stream s.mark := by
  obtain ⟨mode, offset, mark, markup, names⟩ := s
  cases mode with
  | closing raw => exact (ends_endClosing _ _).stream_lastReading
  | instruction raw => exact (ends_endInstruction _ _).stream_lastReading
  | between | text | opened | element | bang | comment | cdata | doctype => rfl

lemma run_eq_stream (s : Scanner) (v : Text) : s.run v = (s.read v).stream s.mark := by
  induction v generalizing s with
  | nil => exact finish_eq_stream s
  | cons c v ih =>
    have hstep := takes_step s c
    rw [run, read]
    generalize s.step c = step at hstep ⊢
    cases step with
    | going next =>
      obtain ⟨-, hmark, -⟩ := hstep.of_going
      exact hmark ▸ ih next
    | event e next => rfl
    | fault fault position => rfl

/-- Between two events: a scan stands outside of markup where the last event ended, or a bracket
further. -/
def AtRest (s : Scanner) : Prop :=
  s.mode = .between ∧ s.mark = s.offset ∨ s.mode = .opened ∧ s.mark + 1 = s.offset

/-- The event takes the scan from `s` over `taken` to where the next one begins. -/
structure Reads (s : Scanner) (taken : Text) (e : Event) (next : Scanner) : Prop where
  offset : next.offset = s.offset + Text.byteSize taken
  mark : s.mark ≤ next.mark
  atRest : next.AtRest
  leads : e.Leads s.openNames next.openNames
  /-- Only a text takes a bracket with it. -/
  text : next.mode = .opened → ∃ raw, e = .text raw

section Reading

variable {s next last : Scanner} {c : Char} {e : Event} {v taken rest : Text}

lemma Ends.reads (h : s.Ends (.event e next)) (hs : s.mark ≤ s.offset) : s.Reads [] e next := by
  cases h with
  | event hleads => exact ⟨rfl, hs, .inl ⟨rfl, rfl⟩, hleads, nofun⟩

lemma Takes.reads (h : s.Takes c (.event e next)) (hs : s.mark ≤ s.offset) :
    s.Reads [c] e next := by
  cases h with
  | text _ hc =>
    subst hc
    exact ⟨rfl, hs, .inr ⟨rfl, rfl⟩, rfl, fun _ => ⟨_, rfl⟩⟩
  | ends hends =>
    have hread := hends.reads (Nat.le_add_right_of_le hs)
    exact ⟨hread.offset, hread.mark, hread.atRest, hread.leads, hread.text⟩

lemma Reads.cons (h : next.Reads taken e last) (hgoing : s.Takes c (.going next)) :
    s.Reads (c :: taken) e last := by
  obtain ⟨hoffset, hmark, hnames⟩ := hgoing.of_going
  refine ⟨?_, hmark ▸ h.mark, h.atRest, hnames ▸ h.leads, h.text⟩
  rw [h.offset, hoffset, Text.byteSize_cons, Nat.add_assoc]

lemma reads_readEnd (hs : s.mark < s.offset) (h : s.readEnd = .event e next rest) :
    rest = [] ∧ s.Reads [] e next := by
  have hlast : ∀ step, s.Ends step → lastReading step = .event e next rest →
      rest = [] ∧ s.Reads [] e next := by
    intro step hends hstep
    cases step with
    | event e' next' =>
      cases hstep
      exact ⟨rfl, hends.reads hs.le⟩
    | going | fault => cases hstep
  obtain ⟨mode, offset, mark, markup, names⟩ := s
  cases mode with
  | text raw =>
    simp only at hs
    have hmark : mark ≤ offset - 1 := by omega
    have hbracket : offset - 1 + 1 = offset := by omega
    cases h
    exact ⟨rfl, rfl, hmark, .inr ⟨rfl, hbracket⟩, rfl, fun _ => ⟨_, rfl⟩⟩
  | closing raw => exact hlast _ (ends_endClosing _ _) h
  | instruction raw => exact hlast _ (ends_endInstruction _ _) h
  | between | opened | element | bang | comment | cdata | doctype => cases h

lemma Takes.lt_of_going (h : s.Takes c (.going next)) (hs : s.mark ≤ s.offset) :
    next.mark < next.offset := by
  obtain ⟨hoffset, hmark, -⟩ := h.of_going
  have hpos := Char.utf8Size_pos c
  omega

lemma exists_reads_of_lt (hs : s.mark < s.offset) (h : s.read v = .event e next rest) :
    ∃ taken, v = taken ++ rest ∧ s.Reads taken e next := by
  induction v generalizing s with
  | nil =>
    obtain ⟨rfl, hread⟩ := reads_readEnd hs h
    exact ⟨[], rfl, hread⟩
  | cons c v ih =>
    have hstep := takes_step s c
    rw [read] at h
    generalize s.step c = step at h hstep
    cases step with
    | going between =>
      obtain ⟨taken, rfl, hread⟩ := ih (hstep.lt_of_going hs.le) h
      exact ⟨c :: taken, rfl, hread.cons hstep⟩
    | event e' next' =>
      cases h
      exact ⟨[c], rfl, hstep.reads hs.le⟩
    | fault => cases h

lemma exists_reads (hs : s.AtRest) (h : s.read v = .event e next rest) :
    ∃ taken, taken ≠ [] ∧ v = taken ++ rest ∧ s.Reads taken e next := by
  have hmark : s.mark ≤ s.offset := by
    rcases hs with ⟨-, hmark⟩ | ⟨-, hmark⟩ <;> omega
  cases v with
  | nil =>
    obtain ⟨mode, offset, mark, markup, names⟩ := s
    rcases hs with ⟨rfl, -⟩ | ⟨rfl, -⟩ <;> cases h
  | cons c v =>
    have hstep := takes_step s c
    rw [read] at h
    generalize s.step c = step at h hstep
    cases step with
    | going between =>
      obtain ⟨taken, rfl, hread⟩ := exists_reads_of_lt (hstep.lt_of_going hmark) h
      exact ⟨c :: taken, List.cons_ne_nil c taken, rfl, hread.cons hstep⟩
    | event e' next' =>
      cases h
      exact ⟨[c], List.cons_ne_nil c [], rfl, hstep.reads hmark⟩
    | fault => cases h

end Reading

end Scanner

/-! ### Turns -/

/-- The loop in front of its next event: the reader, the builder, and the text that is left. -/
structure Loop where
  scanner : Scanner := {}
  builder : Builder := {}
  rest : Text

inductive Turn where
  | goes (next : Loop)
  | ends (result : Except Malformed Element)

namespace Loop

/-- The loop in front of a whole text. -/
def start (xml : Text) : Loop := { rest := withoutMark xml }

/-- Reads an event and gives it to the builder. What the builder refuses is reported where the
event before it ended. -/
def turn (l : Loop) : Turn :=
  match l.scanner.read l.rest with
  | .ended ending => .ends (l.builder.close ending)
  | .event e scanner rest =>
    match l.builder.step e with
    | .ok builder => .goes ⟨scanner, builder, rest⟩
    | .error fault => .ends (.error ⟨fault, l.scanner.mark⟩)

/-- What parsing gives from here on. -/
def result (l : Loop) : Except Malformed Element :=
  l.builder.run (l.scanner.run l.rest).events (l.scanner.run l.rest).ending

lemma result_start (xml : Text) : (start xml).result = parse xml := by
  rw [parse, ofText_eq]
  rfl

variable {l next : Loop} {result : Except Malformed Element}

lemma of_goes (h : l.turn = .goes next) :
    ∃ e, l.scanner.read l.rest = .event e next.scanner next.rest ∧
      l.builder.step e = .ok next.builder := by
  unfold turn at h
  cases hread : l.scanner.read l.rest with
  | ended ending =>
    rw [hread] at h
    cases h
  | event e scanner rest =>
    simp only [hread] at h
    cases hstep : l.builder.step e with
    | error fault =>
      rw [hstep] at h
      cases h
    | ok builder =>
      rw [hstep] at h
      cases h
      exact ⟨e, rfl, hstep⟩

lemma reads_of_goes (hl : l.scanner.AtRest) (h : l.turn = .goes next) :
    ∃ e taken, taken ≠ [] ∧ l.rest = taken ++ next.rest ∧
      l.scanner.Reads taken e next.scanner ∧ l.builder.step e = .ok next.builder := by
  obtain ⟨e, hread, hstep⟩ := of_goes h
  obtain ⟨taken, hne, hrest, hreads⟩ := Scanner.exists_reads hl hread
  exact ⟨e, taken, hne, hrest, hreads, hstep⟩

lemma length_of_goes (hl : l.scanner.AtRest) (h : l.turn = .goes next) :
    next.rest.length < l.rest.length := by
  obtain ⟨e, taken, hne, hrest, -⟩ := reads_of_goes hl h
  have htaken := List.length_pos_iff.mpr hne
  rw [hrest, List.length_append]
  omega

lemma result_of_goes (h : l.turn = .goes next) : l.result = next.result := by
  obtain ⟨e, hread, hstep⟩ := of_goes h
  rw [Loop.result, Scanner.run_eq_stream, hread, Reading.stream, Builder.run, hstep]
  rfl

lemma result_of_ends (h : l.turn = .ends result) : l.result = result := by
  rw [Loop.result, Scanner.run_eq_stream]
  unfold turn at h
  cases hread : l.scanner.read l.rest with
  | ended ending =>
    rw [hread] at h
    cases h
    rfl
  | event e scanner rest =>
    simp only [hread] at h
    cases hstep : l.builder.step e with
    | ok builder =>
      rw [hstep] at h
      cases h
    | error fault =>
      rw [hstep] at h
      cases h
      rw [Reading.stream, Builder.run, hstep]

end Loop

/-- The turns of a loop to its end, with what is left in front of each of them. -/
inductive Turns : Loop → List Loop → Except Malformed Element → Prop where
  | ends {l : Loop} {result : Except Malformed Element} (h : l.turn = .ends result) :
    Turns l [l] result
  | goes {l next : Loop} {later : List Loop} {result : Except Malformed Element}
      (h : l.turn = .goes next) (hlater : Turns next later result) : Turns l (l :: later) result

namespace Turns

variable {l : Loop} {states : List Loop} {result : Except Malformed Element}

lemma result_eq (h : Turns l states result) : l.result = result := by
  induction h with
  | ends h => exact Loop.result_of_ends h
  | goes h _ ih => exact (Loop.result_of_goes h).trans ih

lemma exists_last (h : Turns l states result) : ∃ last ∈ states, last.turn = .ends result := by
  induction h with
  | ends h => exact ⟨_, List.mem_cons_self, h⟩
  | goes _ _ ih =>
    obtain ⟨last, hmem, hlast⟩ := ih
    exact ⟨last, List.mem_cons_of_mem _ hmem, hlast⟩

lemma forall_of_goes {holds : Loop → Prop} (h : Turns l states result) (hl : holds l)
    (hstep : ∀ l next : Loop, holds l → l.turn = .goes next → holds next) :
    ∀ l' ∈ states, holds l' := by
  induction h with
  | ends => simpa using hl
  | goes hturn _ ih => exact List.forall_mem_cons.mpr ⟨hl, ih (hstep _ _ hl hturn)⟩

/-- There are no more turns than characters, but for the one that finds the end. -/
lemma length_le (h : Turns l states result) (hl : l.scanner.AtRest) :
    states.length ≤ l.rest.length + 1 := by
  induction h with
  | ends => simp
  | goes hturn _ ih =>
    obtain ⟨e, taken, -, -, hreads, -⟩ := Loop.reads_of_goes hl hturn
    have hlater := ih hreads.atRest
    have hshorter := Loop.length_of_goes hl hturn
    rw [List.length_cons]
    omega

end Turns

lemma Loop.exists_turns {l : Loop} (hl : l.scanner.AtRest) : ∃ states, Turns l states l.result := by
  -- each turn leaves less of the text
  induction hlength : l.rest.length using Nat.strong_induction_on generalizing l with
  | _ n ih =>
    cases hturn : l.turn with
    | ends result => exact ⟨[l], .ends (result_of_ends hturn ▸ hturn)⟩
    | goes next =>
      obtain ⟨e, taken, -, -, hreads, -⟩ := reads_of_goes hl hturn
      have hshorter := length_of_goes hl hturn
      obtain ⟨later, hlater⟩ := ih _ (hlength ▸ hshorter) hreads.atRest rfl
      exact ⟨l :: later, .goes hturn (result_of_goes hturn ▸ hlater)⟩

lemma Loop.atRest_start (xml : Text) : (start xml).scanner.AtRest := .inl ⟨rfl, rfl⟩

lemma exists_turns_parse (xml : Text) : ∃ states, Turns (.start xml) states (parse xml) := by
  rw [← Loop.result_start]
  exact Loop.exists_turns (Loop.atRest_start xml)

end ClickGen.Xml
