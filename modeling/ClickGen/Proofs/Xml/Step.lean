import ClickGen.Xml.Event
import Mathlib.Data.List.Basic
import Mathlib.Tactic.Lemma

/-!
What one character does to a scan, whatever kind of markup it stands in.

A step goes on inside of what it reads, ends a text in front of a bracket, ends the markup at hand,
or refuses a character. What holds at every place of a scan is read off these four cases.
-/

namespace ClickGen.Xml

/-- The event leads from inside the open elements `opened` to inside `left`, both innermost
first. -/
def Event.Leads (opened : List Text) (e : Event) (left : List Text) : Prop :=
  match e with
  | .start tag => left = tag.name :: opened
  | .close name => opened = name :: left
  | .empty _ | .text _ | .cdata _ | .comment | .instruction | .doctype => left = opened

/-- A fault that the reader finds, before an event is made. -/
def Fault.IsReaders : Fault → Prop
  | .unfinished _ | .unknownBang _ | .emptyDoctype | .mismatchedEnd .. => True
  | .attribute _ | .reference _ | .strayText | .strayEnd _ | .secondRoot _ | .unclosed _
  | .noRoot => False

/-- The bytes that a reader gives back: a bracket taken ahead of its markup, or the content of
markup that it refuses. -/
def Mode.unread : Mode → Nat
  | .opened => 1
  | .closing raw | .instruction raw => 1 + Text.byteSize raw
  | .between | .text _ | .element .. | .bang | .comment _ | .cdata _ | .doctype .. => 0

namespace Scanner

/-- The markup at hand ends with the last character that is read: as an event, or at a fault. -/
inductive Ends (s : Scanner) : Step → Prop where
  | event {e : Event} {left : List Text} (h : e.Leads s.openNames left) :
    Ends s (.event e { s with mode := .between, mark := s.offset, openNames := left })
  | fault {fault : Fault} {position : Nat} (hfault : fault.IsReaders)
      (hposition : position ≤ s.offset) : Ends s (.fault fault position)

lemma ends_endElement (s : Scanner) (content : Text) : s.Ends (s.endElement content) := by
  unfold endElement
  split
  · exact .event rfl
  · exact .event rfl

lemma ends_endClosing (s : Scanner) (content : Text) : s.Ends (s.endClosing content) := by
  have hposition : endClosing.position s content ≤ s.offset := Nat.sub_le _ _
  unfold endClosing
  cases hnames : s.openNames with
  | nil => exact .fault trivial hposition
  | cons expected outer =>
    simp only
    split_ifs with hspace hname hname
    · exact .event (hnames.trans (hname ▸ rfl))
    · exact .fault trivial hposition
    · exact .event (hnames.trans (hname ▸ rfl))
    · exact .fault trivial hposition

lemma ends_endInstruction (s : Scanner) (content : Text) : s.Ends (s.endInstruction content) := by
  unfold endInstruction
  split
  · exact .event rfl
  · exact .fault trivial (Nat.sub_le _ _)

lemma ends_endComment (s : Scanner) (content : Text) : s.Ends (s.endComment content) := by
  unfold endComment
  split
  · exact .event rfl
  · exact .fault trivial (Nat.le_refl _)

lemma ends_endCData (s : Scanner) (content : Text) : s.Ends (s.endCData content) := by
  unfold endCData
  split_ifs
  · exact .event rfl
  · exact .fault trivial (Nat.le_refl _)

lemma ends_endDoctype (s : Scanner) (content : Text) : s.Ends (s.endDoctype content) := by
  unfold endDoctype
  split_ifs
  · exact .fault trivial (Nat.le_refl _)
  · exact .event rfl
  · exact .fault trivial (Nat.le_refl _)

/-- What a step can do. Nowhere does it give back more than it has read. -/
inductive Takes (s : Scanner) (c : Char) : Step → Prop where
  | going {mode : Mode} {markup : Nat} (hmode : mode.unread ≤ s.mode.unread + c.utf8Size)
      (hmarkup : markup = s.markup ∨ markup = s.offset + c.utf8Size) :
    Takes s c (.going ⟨mode, s.offset + c.utf8Size, s.mark, markup, s.openNames⟩)
  | text {raw : Text} (hmode : s.mode = .text raw) (hc : c = '<') :
    Takes s c (.event (.text (Text.trimEnd isSpace raw.reverse))
      ⟨.opened, s.offset + c.utf8Size, s.offset, s.offset + c.utf8Size, s.openNames⟩)
  | ends {step : Step} (h : { s with offset := s.offset + c.utf8Size }.Ends step) : Takes s c step
  | refused {fault : Fault} (hfault : fault.IsReaders) : Takes s c (.fault fault s.markup)

lemma takes_stepElement (s : Scanner) (raw : Text) (quote : Option Char) (c : Char) :
    s.Takes c ({ s with offset := s.offset + c.utf8Size }.stepElement raw quote c) := by
  have going (quote : Option Char) : s.Takes c (.going ⟨.element (c :: raw) quote,
      s.offset + c.utf8Size, s.mark, s.markup, s.openNames⟩) := .going (Nat.zero_le _) (.inl rfl)
  unfold stepElement
  cases quote with
  | some q => exact going _
  | none =>
    simp only
    split_ifs
    · exact .ends (ends_endElement _ _)
    · exact going _
    · exact going _

lemma takes_step (s : Scanner) (c : Char) : s.Takes c (s.step c) := by
  obtain ⟨mode, offset, mark, markup, names⟩ := s
  have going {m m' : Mode} (h : m'.unread ≤ m.unread + c.utf8Size) :
      Takes ⟨m, offset, mark, markup, names⟩ c
        (.going ⟨m', offset + c.utf8Size, mark, markup, names⟩) := .going h (.inl rfl)
  have hpos : 1 ≤ c.utf8Size := Char.utf8Size_pos c
  cases mode with
  | between =>
    simp only [step]
    split_ifs
    · exact going (Nat.zero_le _)
    · exact .going (Nat.le_add_left_of_le hpos) (.inr rfl)
    · exact going (Nat.zero_le _)
  | text raw =>
    simp only [step]
    split_ifs with hc
    · exact .text rfl hc
    · exact going (Nat.zero_le _)
  | opened =>
    simp only [step]
    split_ifs
    · exact going (Nat.zero_le _)
    · exact going (by simp [Mode.unread])
    · exact going (by simp [Mode.unread])
    · exact takes_stepElement _ _ _ _
  | element raw quote => exact takes_stepElement _ _ _ _
  | closing raw =>
    simp only [step]
    split_ifs
    · exact .ends (ends_endClosing _ _)
    · exact going (by simp [Mode.unread]; omega)
  | instruction raw =>
    simp only [step]
    split_ifs
    · exact .ends (ends_endInstruction _ _)
    · exact going (by simp [Mode.unread]; omega)
  | bang =>
    simp only [step]
    split_ifs
    · exact going (Nat.zero_le _)
    · exact going (Nat.zero_le _)
    · exact going (Nat.zero_le _)
    · exact .refused trivial
  | comment raw =>
    simp only [step]
    split
    · exact .ends (ends_endComment _ _)
    · exact going (Nat.zero_le _)
  | cdata raw =>
    simp only [step]
    split
    · exact .ends (ends_endCData _ _)
    · exact going (Nat.zero_le _)
  | doctype raw depth =>
    simp only [step]
    split_ifs
    · exact .ends (ends_endDoctype _ _)
    · exact going (Nat.zero_le _)
    · exact going (Nat.zero_le _)
    · exact going (Nat.zero_le _)

lemma Takes.of_going {s next : Scanner} {c : Char} (h : s.Takes c (.going next)) :
    next.offset = s.offset + c.utf8Size ∧ next.mark = s.mark ∧ next.openNames = s.openNames := by
  cases h with
  | going => exact ⟨rfl, rfl, rfl⟩
  | ends hends => cases hends

end Scanner

end ClickGen.Xml
