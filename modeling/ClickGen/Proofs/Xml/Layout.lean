import ClickGen.Proofs.Xml.Nesting
import Mathlib.Logic.Relation

/-!
Layout between the tokens of a document: white space and comments, put in where a token ends or
begins, change nothing of the tree.

Two scans that differ in their positions only read the same events. White space and comments take a
scan that stands outside of markup back to such a place, with the comments as the only new events;
and a text at hand there is the same event with white space at its end and without.
-/

namespace ClickGen.Xml

structure Scanner.Alike (s s' : Scanner) : Prop where
  mode : s.mode = s'.mode
  openNames : s.openNames = s'.openNames

inductive Step.Alike : Step → Step → Prop where
  | going {next next' : Scanner} (h : next.Alike next') : Alike (.going next) (.going next')
  | event {next next' : Scanner} (e : Event) (h : next.Alike next') :
    Alike (.event e next) (.event e next')
  | fault (fault : Fault) (position position' : Nat) :
    Alike (.fault fault position) (.fault fault position')

namespace Scanner

section Steps

variable {s s' : Scanner} (h : s.openNames = s'.openNames)
include h

lemma emit_alike (e : Event) : (s.emit e).Alike (s'.emit e) := .event e ⟨rfl, h⟩

lemma endElement_alike (content : Text) : (s.endElement content).Alike (s'.endElement content) := by
  unfold endElement
  split
  · exact emit_alike h _
  · exact .event _ ⟨rfl, congrArg (_ :: ·) h⟩

lemma endClosing_alike (content : Text) : (s.endClosing content).Alike (s'.endClosing content) := by
  unfold endClosing
  rw [← h]
  cases s.openNames with
  | nil => exact .fault ..
  | cons expected outer =>
    simp only
    split_ifs
    · exact .event _ ⟨rfl, rfl⟩
    · exact .fault ..
    · exact .event _ ⟨rfl, rfl⟩
    · exact .fault ..

lemma endInstruction_alike (content : Text) :
    (s.endInstruction content).Alike (s'.endInstruction content) := by
  unfold endInstruction
  split
  · exact emit_alike h _
  · exact .fault ..

lemma endComment_alike (content : Text) : (s.endComment content).Alike (s'.endComment content) := by
  unfold endComment
  split
  · exact emit_alike h _
  · exact .fault ..

lemma endCData_alike (content : Text) : (s.endCData content).Alike (s'.endCData content) := by
  unfold endCData
  split_ifs
  · exact emit_alike h _
  · exact .fault ..

lemma endDoctype_alike (content : Text) : (s.endDoctype content).Alike (s'.endDoctype content) := by
  unfold endDoctype
  split_ifs
  · exact .fault ..
  · exact emit_alike h _
  · exact .fault ..

lemma stepElement_alike (raw : Text) (quote : Option Char) (c : Char) :
    (s.stepElement raw quote c).Alike (s'.stepElement raw quote c) := by
  unfold stepElement
  cases quote with
  | some q => exact .going ⟨rfl, h⟩
  | none =>
    simp only
    split_ifs
    · exact endElement_alike h _
    · exact .going ⟨rfl, h⟩
    · exact .going ⟨rfl, h⟩

end Steps

lemma Alike.step {s s' : Scanner} (h : s.Alike s') (c : Char) : (s.step c).Alike (s'.step c) := by
  obtain ⟨mode, offset, mark, markup, names⟩ := s
  obtain ⟨mode', offset', mark', markup', names'⟩ := s'
  obtain ⟨rfl, rfl⟩ : mode = mode' ∧ names = names' := ⟨h.mode, h.openNames⟩
  have going : ∀ (m : Mode) (offset offset' markup markup' : Nat),
      (Step.going ⟨m, offset, mark, markup, names⟩).Alike
        (.going ⟨m, offset', mark', markup', names⟩) := fun m _ _ _ _ => .going ⟨rfl, rfl⟩
  cases mode with
  | between =>
    simp only [Scanner.step]
    split_ifs <;> exact going ..
  | text raw =>
    simp only [Scanner.step]
    split_ifs
    · exact .event _ ⟨rfl, rfl⟩
    · exact going ..
  | opened =>
    simp only [Scanner.step]
    split_ifs
    · exact going ..
    · exact going ..
    · exact going ..
    · exact stepElement_alike (by rfl) _ _ _
  | element raw quote => exact stepElement_alike (by rfl) _ _ _
  | closing raw =>
    simp only [Scanner.step]
    split_ifs
    · exact endClosing_alike (by rfl) _
    · exact going ..
  | instruction raw =>
    simp only [Scanner.step]
    split_ifs
    · exact endInstruction_alike (by rfl) _
    · exact going ..
  | bang =>
    simp only [Scanner.step]
    split_ifs
    · exact going ..
    · exact going ..
    · exact going ..
    · exact .fault ..
  | comment raw =>
    simp only [Scanner.step]
    split
    · exact endComment_alike (by rfl) _
    · exact going ..
  | cdata raw =>
    simp only [Scanner.step]
    split
    · exact endCData_alike (by rfl) _
    · exact going ..
  | doctype raw depth =>
    simp only [Scanner.step]
    split_ifs
    · exact endDoctype_alike (by rfl) _
    · exact going ..
    · exact going ..
    · exact going ..

end Scanner

structure Stream.Holds (stream : Stream) (es : List Event) : Prop where
  finished : ∃ position, stream.ending = .finished position
  events : stream.events.map Prod.snd = es

namespace Scanner

lemma Alike.finish {s s' : Scanner} (h : s.Alike s') {es : List Event} (hs : s.finish.Holds es) :
    s'.finish.Holds es := by
  obtain ⟨mode, offset, mark, markup, names⟩ := s
  obtain ⟨mode', offset', mark', markup', names'⟩ := s'
  obtain ⟨rfl, rfl⟩ : mode = mode' ∧ names = names' := ⟨h.mode, h.openNames⟩
  obtain ⟨⟨position, hfinished⟩, rfl⟩ := hs
  have ended : ∀ {a b : Step}, a.Alike b →
      (finish.ended ⟨mode, offset, mark, markup, names⟩ a).ending = .finished position →
      (finish.ended ⟨mode, offset', mark', markup', names⟩ b).Holds
        ((finish.ended ⟨mode, offset, mark, markup, names⟩ a).events.map Prod.snd) := by
    intro a b hab ha
    cases hab with
    | going h => exact ⟨⟨_, rfl⟩, rfl⟩
    | event e h => exact ⟨⟨_, rfl⟩, rfl⟩
    | fault => cases ha
  cases mode with
  | between | opened | text => exact ⟨⟨_, rfl⟩, rfl⟩
  | closing raw => exact ended (endClosing_alike (by rfl) _) hfinished
  | instruction raw => exact ended (endInstruction_alike (by rfl) _) hfinished
  | element | bang | comment | cdata | doctype => cases hfinished

lemma Alike.run {s s' : Scanner} (h : s.Alike s') {v : Text} {es : List Event}
    (hs : (s.run v).Holds es) : (s'.run v).Holds es := by
  induction v generalizing s s' es with
  | nil => exact h.finish hs
  | cons c v ih =>
    rw [Scanner.run] at hs ⊢
    have hstep := h.step c
    generalize s.step c = a at hs hstep
    generalize s'.step c = b at hstep ⊢
    cases hstep with
    | going h => exact ih h hs
    | event e h =>
      obtain ⟨hfinished, rfl⟩ := hs
      have hrest := ih h ⟨hfinished, rfl⟩
      exact ⟨hrest.finished, congrArg (e :: ·) hrest.events⟩
    | fault =>
      obtain ⟨⟨position, hfinished⟩, -⟩ := hs
      cases hfinished

lemma holds_run_append {s s' : Scanner} {v : Text} {marked : List (Nat × Event)}
    (h : s.advance v = some (marked, s')) {rest : Text} {es : List Event} :
    (s.run (v ++ rest)).Holds es ↔
      ∃ more, (s'.run rest).Holds more ∧ es = marked.map Prod.snd ++ more := by
  rw [run_append h]
  constructor
  · rintro ⟨hfinished, rfl⟩
    exact ⟨_, ⟨hfinished, rfl⟩, List.map_append⟩
  · rintro ⟨more, ⟨hfinished, rfl⟩, rfl⟩
    exact ⟨hfinished, List.map_append⟩

end Scanner

lemma Scanner.holds_run_bracket {s : Scanner} (hs : s.IsOutside) {rest : Text} {es : List Event} :
    (s.run ('<' :: rest)).Holds es ↔
      ∃ more, (run ⟨.opened, 0, 0, 0, s.openNames⟩ rest).Holds more ∧ es = s.pending ++ more := by
  obtain ⟨texts, offset, mark, markup, hopened, htexts⟩ := advance_bracket hs
  have hplace : ∀ {a b c d e f : Nat}, Alike ⟨.opened, a, b, c, s.openNames⟩
      ⟨.opened, d, e, f, s.openNames⟩ := ⟨rfl, rfl⟩
  rw [← List.singleton_append, holds_run_append hopened, htexts]
  constructor
  · rintro ⟨more, hmore, rfl⟩
    exact ⟨more, hplace.run hmore, rfl⟩
  · rintro ⟨more, hmore, rfl⟩
    exact ⟨more, hplace.run hmore, rfl⟩

/-! ### White space and comments -/

def commentText (body : Text) : Text := "<!--" ++ body ++ "-->"

/-- White space and comments in any order. What is in a comment does not end it. -/
inductive IsLayout : Text → Prop where
  | nil : IsLayout []
  | space {c : Char} {gap : Text} (hc : isSpace c) (hgap : IsLayout gap) : IsLayout (c :: gap)
  | comment {body gap : Text} (hbody : ¬ "-->".toList <:+: body) (hgap : IsLayout gap) :
    IsLayout (commentText body ++ gap)

namespace Scanner

lemma step_comment {b : Text} {c : Char} (h : ¬ "-->".toList <:+: b ++ [c])
    (offset mark markup : Nat) (names : List Text) :
    step ⟨.comment (b.reverse ++ ['-', '-']), offset, mark, markup, names⟩ c =
      .going ⟨.comment (c :: (b.reverse ++ ['-', '-'])), offset + c.utf8Size, mark, markup,
        names⟩ := by
  simp only [step]
  split
  · next raw hraw =>
    -- the dashes that open a comment do not end it, so that those that do are in `b`
    exfalso
    apply h
    rcases hb : b.reverse with _ | ⟨d, _ | ⟨d', before⟩⟩
    · simp [hb] at hraw
    · simp [hb] at hraw
    · obtain ⟨rfl, rfl, -⟩ : d = '-' ∧ d' = '-' ∧ _ := by simpa [hb] using hraw
      have hb' : b = before.reverse ++ ['-', '-'] := by
        rw [← List.reverse_reverse b, hb]
        simp
      exact ⟨before.reverse, [], by simp [hb']⟩
  · rfl

lemma advance_comment (offset mark markup : Nat) (names : List Text) {b v : Text}
    (h : ¬ "-->".toList <:+: b ++ v) :
    advance ⟨.comment (b.reverse ++ ['-', '-']), offset, mark, markup, names⟩ v =
      some ([], ⟨.comment ((b ++ v).reverse ++ ['-', '-']), offset + Text.byteSize v, mark, markup,
        names⟩) := by
  induction v generalizing b offset with
  | nil => simp [advance]
  | cons c v ih =>
    have hfirst : ¬ "-->".toList <:+: b ++ [c] := fun hfound =>
      h (hfound.trans ⟨[], v, by simp⟩)
    have hrest := ih (offset + c.utf8Size) (b := b ++ [c]) (by simpa using h)
    rw [advance, step_comment hfirst]
    simpa [Nat.add_assoc] using hrest

lemma not_infix_dashes {body : Text} (h : ¬ "-->".toList <:+: body) :
    ¬ "-->".toList <:+: body ++ "--".toList := by
  have hdash : ∀ {s : Text}, ¬ "-->".toList <:+: s → ¬ "-->".toList <:+: s ++ ['-'] := by
    intro s hs hfound
    rw [List.infix_concat_iff] at hfound
    rcases hfound with ⟨front, hsuffix⟩ | hinside
    · have hlast := congrArg List.getLast? hsuffix
      simp at hlast
    · exact hs hinside
  have hboth := hdash (hdash h)
  rwa [List.append_assoc] at hboth

lemma step_commentEnd (body : Text) (offset mark markup : Nat) (names : List Text) :
    ∃ stop, step ⟨.comment ((body ++ "--".toList).reverse ++ ['-', '-']), offset, mark, markup,
        names⟩ '>' = .event .comment ⟨.between, stop, stop, markup, names⟩ := by
  obtain ⟨a, b, rest, hraw⟩ : ∃ a b rest, body.reverse ++ ['-', '-'] = a :: b :: rest := by
    rcases body.reverse with _ | ⟨a, _ | ⟨b, rest⟩⟩ <;> exact ⟨_, _, _, rfl⟩
  have hcontent : ('-' :: '-' :: a :: b :: rest).reverse = '-' :: '-' :: (body ++ ['-', '-']) := by
    rw [← hraw]
    simp
  have hmark : Text.after? "--" ('-' :: '-' :: (body ++ ['-', '-'])) =
      some (body ++ ['-', '-']) := by simp [Text.after?]
  have hall : (body ++ "--".toList).reverse ++ ['-', '-'] = '-' :: '-' :: a :: b :: rest := by
    rw [← hraw]
    simp
  refine ⟨offset + '>'.utf8Size, ?_⟩
  rw [hall]
  simp only [step, endComment, hcontent, hmark, emit]

lemma advance_commentText {s : Scanner} (hs : s.IsOutside) {body : Text}
    (h : ¬ "-->".toList <:+: body) :
    ∃ marked stop markup, s.advance (commentText body) =
        some (marked, ⟨.between, stop, stop, markup, s.openNames⟩) ∧
      marked.map Prod.snd = s.pending ++ [.comment] := by
  obtain ⟨marked, offset, mark, markup, hbracket, hmarked⟩ := advance_bracket hs
  obtain ⟨after, hopening⟩ : ∃ after, advance ⟨.opened, offset, mark, markup, s.openNames⟩
      "!--".toList = some ([], ⟨.comment ['-', '-'], after, mark, markup, s.openNames⟩) :=
    ⟨_, rfl⟩
  have hbody := advance_comment after mark markup s.openNames (b := []) (v := body ++ "--".toList)
    (not_infix_dashes h)
  rw [List.nil_append, List.reverse_nil, List.nil_append] at hbody
  obtain ⟨stop, hend⟩ := step_commentEnd body (after + Text.byteSize (body ++ "--".toList)) mark
    markup s.openNames
  have hparts : commentText body =
      ['<'] ++ ("!--".toList ++ ((body ++ "--".toList) ++ ['>'])) := by
    change "<!--".toList ++ body ++ "-->".toList = _
    simp
  refine ⟨marked ++ [(mark, .comment)], stop, markup, ?_, by simp [hmarked]⟩
  rw [hparts, advance_append hbracket, advance_append hopening, advance_append hbody, advance, hend]
  rfl

lemma pending_of_between {s : Scanner} (h : s.mode = .between) : s.pending = [] := by
  rw [pending, h]

lemma advance_space {s : Scanner} (hs : s.IsOutside) {c : Char} (hc : isSpace c) :
    ∃ s', s.advance [c] = some ([], s') ∧ s'.IsOutside ∧ s'.openNames = s.openNames ∧
      s'.pending = s.pending ∧ (s.mode = .between → s'.mode = .between) := by
  obtain ⟨mode, offset, mark, markup, names⟩ := s
  rcases hs with rfl | ⟨raw, rfl⟩
  · refine ⟨⟨.between, offset + c.utf8Size, mark, markup, names⟩, ?_, .inl rfl, rfl, rfl,
      fun _ => rfl⟩
    simp [advance, step, hc]
  · have hbracket : c ≠ '<' := by
      rintro rfl
      cases hc
    refine ⟨⟨.text (c :: raw), offset + c.utf8Size, mark, markup, names⟩, ?_, .inr ⟨_, rfl⟩, rfl,
      ?_, ?_⟩
    · simp [advance, step, hbracket]
    · simp [pending, Text.trimEnd, hc]
    · intro hmode
      cases hmode

lemma advance_layout {gap : Text} (hgap : IsLayout gap) {s : Scanner} (hs : s.IsOutside) :
    ∃ marked s' comments, s.advance gap = some (marked, s') ∧ s'.IsOutside ∧
      s'.openNames = s.openNames ∧ marked.map Prod.snd ++ s'.pending = s.pending ++ comments ∧
      (∀ e ∈ comments, e = .comment) ∧ (s.mode = .between → s'.mode = .between) := by
  induction hgap generalizing s with
  | nil => exact ⟨[], s, [], rfl, hs, rfl, by simp, by simp, id⟩
  | @space c gap hc _ ih =>
    obtain ⟨next, hspace, hnext, hnames, hpending, hbetween⟩ := advance_space hs hc
    obtain ⟨marked, s', comments, hadvance, hs', hnames', hevents, hcomments, hbetween'⟩ := ih hnext
    refine ⟨marked, s', comments, ?_, hs', hnames'.trans hnames, hpending ▸ hevents, hcomments,
      fun h => hbetween' (hbetween h)⟩
    rw [← List.singleton_append, advance_append hspace, hadvance]
    rfl
  | @comment body gap hbody _ ih =>
    obtain ⟨marked, stop, markup, hcomment, hmarked⟩ := advance_commentText hs hbody
    obtain ⟨more, s', comments, hadvance, hs', hnames', hevents, hcomments, hbetween'⟩ :=
      ih (s := ⟨.between, stop, stop, markup, s.openNames⟩) (.inl rfl)
    refine ⟨marked ++ more, s', .comment :: comments, ?_, hs', hnames', ?_,
      by simpa using hcomments, fun _ => hbetween' rfl⟩
    · rw [advance_append hcomment, hadvance]
      rfl
    · rw [List.map_append, List.append_assoc, hevents, hmarked]
      simp [pending]

end Scanner

/-! ### Between the tokens of a document -/

/-- Where the scan stands behind the first part of a document, unless it has met a fault. -/
def scanOf? (u : Text) : Option Scanner := (Scanner.advance {} (withoutMark u)).map Prod.snd

/-- The text ends in a `>`, and markup ends with it: the scan stands between markup again. -/
def EndsToken (u : Text) : Prop :=
  u.getLast? = some '>' ∧ ∃ s, scanOf? u = some s ∧ s.mode = .between

/-- What follows a text is a `<`, and markup begins with it: the scan stands outside of markup. -/
def BeginsToken (u v : Text) : Prop :=
  v.head? = some '<' ∧ ∃ s, scanOf? u = some s ∧ s.IsOutside

/-- One text is the other with layout put in where a token ends or begins. -/
inductive AddsLayout : Text → Text → Prop where
  | mk {u gap v : Text} (hplace : EndsToken u ∨ BeginsToken u v) (hgap : IsLayout gap) :
    AddsLayout (u ++ v) (u ++ gap ++ v)

namespace Builder

lemma foldlM_comments {es : List Event} (h : ∀ e ∈ es, e = .comment) (b : Builder) :
    es.foldlM step b = .ok b := by
  induction es with
  | nil => rfl
  | cons e es ih =>
    obtain ⟨rfl, hrest⟩ := List.forall_mem_cons.mp h
    exact ih hrest

lemma foldlM_insert {comments : List Event} (h : ∀ e ∈ comments, e = .comment)
    (before after : List Event) (b : Builder) :
    (before ++ comments ++ after).foldlM step b = (before ++ after).foldlM step b := by
  rw [List.foldlM_append, List.foldlM_append, List.foldlM_append]
  cases before.foldlM step b with
  | error fault => rfl
  | ok next => rw [ok_bind, ok_bind, foldlM_comments h, ok_bind]

end Builder

namespace Scanner

lemma run_layout {s : Scanner} {gap v : Text} {es : List Event} (hgap : IsLayout gap)
    (hplace : s.mode = .between ∨ s.IsOutside ∧ v.head? = some '<') (hs : (s.run v).Holds es) :
    ∃ before comments after, es = before ++ after ∧ (∀ e ∈ comments, e = .comment) ∧
      (s.run (gap ++ v)).Holds (before ++ comments ++ after) := by
  have houtside : s.IsOutside := hplace.elim .inl And.left
  obtain ⟨marked, s', comments, hadvance, hs', hnames, hevents, hcomments, hbetween⟩ :=
    advance_layout hgap houtside
  rcases hplace with hmode | ⟨-, hbracket⟩
  · have hmode' := hbetween hmode
    have halike : s.Alike s' := ⟨hmode.trans hmode'.symm, hnames.symm⟩
    rw [pending_of_between hmode, pending_of_between hmode', List.append_nil] at hevents
    exact ⟨[], comments, es, rfl, hcomments,
      (holds_run_append hadvance).mpr ⟨es, halike.run hs, by rw [hevents]⟩⟩
  -- Behind the layout as in front of it, the bracket ends the text at hand.
  · obtain ⟨rest, rfl⟩ := List.head?_eq_some_iff.mp hbracket
    obtain ⟨after, hafter, rfl⟩ := (holds_run_bracket houtside).mp hs
    refine ⟨s.pending, comments, after, rfl, hcomments, (holds_run_append hadvance).mpr
      ⟨s'.pending ++ after, (holds_run_bracket hs').mpr ⟨after, hnames ▸ hafter, rfl⟩, ?_⟩⟩
    rw [← List.append_assoc, hevents]

end Scanner

lemma tree_of_holds {stream : Stream} {es : List Event} {t : Element} (h : stream.Holds es) :
    stream.tree = .ok t ↔ es.foldlM Builder.step {} = .ok ⟨[], some t⟩ := by
  rw [Stream.tree, Builder.run_eq_ok, h.events]
  exact and_iff_right h.finished

lemma exists_holds {stream : Stream} {t : Element} (h : stream.tree = .ok t) :
    ∃ es, stream.Holds es :=
  ⟨_, (Builder.run_eq_ok.mp h).1, rfl⟩

lemma scanOf?_eq_some {u : Text} {s : Scanner} (h : scanOf? u = some s) :
    ∃ marked, Scanner.advance {} (withoutMark u) = some (marked, s) := by
  obtain ⟨⟨marked, s'⟩, hadvance, rfl⟩ := Option.map_eq_some_iff.mp h
  exact ⟨marked, hadvance⟩

/-- Before a token at the very beginning of a document there is no mark, and behind layout there
none is looked for. -/
lemma withoutMark_layout {u gap v : Text} (h : u ≠ [] ∨ v.head? = some '<') (hgap : IsLayout gap) :
    withoutMark (u ++ gap ++ v) = withoutMark u ++ (gap ++ v) := by
  by_cases hu : u = []
  · subst hu
    obtain ⟨rest, rfl⟩ := List.head?_eq_some_iff.mp (h.resolve_left (absurd rfl))
    cases hgap with
    | nil => rfl
    | @space c gap hc hgap =>
      refine withoutMark_of_ne ?_ (gap ++ '<' :: rest)
      rintro rfl
      cases hc
    | comment => rfl
  · rw [List.append_assoc, withoutMark_append hu]

/-- The tree is the same with layout where the scan stands between markup, or in front of a
token. -/
lemma tree_of_layout {u gap v : Text} {s : Scanner} (hs : scanOf? u = some s)
    (hplace : s.mode = .between ∨ s.IsOutside ∧ v.head? = some '<')
    (hmark : u ≠ [] ∨ v.head? = some '<') (hgap : IsLayout gap) {t : Element}
    (ht : (Stream.ofText (u ++ v)).tree = .ok t) :
    (Stream.ofText (u ++ gap ++ v)).tree = .ok t := by
  obtain ⟨marked, hadvance⟩ := scanOf?_eq_some hs
  obtain ⟨es, hes⟩ := exists_holds ht
  rw [tree_of_holds hes] at ht
  have hplain := withoutMark_layout hmark .nil
  rw [List.append_nil, List.nil_append] at hplain
  rw [ofText_eq, hplain, Scanner.holds_run_append hadvance] at hes
  obtain ⟨more, hmore, rfl⟩ := hes
  obtain ⟨before, comments, after, rfl, hcomments, hnew⟩ := Scanner.run_layout hgap hplace hmore
  have hwhole : (Stream.ofText (u ++ gap ++ v)).Holds
      (marked.map Prod.snd ++ before ++ comments ++ after) := by
    rw [ofText_eq, withoutMark_layout hmark hgap, Scanner.holds_run_append hadvance]
    exact ⟨_, hnew, by simp⟩
  rw [tree_of_holds hwhole, Builder.foldlM_insert hcomments, List.append_assoc]
  exact ht

lemma tree_of_addsLayout {d d' : Text} (h : AddsLayout d d') {t : Element}
    (ht : (Stream.ofText d).tree = .ok t) : (Stream.ofText d').tree = .ok t := by
  obtain ⟨⟨hlast, s, hs, hmode⟩ | ⟨hbracket, s, hs, houtside⟩, hgap⟩ := h
  · refine tree_of_layout hs (.inl hmode) (.inl ?_) hgap ht
    rintro rfl
    cases hlast
  · exact tree_of_layout hs (.inr ⟨houtside, hbracket⟩) (.inr hbracket) hgap ht

end ClickGen.Xml

namespace ClickGen.Model

open Xml

/-- **Layout does not count**: a document that can be read is read as the same tree, with the same
texts in it, when white space and comments are put in where its tokens end or begin, in any number
of places. -/
theorem readTree_layout {d d' label : Text} {t : Element} (hd : readTree d label = .ok t)
    (hlayout : Relation.ReflTransGen AddsLayout d d') : readTree d' label = .ok t := by
  induction hlayout with
  | refl => exact hd
  | tail _ hstep ih => exact readTree_eq_ok.mpr (tree_of_addsLayout hstep (readTree_eq_ok.mp ih))

/-- A comment behind a text, and a line end behind the root. The comment has dashes and a bracket in
it that do not end it. -/
theorem readTree_layout_sample :
    readTree "<a>x<b/></a>" "m" = .ok ⟨"a", [], "x", [⟨"b", [], [], []⟩]⟩ ∧
      Relation.ReflTransGen AddsLayout "<a>x<b/></a>" "<a>x <!--->--><b/></a>\n" ∧
      readTree "<a>x <!--->--><b/></a>\n" "m" = .ok ⟨"a", [], "x", [⟨"b", [], [], []⟩]⟩ := by
  have hd : readTree "<a>x<b/></a>" "m" = .ok ⟨"a", [], "x", [⟨"b", [], [], []⟩]⟩ := by
    decide +kernel
  have hcomment : IsLayout " <!--->-->" :=
    .space rfl (@IsLayout.comment "->".toList [] (by decide) .nil)
  have hfirst : AddsLayout "<a>x<b/></a>" "<a>x <!--->--><b/></a>" :=
    @AddsLayout.mk "<a>x".toList _ "<b/></a>".toList (.inr ⟨rfl, _, rfl, .inr ⟨_, rfl⟩⟩) hcomment
  have hlast : AddsLayout "<a>x <!--->--><b/></a>" "<a>x <!--->--><b/></a>\n" :=
    @AddsLayout.mk "<a>x <!--->--><b/></a>".toList ['\n'] [] (.inl ⟨rfl, _, rfl, rfl⟩)
      (.space rfl .nil)
  have hlayout := (Relation.ReflTransGen.single hfirst).tail hlast
  exact ⟨hd, hlayout, readTree_layout hd hlayout⟩

end ClickGen.Model
