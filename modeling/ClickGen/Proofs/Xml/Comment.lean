import ClickGen.Proofs.Element.Trimmed
import ClickGen.Proofs.Xml.Layout
import ClickGen.Proofs.Xml.References
import ClickGen.Proofs.Xml.Truncation

/-!
A comment put into a text of an element.

The comment makes two texts out of one, and each of them is trimmed. So the text of the element
loses the white space on both sides of the comment, unless there is nothing else up to the next
markup on one side; nothing else in the tree changes, and when no white space is lost, nothing at
all.
-/

namespace ClickGen.Xml

namespace Scanner

def held (s : Scanner) : Text :=
  match s.mode with
  | .text raw => raw.reverse
  | _ => []

/-- The white space around the place that the scan has come to, with `v` still to be read, when
there is text on both sides of it. -/
def seam (s : Scanner) (v : Text) : Text :=
  match s.mode with
  | .text raw =>
    let next := v.takeWhile (· != '<')
    if next.all isSpace then [] else raw.reverse.rtakeWhile isSpace ++ next.takeWhile isSpace
  | _ => []

lemma all_seam (s : Scanner) (v : Text) : (s.seam v).all isSpace := by
  unfold seam
  split
  · simp only
    split_ifs
    · rfl
    · rw [List.all_append, Bool.and_eq_true, List.all_eq_true]
      exact ⟨fun c hc => List.mem_rtakeWhile_imp hc, List.all_takeWhile⟩
  · rfl

/-- The scan stands in the text of an element, not inside of a reference. -/
structure IsInText (s : Scanner) : Prop where
  outside : s.IsOutside
  inside : s.openNames ≠ []
  reference : insideReference s.held = false

end Scanner

lemma ne_of_isSpace {c : Char} (h : isSpace c) : c ≠ '&' ∧ c ≠ ';' := by
  constructor <;> rintro rfl <;> cases h

lemma isBlank_of_isSpace {c : Char} (h : isSpace c) : Text.isBlank c := by
  simp only [isSpace, Bool.or_eq_true, beq_iff_eq] at h
  rcases h with ((rfl | rfl) | rfl) | rfl <;> rfl

namespace Scanner

lemma run_comment (offset mark markup : Nat) (names : List Text) {raw next rest body : Text}
    (hnext : '<' ∉ next) (hbody : ¬ "-->".toList <:+: body) {es : List Event}
    (h : (run ⟨.text raw, offset, mark, markup, names⟩ (next ++ '<' :: rest)).Holds es) :
    ∃ more, es = .text (Text.trimEnd isSpace (raw.reverse ++ next)) :: more ∧
      (run ⟨.text raw, offset, mark, markup, names⟩
          (commentText body ++ (next ++ '<' :: rest))).Holds
        (.text (Text.trimEnd isSpace raw.reverse) :: .comment ::
          (textEvents (Text.trim isSpace next) ++ more)) := by
  have hwhole := advance_text offset mark markup names raw hnext
  obtain ⟨more, hmore, rfl⟩ := (holds_run_append hwhole).mp h
  obtain ⟨after, hafter, rfl⟩ := (holds_run_bracket (.inr ⟨_, rfl⟩)).mp hmore
  refine ⟨after, by simp [pending], ?_⟩
  obtain ⟨marked, stop, markup', hcomment, hmarked⟩ := advance_commentText
    (s := ⟨.text raw, offset, mark, markup, names⟩) (.inr ⟨_, rfl⟩) hbody
  obtain ⟨s', hbehind, hs', hnames, hpending⟩ := advance_between hnext stop stop markup' names
  rw [holds_run_append hcomment, hmarked]
  refine ⟨textEvents (Text.trim isSpace next) ++ after, ?_, by simp [pending]⟩
  rw [holds_run_append hbehind]
  refine ⟨s'.pending ++ after, (holds_run_bracket hs').mpr ⟨after, ?_, rfl⟩, by simp [hpending]⟩
  rw [hnames]
  exact hafter

end Scanner

/-! ### The builder of both -/

namespace Builder

/-- Where the next child of the first of these elements will be, when each of them is in the next
one: which child of the root to take, and which child of that, and so on. -/
def path (outer : List Element) : List Nat := (outer.map fun e => e.children.length).reverse

/-- Two builders are the same but for one text, under construction or complete, where `gap` is
missing behind `before`. The path leads to the text once all is complete. -/
inductive LosesText (before gap : Text) : List Nat → Builder → Builder → Prop where
  | stack {after : Text} {place : List Nat} (inner outer : List Element) (root : Option Element)
    {e e' : Element} (h : e.LosesText before gap after place e') :
    LosesText before gap (path outer ++ place) ⟨inner ++ e :: outer, root⟩
      ⟨inner ++ e' :: outer, root⟩
  | root {after : Text} {place : List Nat} (stack : List Element) {e e' : Element}
    (h : e.LosesText before gap after place e') :
    LosesText before gap place ⟨stack, some e⟩ ⟨stack, some e'⟩

namespace LosesText

variable {before gap : Text} {place : List Nat} {b b' next : Builder}

lemma stack_eq_nil (h : LosesText before gap place b b') (hb : b.stack = []) : b'.stack = [] := by
  cases h with
  | stack inner outer root h => simp at hb
  | root stack h => exact hb

lemma push (h : LosesText before gap place b b') (e : Element) :
    LosesText before gap place ⟨e :: b.stack, b.root⟩ ⟨e :: b'.stack, b'.root⟩ := by
  cases h with
  | stack inner outer root h => exact .stack (e :: inner) outer root h
  | root stack h => exact .root (e :: stack) h

lemma attach (h : LosesText before gap place b b') {e : Element} (hb : b.attach e = .ok next) :
    ∃ next', b'.attach e = .ok next' ∧ LosesText before gap place next next' := by
  cases h with
  | stack inner outer root h =>
    cases inner with
    | nil =>
      cases hb
      exact ⟨_, rfl, .stack [] outer root (h.addChild e)⟩
    | cons parent inner =>
      cases hb
      exact ⟨_, rfl, .stack (parent.addChild e :: inner) outer root h⟩
  | root stack h =>
    cases stack with
    | nil => cases hb
    | cons parent outer =>
      cases hb
      exact ⟨_, rfl, .root (parent.addChild e :: outer) h⟩

lemma addText (h : LosesText before gap place b b') {text : Text} {e : Element}
    {outer : List Element} (hb : b.stack = e :: outer) : ∃ e' outer', b'.stack = e' :: outer' ∧
      LosesText before gap place ⟨e.addText text :: outer, b.root⟩
        ⟨e'.addText text :: outer', b'.root⟩ := by
  cases h with
  | stack inner outer root h =>
    cases inner with
    | nil =>
      cases hb
      obtain ⟨after', h'⟩ := h.addText text
      exact ⟨_, _, rfl, .stack [] outer root h'⟩
    | cons own inner =>
      cases hb
      exact ⟨_, _, rfl, .stack (_ :: inner) outer root h⟩
  | root stack h =>
    cases hb
    exact ⟨_, _, rfl, .root (e.addText text :: outer) h⟩

lemma close (h : LosesText before gap place b b') {name : Text}
    (hb : b.step (.close name) = .ok next) :
    ∃ next', b'.step (.close name) = .ok next' ∧ LosesText before gap place next next' := by
  cases h with
  | stack inner outer root h =>
    cases inner with
    | nil =>
      cases outer with
      | nil =>
        cases root with
        | none =>
          cases hb
          exact ⟨_, rfl, .root [] h⟩
        | some other => cases hb
      | cons parent outer =>
        cases hb
        rw [path, List.map_cons, List.reverse_cons, List.append_assoc]
        exact ⟨_, rfl, .stack [] outer root (h.child parent)⟩
    | cons e inner => exact (LosesText.stack inner outer root h).attach hb
  | root stack h =>
    cases stack with
    | nil => cases hb
    | cons e outer => exact (LosesText.root outer h).attach hb

lemma step (h : LosesText before gap place b b') {e : Event} (hb : b.step e = .ok next) :
    ∃ next', b'.step e = .ok next' ∧ LosesText before gap place next next' := by
  cases e with
  | start tag =>
    obtain ⟨element, he, hb⟩ := bind_eq_ok.mp hb
    cases hb
    exact ⟨_, bind_eq_ok.mpr ⟨element, he, rfl⟩, h.push element⟩
  | empty tag =>
    obtain ⟨element, he, hb⟩ := bind_eq_ok.mp hb
    obtain ⟨next', hnext, h'⟩ := h.attach hb
    exact ⟨next', bind_eq_ok.mpr ⟨element, he, hnext⟩, h'⟩
  | close name => exact h.close hb
  | text raw =>
    obtain ⟨text, htext, hb⟩ := bind_eq_ok.mp hb
    cases hstack : b.stack with
    | nil =>
      rw [hstack] at hb
      cases hb
    | cons e outer =>
      rw [hstack] at hb
      cases hb
      obtain ⟨e', outer', hstack', h'⟩ := h.addText hstack
      refine ⟨_, bind_eq_ok.mpr ⟨text, htext, ?_⟩, h'⟩
      rw [hstack']
      rfl
  | cdata raw =>
    cases hstack : b.stack with
    | nil =>
      obtain rfl : b = next := by simpa [Builder.step, hstack] using hb
      exact ⟨b', by rw [Builder.step, h.stack_eq_nil hstack], h⟩
    | cons e outer =>
      obtain rfl : ⟨e.addText raw :: outer, b.root⟩ = next := by
        simpa [Builder.step, hstack] using hb
      obtain ⟨e', outer', hstack', h'⟩ := h.addText hstack
      exact ⟨_, by rw [Builder.step, hstack'], h'⟩
  | comment | instruction | doctype =>
    cases hb
    exact ⟨b', rfl, h⟩

lemma foldlM (h : LosesText before gap place b b') {es : List Event} {last : Builder}
    (hb : es.foldlM Builder.step b = .ok last) :
    ∃ last', es.foldlM Builder.step b' = .ok last' ∧ LosesText before gap place last last' := by
  induction es generalizing b b' with
  | nil =>
    obtain rfl : b = last := Except.ok.inj hb
    exact ⟨b', rfl, h⟩
  | cons e es ih =>
    rw [List.foldlM_cons] at hb
    obtain ⟨next, hnext, hb⟩ := bind_eq_ok.mp hb
    obtain ⟨next', hnext', h'⟩ := h.step hnext
    obtain ⟨last', hlast, hrest⟩ := ih h' hb
    exact ⟨last', by rw [List.foldlM_cons, hnext', ok_bind, hlast], hrest⟩

lemma tree {t : Element} (h : LosesText before gap place ⟨[], some t⟩ b') :
    ∃ t' after, b' = ⟨[], some t'⟩ ∧ t.LosesText before gap after place t' := by
  generalize hb : (⟨[], some t⟩ : Builder) = b at h
  cases h with
  | stack inner outer root h => simp at hb
  | root stack h =>
    cases hb
    exact ⟨_, _, rfl, h⟩

end LosesText

lemma foldlM_parts {b : Builder} {first last gap : Text} {es : List Event} {t : Element}
    (hfirst : insideReference first = false) (hgap : gap.all isSpace)
    (h : (.text (first ++ gap ++ last) :: es).foldlM step b = .ok ⟨[], some t⟩) :
    ∃ t' e outer root after, b.step (.text first) = .ok ⟨e :: outer, root⟩ ∧
      (.text first :: .comment :: .text last :: es).foldlM step b = .ok ⟨[], some t'⟩ ∧
        t.LosesText e.text gap after (path outer) t' := by
  have hplain : ∀ c ∈ gap, c ≠ '&' ∧ c ≠ ';' := fun c hc =>
    ne_of_isSpace (List.all_eq_true.mp hgap c hc)
  rw [List.foldlM_cons] at h
  obtain ⟨next, hnext, h⟩ := bind_eq_ok.mp h
  obtain ⟨text, htext, hnext⟩ := bind_eq_ok.mp hnext
  obtain ⟨front, x, hfront, hlast, rfl⟩ := expand_append (mapError_eq_ok.mp htext)
    ((insideReference_append hplain).trans hfirst)
  obtain ⟨a, g, ha, hg, rfl⟩ := expand_append hfront hfirst
  obtain rfl : gap = g := Except.ok.inj
    ((expand_of_notMem fun hmem => (hplain _ hmem).1 rfl).symm.trans hg)
  obtain ⟨stack, root⟩ := b
  cases stack with
  | nil => cases hnext
  | cons e outer =>
    obtain rfl := Except.ok.inj hnext
    have hhere : Element.LosesText (e.text ++ a) gap x [] (e.addText (a ++ gap ++ x))
        ((e.addText a).addText x) := by
      have hwhole : Element.LosesText (e.text ++ a) gap x _ _ _ :=
        .here e.name e.attributes e.children
      simpa only [Element.addText, List.append_assoc] using hwhole
    have hstack := LosesText.stack [] outer root hhere
    rw [List.append_nil] at hstack
    obtain ⟨last', hfold, h'⟩ := hstack.foldlM h
    obtain ⟨t', after, rfl, ht'⟩ := h'.tree
    have hfirstStep : step ⟨e :: outer, root⟩ (.text first) = .ok ⟨e.addText a :: outer, root⟩ :=
      bind_eq_ok.mpr ⟨a, mapError_eq_ok.mpr ha, rfl⟩
    have hlastStep : step ⟨e.addText a :: outer, root⟩ (.text last) =
        .ok ⟨(e.addText a).addText x :: outer, root⟩ :=
      bind_eq_ok.mpr ⟨x, mapError_eq_ok.mpr hlast, rfl⟩
    refine ⟨t', e.addText a, outer, root, after, hfirstStep, ?_, ht'⟩
    rw [List.foldlM_cons, hfirstStep, ok_bind, List.foldlM_cons, step, ok_bind, List.foldlM_cons,
      hlastStep, ok_bind]
    exact hfold

end Builder

/-! ### Documents with a comment in a text -/

namespace Scanner

lemma takeWhile_next {next : Text} (h : '<' ∉ next) (rest : Text) :
    (next ++ '<' :: rest).takeWhile (· != '<') = next := by
  rw [List.takeWhile_append_of_pos fun c hc => by simpa using fun heq : c = '<' => h (heq ▸ hc)]
  simp

lemma bracket_mem {s : Scanner} {raw v : Text} (hmode : s.mode = .text raw) {es : List Event}
    (h : (s.run v).Holds es) {b : Builder} {t : Element}
    (hb : es.foldlM Builder.step b = .ok ⟨[], some t⟩) : '<' ∈ v := by
  by_contra hv
  obtain ⟨mode, offset, mark, markup, names⟩ := s
  obtain rfl : mode = .text raw := hmode
  have hread := advance_text offset mark markup names raw hv
  rw [← List.append_nil v, holds_run_append hread] at h
  obtain ⟨more, hmore, rfl⟩ := h
  obtain rfl := hmore.events
  obtain ⟨next, hstep, hnext⟩ := bind_eq_ok.mp hb
  obtain rfl := Except.ok.inj hnext
  exact Builder.not_step_text hstep

end Scanner

/-- The elements that are open behind the first part of a document, each of them in the next one,
with the texts and the children that they have by then. -/
def openElements (u : Text) : List Element :=
  match Scanner.advance {} (withoutMark u) with
  | none => []
  | some (marked, s) =>
    match (marked.map Prod.snd ++ s.pending).foldlM Builder.step {} with
    | .error _ => []
    | .ok b => b.stack

lemma openElements_eq {u : Text} {marked : List (Nat × Event)} {s : Scanner} {b : Builder}
    (h : Scanner.advance {} (withoutMark u) = some (marked, s))
    (hb : (marked.map Prod.snd ++ s.pending).foldlM Builder.step {} = .ok b) :
    openElements u = b.stack := by
  simp only [openElements, h, hb]

/-- The tree with a comment loses what the seam says, where the comment is. -/
lemma exists_tree_comment {u v body : Text} {s : Scanner} (hs : scanOf? u = some s)
    (htext : s.IsInText) (hbody : ¬ "-->".toList <:+: body) {t : Element}
    (ht : (Stream.ofText (u ++ v)).tree = .ok t) :
    ∃ t', (Stream.ofText (u ++ commentText body ++ v)).tree = .ok t' ∧
      (t' = t ∧ s.seam v = [] ∨ ∃ e outer after, openElements u = e :: outer ∧
        t.LosesText e.text (s.seam v) after (Builder.path outer) t') := by
  have hu : u ≠ [] := by
    rintro rfl
    obtain rfl : ({} : Scanner) = s := Option.some.inj hs
    exact htext.inside rfl
  rcases htext.outside with hmode | ⟨raw, hmode⟩
  · have hlayout := IsLayout.comment hbody .nil
    rw [List.append_nil] at hlayout
    have hseam : s.seam v = [] := by rw [Scanner.seam, hmode]
    exact ⟨t, tree_of_layout hs (.inl hmode) (.inl hu) hlayout ht, .inl ⟨rfl, hseam⟩⟩
  obtain ⟨marked, hadvance⟩ := scanOf?_eq_some hs
  obtain ⟨es, hes⟩ := exists_holds ht
  rw [tree_of_holds hes] at ht
  rw [ofText_append hu, Scanner.holds_run_append hadvance] at hes
  obtain ⟨more, hmore, rfl⟩ := hes
  rw [List.foldlM_append] at ht
  obtain ⟨b, hb, ht⟩ := bind_eq_ok.mp ht
  obtain ⟨next, rest, rfl, hnext⟩ := List.eq_append_cons_of_mem (Scanner.bracket_mem hmode hmore ht)
  obtain ⟨mode, offset, mark, markup, names⟩ := s
  obtain rfl : mode = .text raw := hmode
  obtain ⟨after, rfl, hcomment⟩ := Scanner.run_comment offset mark markup names hnext hbody hmore
  have hwhole : ∀ t', (.text (Text.trimEnd isSpace raw.reverse) :: .comment ::
        (Scanner.textEvents (Text.trim isSpace next) ++ after)).foldlM Builder.step b =
          .ok ⟨[], some t'⟩ →
      (Stream.ofText (u ++ commentText body ++ (next ++ '<' :: rest))).tree = .ok t' := by
    intro t' hfold
    have hstream : (Stream.ofText (u ++ commentText body ++ (next ++ '<' :: rest))).Holds
        (marked.map Prod.snd ++ (.text (Text.trimEnd isSpace raw.reverse) :: .comment ::
          (Scanner.textEvents (Text.trim isSpace next) ++ after))) := by
      rw [List.append_assoc, ofText_append hu, Scanner.holds_run_append hadvance]
      exact ⟨_, hcomment, rfl⟩
    rw [tree_of_holds hstream, List.foldlM_append, hb, ok_bind, hfold]
  rw [Scanner.seam, Scanner.takeWhile_next hnext]
  simp only
  split_ifs with hspace
  -- The text ends where the comment is put in: both sides of it are trimmed away as before.
  · rw [Text.trimEnd_append_of_all hspace] at ht
    refine ⟨t, hwhole t ?_, .inl ⟨rfl, rfl⟩⟩
    rw [Text.trim_eq_nil_iff.mpr hspace]
    exact ht
  · have hblank : ∀ c ∈ raw.reverse.rtakeWhile isSpace, c ≠ '&' ∧ c ≠ ';' := fun c hc =>
      ne_of_isSpace (List.mem_rtakeWhile_imp hc)
    have hfirst : insideReference (Text.trimEnd isSpace raw.reverse) = false := by
      rw [← insideReference_append hblank, Text.trimEnd_append_rtakeWhile]
      exact htext.reference
    have hparts : Text.trimEnd isSpace (raw.reverse ++ next) = Text.trimEnd isSpace raw.reverse ++
        (raw.reverse.rtakeWhile isSpace ++ next.takeWhile isSpace) ++ Text.trim isSpace next := by
      conv_lhs => rw [Text.trimEnd_append hspace, Text.trimEnd_eq_append hspace,
        ← Text.trimEnd_append_rtakeWhile (p := isSpace) (s := raw.reverse)]
      simp only [List.append_assoc]
    have hgap := Scanner.all_seam ⟨.text raw, offset, mark, markup, names⟩ (next ++ '<' :: rest)
    rw [Scanner.seam, Scanner.takeWhile_next hnext] at hgap
    simp only [if_neg hspace] at hgap
    rw [hparts] at ht
    obtain ⟨t', e, outer, root, after', hopen, hfold, hloses⟩ := Builder.foldlM_parts hfirst hgap ht
    have helements : openElements u = e :: outer := openElements_eq hadvance (by
      rw [List.foldlM_append, hb, ok_bind, Scanner.pending, List.foldlM_cons, hopen, ok_bind]
      rfl)
    refine ⟨t', hwhole t' ?_, .inr ⟨e, outer, after', helements, hloses⟩⟩
    rw [Scanner.textEvents, if_neg fun h => hspace (Text.trim_eq_nil_iff.mp h)]
    exact hfold

end ClickGen.Xml

namespace ClickGen.Model

open Xml

/-- **A comment in a text**: a document that can be read can be read with a comment in the text of
one of its elements, anywhere but inside of a reference. Nothing changes in the tree when there is
no white space next to the comment, or only white space up to the next markup on one side. Otherwise
names, attributes and children stay what they are, and so do all texts but that of the innermost
open element, where the white space on both sides of the comment is missing behind what the element
had for its text by then; and its content is still the same exactly when it has only blanks in front
of the comment, or behind it. -/
theorem readTree_comment {u v body label : Text} {t : Element} {s : Scanner}
    (hd : readTree (u ++ v) label = .ok t) (hs : scanOf? u = some s) (htext : s.IsInText)
    (hbody : ¬ "-->".toList <:+: body) :
    ∃ t', readTree (u ++ commentText body ++ v) label = .ok t' ∧ (s.seam v = [] → t' = t) ∧
      (s.seam v ≠ [] → ∃ e outer after, openElements u = e :: outer ∧
        t.LosesText e.text (s.seam v) after (Builder.path outer) t' ∧
        (t'.trimmed = t.trimmed ↔ e.text.all Text.isBlank ∨ after.all Text.isBlank)) := by
  obtain ⟨t', ht', hcases⟩ := exists_tree_comment hs htext hbody (readTree_eq_ok.mp hd)
  refine ⟨t', readTree_eq_ok.mpr ht', ?_, ?_⟩
  · intro hseam
    rcases hcases with ⟨hsame, -⟩ | ⟨e, outer, after, -, hloses⟩
    · exact hsame
    · rw [hseam] at hloses
      exact hloses.eq_of_nil
  · intro hseam
    rcases hcases with ⟨-, hnone⟩ | ⟨e, outer, after, hopen, hloses⟩
    · exact absurd hnone hseam
    · have hblank : (s.seam v).all Text.isBlank := by
        rw [List.all_eq_true]
        exact fun c hc => isBlank_of_isSpace (List.all_eq_true.mp (s.all_seam v) c hc)
      refine ⟨e, outer, after, hopen, hloses, ?_⟩
      rw [hloses.trimmed_eq_iff, Text.trimBlank, Text.trimBlank, Text.trim_append_eq_iff hblank,
        or_iff_right hseam]

/-- An element whose text has two spaces in the middle, behind another in a third. -/
def spaced : Element := ⟨"a", [], [], [⟨"c", [], [], []⟩, ⟨"b", [], "1 <  2", []⟩]⟩

/-- Where the scan stands between the two spaces, behind a reference. -/
def betweenSpaces : Scanner := ⟨.text " ;tl& 1".toList, 17, 10, 8, ["b", "a"]⟩

/-- A comment between the two spaces takes both away. -/
theorem readTree_comment_sample :
    readTree ("<a><c/><b>1 &lt; ".toList ++ " 2</b></a>".toList) "m" = .ok spaced ∧
      scanOf? "<a><c/><b>1 &lt; " = some betweenSpaces ∧ betweenSpaces.IsInText ∧
      ¬ "-->".toList <:+: "-".toList ∧
      ∃ t' after, readTree ("<a><c/><b>1 &lt; ".toList ++ commentText "-" ++ " 2</b></a>".toList)
          "m" = .ok t' ∧
        spaced.LosesText "1 <" "  " after [1] t' ∧
        (t'.trimmed = spaced.trimmed ↔ after.all Text.isBlank) := by
  have hd : readTree ("<a><c/><b>1 &lt; ".toList ++ " 2</b></a>".toList) "m" = .ok spaced := by
    decide +kernel
  have hs : scanOf? "<a><c/><b>1 &lt; " = some betweenSpaces := rfl
  have htext : betweenSpaces.IsInText := ⟨.inr ⟨_, rfl⟩, by simp [betweenSpaces], by decide⟩
  have hbody : ¬ "-->".toList <:+: "-".toList := by decide
  have hseam : betweenSpaces.seam " 2</b></a>" = "  ".toList := by decide
  have helements : openElements "<a><c/><b>1 &lt; " =
      [⟨"b", [], "1 <", []⟩, ⟨"a", [], [], [⟨"c", [], [], []⟩]⟩] := by decide +kernel
  obtain ⟨t', ht', -, hloses⟩ := readTree_comment hd hs htext hbody
  rw [hseam] at hloses
  obtain ⟨e, outer, after, hopen, hloses, htrimmed⟩ := hloses (by decide)
  obtain ⟨rfl, rfl⟩ := List.cons.inj (helements.symm.trans hopen)
  exact ⟨hd, hs, htext, hbody, t', after, ht', hloses, htrimmed.trans (or_iff_right (by decide))⟩

/-- A comment between two words takes the space between them away. -/
theorem not_forall_trimmed_eq_of_comment :
    ¬ ∀ (u v body label : Text) (t : Element) (s : Scanner), readTree (u ++ v) label = .ok t →
      scanOf? u = some s → s.IsInText → s.held ≠ [] → v.head? ≠ some '<' →
        ¬ "-->".toList <:+: body →
        ∃ t', readTree (u ++ commentText body ++ v) label = .ok t' ∧ t'.trimmed = t.trimmed := by
  intro h
  obtain ⟨t', ht', htrimmed⟩ := h "<a>x" " y</a>" "c" "m" ⟨"a", [], "x y", []⟩
    ⟨.text ['x'], 4, 3, 1, ["a"]⟩ (by decide +kernel) rfl
    ⟨.inr ⟨_, rfl⟩, by simp, by decide⟩ (by decide) (by decide) (by decide)
  have hread : readTree ("<a>x".toList ++ commentText "c" ++ " y</a>".toList) "m" =
      .ok ⟨"a", [], "xy", []⟩ := by decide +kernel
  obtain rfl := Except.ok.inj (hread.symm.trans ht')
  exact absurd htrimmed (by decide +kernel)

end ClickGen.Model
