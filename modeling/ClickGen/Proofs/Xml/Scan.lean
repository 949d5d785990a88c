import ClickGen.Proofs.Text.Trim
import ClickGen.Xml.Tree
import Mathlib.Data.List.Basic
import Mathlib.Tactic.Lemma

/-!
What a scan does with the beginning of a text, whatever follows it. `advance` reads a part of a
text; parts are then put together by the names that are open between them.
-/

namespace ClickGen.Xml

namespace Scanner

/-- The events that a text adds to the stream, and the scan after it; nothing at a fault. -/
def advance (s : Scanner) : Text → Option (List (Nat × Event) × Scanner)
  | [] => some ([], s)
  | c :: rest =>
    match s.step c with
    | .going next => next.advance rest
    | .event e next => (next.advance rest).map fun read => ((s.mark, e) :: read.1, read.2)
    | .fault .. => none

lemma run_append {s s' : Scanner} {v : Text} {marked : List (Nat × Event)}
    (h : s.advance v = some (marked, s')) (rest : Text) :
    s.run (v ++ rest) = ⟨marked ++ (s'.run rest).events, (s'.run rest).ending⟩ := by
  induction v generalizing s marked with
  | nil =>
    obtain ⟨rfl, rfl⟩ : [] = marked ∧ s = s' := by simpa [advance] using h
    rfl
  | cons c v ih =>
    rw [advance] at h
    rw [List.cons_append, run]
    cases hc : s.step c with
    | going next =>
      rw [hc] at h
      exact ih h
    | event e next =>
      rw [hc] at h
      obtain ⟨⟨more, last⟩, hmore, heq⟩ := Option.map_eq_some_iff.mp h
      obtain ⟨rfl, rfl⟩ : (s.mark, e) :: more = marked ∧ last = s' := by simpa using heq
      have hrest := ih hmore
      simp only [hrest, List.cons_append]
    | fault fault position => simp [hc] at h

lemma advance_append {s s' : Scanner} {v : Text} {marked : List (Nat × Event)}
    (h : s.advance v = some (marked, s')) (w : Text) :
    s.advance (v ++ w) = (s'.advance w).map fun read => (marked ++ read.1, read.2) := by
  induction v generalizing s marked with
  | nil =>
    obtain ⟨rfl, rfl⟩ : [] = marked ∧ s = s' := by simpa [advance] using h
    simp
  | cons c v ih =>
    rw [advance] at h
    rw [List.cons_append, advance]
    cases hc : s.step c with
    | going next =>
      rw [hc] at h
      exact ih h
    | event e next =>
      rw [hc] at h
      obtain ⟨⟨more, last⟩, hmore, heq⟩ := Option.map_eq_some_iff.mp h
      obtain ⟨rfl, rfl⟩ : (s.mark, e) :: more = marked ∧ last = s' := by simpa using heq
      have hrest := ih hmore
      simp [hrest, Function.comp_def]
    | fault fault position => simp [hc] at h

section Passing

variable (offset mark markup : Nat) (names : List Text)

/-- The quote that a tag is inside of after a character, unless the character ends the tag. -/
def quoteStep : Option Char → Char → Option (Option Char)
  | some q, c => some (if c = q then none else some q)
  | none, c =>
    if c = '>' then none else some (if c = '\'' ∨ c = '"' then some c else none)

lemma stepElement_going {quote next : Option Char} {c : Char} (h : quoteStep quote c = some next)
    (s : Scanner) (raw : Text) :
    s.stepElement raw quote c = .going { s with mode := .element (c :: raw) next } := by
  cases quote with
  | some q =>
    obtain rfl : (if c = q then none else some q) = next := by simpa [quoteStep] using h
    rfl
  | none =>
    by_cases hend : c = '>'
    · simp [quoteStep, hend] at h
    · obtain rfl : (if c = '\'' ∨ c = '"' then some c else none) = next := by
        simpa [quoteStep, hend] using h
      rw [stepElement]
      split_ifs <;> rfl

lemma advance_element (raw : Text) {v : Text} {quote last : Option Char}
    (h : v.foldlM quoteStep quote = some last) :
    advance ⟨.element raw quote, offset, mark, markup, names⟩ v =
      some ([], ⟨.element (v.reverse ++ raw) last, offset + Text.byteSize v, mark, markup,
        names⟩) := by
  induction v generalizing quote raw offset with
  | nil =>
    obtain rfl : quote = last := by simpa using h
    rfl
  | cons c v ih =>
    rw [List.foldlM_cons] at h
    obtain ⟨next, hnext, hv⟩ := Option.bind_eq_some_iff.mp h
    have hrest := ih (offset + c.utf8Size) (c :: raw) hv
    rw [advance]
    simpa [step, stepElement_going hnext, Nat.add_assoc] using hrest

lemma advance_text (raw : Text) {v : Text} (h : '<' ∉ v) :
    advance ⟨.text raw, offset, mark, markup, names⟩ v =
      some ([], ⟨.text (v.reverse ++ raw), offset + Text.byteSize v, mark, markup, names⟩) := by
  induction v generalizing raw offset with
  | nil => rfl
  | cons c v ih =>
    rw [List.mem_cons, not_or] at h
    have hc : c ≠ '<' := fun heq => h.1 heq.symm
    have hrest := ih (offset + c.utf8Size) (c :: raw) h.2
    rw [advance]
    simpa [step, hc, Nat.add_assoc] using hrest

lemma advance_closing (raw : Text) {v : Text} (h : '>' ∉ v) :
    advance ⟨.closing raw, offset, mark, markup, names⟩ v =
      some ([], ⟨.closing (v.reverse ++ raw), offset + Text.byteSize v, mark, markup, names⟩) := by
  induction v generalizing raw offset with
  | nil => rfl
  | cons c v ih =>
    rw [List.mem_cons, not_or] at h
    have hc : c ≠ '>' := fun heq => h.1 heq.symm
    have hrest := ih (offset + c.utf8Size) (c :: raw) h.2
    rw [advance]
    simpa [step, hc, Nat.add_assoc] using hrest

end Passing

/-! ### Outside markup -/

/-- The event that a `<` ends. -/
def pending (s : Scanner) : List Event :=
  match s.mode with
  | .text raw => [.text (Text.trimEnd isSpace raw.reverse)]
  | _ => []

def IsOutside (s : Scanner) : Prop := s.mode = .between ∨ ∃ raw, s.mode = .text raw

lemma advance_bracket {s : Scanner} (hs : s.IsOutside) :
    ∃ marked offset mark markup,
      s.advance ['<'] = some (marked, ⟨.opened, offset, mark, markup, s.openNames⟩) ∧
        marked.map Prod.snd = s.pending := by
  obtain ⟨mode, offset, mark, markup, names⟩ := s
  rcases hs with rfl | ⟨raw, rfl⟩
  · exact ⟨[], _, _, _, by simp [advance, step, isSpace]; exact ⟨rfl, rfl, rfl⟩, rfl⟩
  · exact ⟨_, _, _, _, by simp [advance, step]; exact ⟨rfl, rfl, rfl, rfl⟩, rfl⟩

/-- Reading `v` outside markup, inside the elements `opened`, adds the events `es` and leaves the
elements `left` open. The text at hand on either side counts as an event. -/
def Yields (opened : List Text) (v : Text) (es : List Event) (left : List Text) : Prop :=
  ∀ s : Scanner, s.IsOutside → s.openNames = opened →
    ∃ marked s', s.advance v = some (marked, s') ∧ s'.IsOutside ∧ s'.openNames = left ∧
      marked.map Prod.snd ++ s'.pending = s.pending ++ es

lemma Yields.nil (opened : List Text) : Yields opened [] [] opened := fun s hs hn =>
  ⟨[], s, rfl, hs, hn, by simp⟩

lemma Yields.append {opened between left : List Text} {v w : Text} {es fs : List Event}
    (hv : Yields opened v es between) (hw : Yields between w fs left) :
    Yields opened (v ++ w) (es ++ fs) left := by
  intro s hs hn
  obtain ⟨marked, s', hadvance, hs', hn', hes⟩ := hv s hs hn
  obtain ⟨more, s'', hadvance', hs'', hn'', hfs⟩ := hw s' hs' hn'
  refine ⟨marked ++ more, s'', ?_, hs'', hn'', ?_⟩
  · rw [advance_append hadvance, hadvance']
    rfl
  · rw [List.map_append, List.append_assoc, hfs, ← List.append_assoc, hes, List.append_assoc]

lemma Yields.run_eq {v : Text} {es : List Event} (h : Yields [] v es []) :
    ∃ marked position, run {} v = ⟨marked, .finished position⟩ ∧ marked.map Prod.snd = es := by
  obtain ⟨marked, ⟨mode, offset, mark, markup, names⟩, hadvance, hs, -, hes⟩ :=
    h {} (.inl rfl) rfl
  have hrun := run_append hadvance []
  rw [List.append_nil] at hrun
  rcases hs with rfl | ⟨raw, rfl⟩
  · exact ⟨marked, offset, by simpa [run, finish] using hrun, by simpa [pending] using hes⟩
  · exact ⟨marked ++ [(mark, .text (Text.trimEnd isSpace raw.reverse))], offset,
      by simpa [run, finish] using hrun, by simpa [pending] using hes⟩

structure IsStart (tag : Tag) : Prop where
  first : ∀ c ∈ (tag.name ++ tag.body).head?, c ≠ '!' ∧ c ≠ '/' ∧ c ≠ '?'
  last : (tag.name ++ tag.body).getLast? ≠ some '/'
  quotes : (tag.name ++ tag.body).foldlM quoteStep none = some none
  name : ∀ c ∈ tag.name, isSpace c = false
  body : ∀ c ∈ tag.body.head?, isSpace c = true

lemma IsStart.endElement {tag : Tag} (ht : IsStart tag) (s : Scanner) :
    s.endElement (tag.name ++ tag.body) =
      { s with openNames := tag.name :: s.openNames }.emit (.start tag) := by
  have hlast : ∀ back, (tag.name ++ tag.body).reverse ≠ '/' :: back := by
    intro back h
    have := ht.last
    rw [← List.head?_reverse, h] at this
    exact this rfl
  have hname : ∀ c ∈ tag.name, (!isSpace c) = true := fun c hc => by simp [ht.name c hc]
  have hbody : ∀ c ∈ tag.body.head?, (!isSpace c) = false := fun c hc => by simp [ht.body c hc]
  have htake : (tag.name ++ tag.body).takeWhile (!isSpace ·) = tag.name :=
    takeWhile_append_eq hname hbody
  have hdrop : (tag.name ++ tag.body).dropWhile (!isSpace ·) = tag.body :=
    dropWhile_append_eq hname hbody
  unfold Scanner.endElement
  split
  · next back h => exact absurd h (hlast back)
  · rw [htake, hdrop]

lemma stepElement_mode (s : Scanner) (m : Mode) (raw : Text) (quote : Option Char) (c : Char) :
    { s with mode := m }.stepElement raw quote c = s.stepElement raw quote c := by
  cases quote with
  | some q => rfl
  | none =>
    unfold stepElement Scanner.endElement
    split_ifs
    · split <;> rfl
    · rfl
    · rfl

lemma advance_start {tag : Tag} (ht : IsStart tag) (offset mark markup : Nat)
    (names : List Text) :
    ∃ stop, advance ⟨.opened, offset, mark, markup, names⟩ (tag.name ++ tag.body ++ ['>']) =
      some ([(mark, .start tag)], ⟨.between, stop, stop, markup, tag.name :: names⟩) := by
  -- The character after `<` is read like those behind it.
  have hopened : ∀ c rest, (c ≠ '!' ∧ c ≠ '/' ∧ c ≠ '?') →
      advance ⟨.opened, offset, mark, markup, names⟩ (c :: rest) =
        advance ⟨.element [] none, offset, mark, markup, names⟩ (c :: rest) := by
    intro c rest hc
    have hmode := stepElement_mode ⟨.opened, offset + c.utf8Size, mark, markup, names⟩
      (.element [] none) [] none c
    simp only [advance, step, hc, ite_false]
    rw [← hmode]
  have hinside := advance_element offset mark markup names [] ht.quotes
  have hbracket : advance ⟨.element ((tag.name ++ tag.body).reverse ++ []) none,
      offset + Text.byteSize (tag.name ++ tag.body), mark, markup, names⟩ ['>'] =
      some ([(mark, .start tag)], ⟨.between, offset + Text.byteSize (tag.name ++ tag.body) +
        '>'.utf8Size, offset + Text.byteSize (tag.name ++ tag.body) + '>'.utf8Size, markup,
        tag.name :: names⟩) := by
    simp [advance, step, stepElement, ht.endElement, emit]
  have hall : advance ⟨.opened, offset, mark, markup, names⟩ (tag.name ++ tag.body ++ ['>']) =
      advance ⟨.element [] none, offset, mark, markup, names⟩
        (tag.name ++ tag.body ++ ['>']) := by
    cases hc : tag.name ++ tag.body with
    | nil => exact hopened '>' [] (by decide)
    | cons c rest => exact hopened c (rest ++ ['>']) (ht.first c (by simp [hc]))
  rw [hall, advance_append hinside, hbracket]
  exact ⟨_, rfl⟩

/-- The event of a text between markup, unless it is empty. -/
def textEvents (text : Text) : List Event := if text = [] then [] else [.text text]

lemma advance_between {v : Text} (h : '<' ∉ v) (offset mark markup : Nat) (names : List Text) :
    ∃ s', advance ⟨.between, offset, mark, markup, names⟩ v = some ([], s') ∧ s'.IsOutside ∧
      s'.openNames = names ∧ s'.pending = textEvents (Text.trim isSpace v) := by
  induction v generalizing offset with
  | nil => exact ⟨_, rfl, .inl rfl, rfl, rfl⟩
  | cons c v ih =>
    rw [List.mem_cons, not_or] at h
    by_cases hc : isSpace c
    · obtain ⟨s', hadvance, hs'⟩ := ih h.2 (offset + c.utf8Size)
      have htrim : Text.trim isSpace (c :: v) = Text.trim isSpace v := by
        rw [Text.trim, Text.trim, Text.trimStart, List.dropWhile_cons_of_pos hc, Text.trimStart]
      refine ⟨s', ?_, htrim ▸ hs'⟩
      rw [advance]
      simpa [step, hc] using hadvance
    · have hbracket : c ≠ '<' := Ne.symm h.1
      have hread := advance_text (offset + c.utf8Size) mark markup names [c] h.2
      have hne : Text.trim isSpace (c :: v) ≠ [] := by
        rw [Ne, Text.trim_eq_nil_iff]
        simp [hc]
      refine ⟨⟨.text (v.reverse ++ [c]), offset + c.utf8Size + Text.byteSize v, mark, markup,
        names⟩, ?_, .inr ⟨_, rfl⟩, rfl, ?_⟩
      · rw [advance]
        simpa [step, hc, hbracket] using hread
      · rw [textEvents, if_neg hne, Text.trim, Text.trimStart, List.dropWhile_cons_of_neg hc]
        simp [pending]

lemma yields_start {tag : Tag} {text : Text} (ht : IsStart tag)
    (htext : ∀ c ∈ text, c ≠ '<' ∧ isSpace c = false) (opened : List Text) :
    Yields opened ('<' :: (tag.name ++ tag.body) ++ '>' :: text) (.start tag :: textEvents text)
      (tag.name :: opened) := by
  intro s hs hn
  obtain ⟨marked, offset, mark, markup, hbracket, hmarked⟩ := advance_bracket hs
  obtain ⟨stop, hstart⟩ := advance_start ht offset mark markup s.openNames
  obtain ⟨s', hbetween, hs', hn', hpending⟩ :=
    advance_between (fun hmem => (htext _ hmem).1 rfl) stop stop markup (tag.name :: s.openNames)
  refine ⟨marked ++ [(mark, .start tag)], s', ?_, hs', by rw [hn', hn], ?_⟩
  · have hparts : '<' :: (tag.name ++ tag.body) ++ '>' :: text =
        ['<'] ++ ((tag.name ++ tag.body ++ ['>']) ++ text) := by simp
    rw [hparts, advance_append hbracket, advance_append hstart, hbetween]
    simp
  · rw [Text.trim_eq_self fun c hc => (htext c hc).2] at hpending
    simp [hmarked, hpending]

lemma endClosing_open {name : Text} (hname : ∀ c ∈ name, isSpace c = false) {s : Scanner}
    {outer : List Text} (hs : s.openNames = name :: outer) :
    s.endClosing name = { s with openNames := outer }.emit (.close name) := by
  have htrim : (if name.all isSpace then name else Text.trimEnd isSpace name) = name := by
    rw [Text.trimEnd_eq_self hname, ite_self]
  simp only [endClosing, hs, htrim, ite_true]

lemma yields_end {name : Text} (hname : ∀ c ∈ name, c ≠ '>' ∧ isSpace c = false)
    (opened : List Text) :
    Yields (name :: opened) ('<' :: '/' :: (name ++ ['>'])) [.close name] opened := by
  intro s hs hn
  obtain ⟨marked, offset, mark, markup, hbracket, hmarked⟩ := advance_bracket hs
  rw [hn] at hbracket
  have hplain : '>' ∉ name := fun h => (hname '>' h).1 rfl
  have hslash : advance ⟨.opened, offset, mark, markup, name :: opened⟩ ['/'] =
      some ([], ⟨.closing [], offset + '/'.utf8Size, mark, markup, name :: opened⟩) := by
    simp [advance, step]
  have hread := advance_closing (offset + '/'.utf8Size) mark markup (name :: opened) [] hplain
  have hend : ∀ after, advance ⟨.closing (name.reverse ++ []), after, mark, markup,
      name :: opened⟩ ['>'] = some ([(mark, .close name)],
        ⟨.between, after + '>'.utf8Size, after + '>'.utf8Size, markup, opened⟩) := by
    intro after
    have hnames : openNames ⟨.closing (name.reverse ++ []), after + '>'.utf8Size, mark, markup,
      name :: opened⟩ = name :: opened := rfl
    have hclose := endClosing_open (fun c hc => (hname c hc).2) hnames
    simp only [advance, step, ite_true, List.append_nil, List.reverse_reverse] at hclose ⊢
    rw [hclose, emit]
    rfl
  have hparts : '<' :: '/' :: (name ++ ['>']) = ['<'] ++ (['/'] ++ (name ++ ['>'])) := rfl
  let stop := offset + '/'.utf8Size + Text.byteSize name + '>'.utf8Size
  refine ⟨marked ++ [(mark, .close name)], ⟨.between, stop, stop, markup, opened⟩, ?_, .inl rfl,
    rfl, ?_⟩
  · rw [hparts, advance_append hbracket, advance_append hslash, advance_append hread, hend]
    rfl
  · simp [hmarked, pending]

end Scanner

/-! ### The byte order mark -/

/-- The text without the byte order mark in front. -/
def withoutMark : Text → Text
  | '\uFEFF' :: rest => rest
  | xml => xml

lemma ofText_eq (xml : Text) : Stream.ofText xml = Scanner.run {} (withoutMark xml) := by
  unfold Stream.ofText
  split
  · rfl
  · next h => rw [withoutMark]; exact h

lemma withoutMark_of_ne {c : Char} (h : c ≠ '\uFEFF') (rest : Text) :
    withoutMark (c :: rest) = c :: rest := by
  unfold withoutMark
  split
  · next heq => exact absurd (List.cons.inj heq).1 h
  · rfl

lemma withoutMark_append {u : Text} (h : u ≠ []) (v : Text) :
    withoutMark (u ++ v) = withoutMark u ++ v := by
  obtain ⟨c, rest, rfl⟩ := List.exists_cons_of_ne_nil h
  by_cases hc : c = '\uFEFF'
  · subst hc
    rfl
  · rw [List.cons_append, withoutMark_of_ne hc, withoutMark_of_ne hc]
    rfl

lemma ofText_append {u : Text} (h : u ≠ []) (v : Text) :
    Stream.ofText (u ++ v) = Scanner.run {} (withoutMark u ++ v) := by
  rw [ofText_eq, withoutMark_append h]

end ClickGen.Xml
