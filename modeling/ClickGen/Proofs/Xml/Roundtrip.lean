import ClickGen.Proofs.Xml.Attributes

/-!
Parsing undoes printing. The scan reads the text of an element as the events of the element, and
the builder attaches the element that its events describe, whatever is under construction around
it.
-/

namespace ClickGen.Xml

mutual

def events : Element → List Event
  | ⟨name, attributes, text, children⟩ =>
    .start (startTag name attributes) :: Scanner.textEvents (escape textName? text) ++
      eventsAll children ++ [.close name]

def eventsAll : List Element → List Event
  | [] => []
  | e :: rest => events e ++ eventsAll rest

end

lemma yields_printAll {es : List Element}
    (h : ∀ e ∈ es, ∀ opened, Scanner.Yields opened (print e) (events e) opened)
    (opened : List Text) : Scanner.Yields opened (printAll es) (eventsAll es) opened := by
  induction es with
  | nil => exact Scanner.Yields.nil opened
  | cons e rest ih =>
    have he := h e (by simp) opened
    have hrest := ih fun other hother => h other (by simp [hother])
    rw [printAll, eventsAll]
    exact he.append hrest

lemma yields_print {e : Element} (h : Printable e) (opened : List Text) :
    Scanner.Yields opened (print e) (events e) opened := by
  induction h generalizing opened with
  | @mk e hname hkeys _ _ ih =>
    obtain ⟨name, attributes, text, children⟩ := e
    have hchar : ∀ c ∈ name, c ≠ '>' ∧ isSpace c = false := fun c hc => by
      simp [of_isNameChar (isNameChar_of_mem hname c hc)]
    have hplain : ∀ c ∈ escape textName? text, c ≠ '<' ∧ isSpace c = false :=
      fun c hc => of_mem_escape_textName hc
    have hopening := Scanner.yields_start (isStart_startTag hname hkeys) hplain opened
    have hchildren := yields_printAll ih (name :: opened)
    have hclosing := Scanner.yields_end hchar opened
    rw [print, events]
    exact (hopening.append hchildren).append hclosing

/-! ### The builder -/

namespace Builder

lemma run_eq_close {b last : Builder} {marked : List (Nat × Event)}
    (h : (marked.map Prod.snd).foldlM step b = .ok last) (ending : Ending) :
    b.run marked ending = last.close ending := by
  induction marked generalizing b with
  | nil =>
    obtain rfl : b = last := Except.ok.inj h
    rfl
  | cons entry rest ih =>
    obtain ⟨position, e⟩ := entry
    rw [List.map_cons, List.foldlM_cons] at h
    rw [run]
    cases he : b.step e with
    | ok next =>
      rw [he] at h
      exact ih h
    | error fault =>
      rw [he] at h
      have hfault : Except.error fault = Except.ok last := h
      cases hfault

lemma foldlM_append {b next : Builder} {es : List Event} (h : es.foldlM step b = .ok next)
    (fs : List Event) : (es ++ fs).foldlM step b = fs.foldlM step next := by
  rw [List.foldlM_append, h]
  rfl

lemma step_start (b : Builder) (name : Text) {attributes : List (Text × Text)}
    (hk : ∀ entry ∈ attributes, isName entry.1) (hd : (attributes.map Prod.fst).Nodup) :
    b.step (.start (startTag name attributes)) =
      .ok { b with stack := ⟨name, attributes, [], []⟩ :: b.stack } := by
  rw [step, element_startTag name hk hd]
  rfl

lemma foldlM_textEvents (e : Element) (outer : List Element) (root : Option Element)
    (text : Text) :
    (Scanner.textEvents (escape textName? text)).foldlM step ⟨e :: outer, root⟩ =
      .ok ⟨e.addText text :: outer, root⟩ := by
  by_cases ht : escape textName? text = []
  · have htext : text = [] := by
      have hread := expand_escape isNaming_textName text
      rw [ht] at hread
      exact (Except.ok.inj hread).symm
    obtain ⟨name, attributes, before, children⟩ := e
    rw [Scanner.textEvents, if_pos ht, htext, Element.addText, List.append_nil]
    rfl
  · rw [Scanner.textEvents, if_neg ht, List.foldlM_cons, step,
      expand_escape isNaming_textName]
    rfl

lemma foldlM_eventsAll {es : List Element}
    (h : ∀ e ∈ es, ∀ b : Builder, (events e).foldlM step b = b.attach e)
    (parent : Element) (outer : List Element) (root : Option Element) :
    (eventsAll es).foldlM step ⟨parent :: outer, root⟩ =
      .ok ⟨{ parent with children := parent.children ++ es } :: outer, root⟩ := by
  induction es generalizing parent with
  | nil =>
    obtain ⟨name, attributes, text, children⟩ := parent
    rw [List.append_nil]
    rfl
  | cons e rest ih =>
    have he : (events e).foldlM step ⟨parent :: outer, root⟩ =
        .ok ⟨parent.addChild e :: outer, root⟩ := h e (by simp) ⟨parent :: outer, root⟩
    have hrest := ih (fun other hother => h other (by simp [hother])) (parent.addChild e)
    rw [eventsAll, foldlM_append he, hrest, Element.addChild, List.append_assoc,
      List.singleton_append]

lemma foldlM_events {e : Element} (h : Printable e) (b : Builder) :
    (events e).foldlM step b = b.attach e := by
  induction h generalizing b with
  | @mk e _ hkeys hdistinct _ ih =>
    obtain ⟨name, attributes, text, children⟩ := e
    obtain ⟨stack, root⟩ := b
    have hstart : ([.start (startTag name attributes)] : List Event).foldlM step ⟨stack, root⟩ =
        .ok ⟨⟨name, attributes, [], []⟩ :: stack, root⟩ := by
      rw [List.foldlM_cons, step_start _ name hkeys hdistinct]
      rfl
    have htext : (Scanner.textEvents (escape textName? text)).foldlM step
        ⟨⟨name, attributes, [], []⟩ :: stack, root⟩ =
          .ok ⟨⟨name, attributes, text, []⟩ :: stack, root⟩ := foldlM_textEvents _ stack root text
    have hchildren := foldlM_eventsAll ih ⟨name, attributes, text, []⟩ stack root
    have hparts : events ⟨name, attributes, text, children⟩ =
        [.start (startTag name attributes)] ++ (Scanner.textEvents (escape textName? text) ++
          (eventsAll children ++ [.close name])) := by
      simp [events]
    rw [hparts, foldlM_append hstart, foldlM_append htext, foldlM_append hchildren]
    exact bind_pure _

end Builder

/-- **Round trip**: the text of an element that can be printed is parsed as that element. -/
theorem parse_print {e : Element} (h : Printable e) : parse (print e) = .ok e := by
  obtain ⟨marked, position, hrun, hmarked⟩ := (yields_print h []).run_eq
  have hstream : Stream.ofText (print e) = ⟨marked, .finished position⟩ := by
    obtain ⟨name, attributes, text, children⟩ := e
    rw [print] at hrun ⊢
    exact hrun
  have hbuild : (marked.map Prod.snd).foldlM Builder.step {} = .ok ⟨[], some e⟩ := by
    rw [hmarked, Builder.foldlM_events h]
    rfl
  rw [parse, hstream, Stream.tree, Builder.run_eq_close hbuild]
  rfl

/-- Markup in a value, white space around a text, and the end of character data in a text. -/
def sample : Element :=
  ⟨"model".toList, [("name".toList, "\"a\" < 'b' & c".toList), ("kind".toList, " ".toList)],
    "\n two  lines\t".toList,
    [⟨"field".toList, [], [], [⟨"choice".toList, [], "]]>".toList, []⟩]⟩,
      ⟨"field".toList, [], "&amp;".toList, []⟩]⟩

theorem parse_print_sample : Printable sample ∧ parse (print sample) = .ok sample := by
  have leaf : ∀ e : Element, isName e.name → e.attributes = [] → e.children = [] → Printable e :=
    fun e hname ha hc => ⟨hname, by simp [ha], by simp [ha], by simp [hc]⟩
  have hchoice : Printable ⟨"choice".toList, [], "]]>".toList, []⟩ := leaf _ (by decide) rfl rfl
  have hfield : Printable ⟨"field".toList, [], [], [⟨"choice".toList, [], "]]>".toList, []⟩]⟩ :=
    ⟨by decide, by simp, by simp, by simpa using hchoice⟩
  have hlast : Printable ⟨"field".toList, [], "&amp;".toList, []⟩ := leaf _ (by decide) rfl rfl
  have hsample : Printable sample :=
    ⟨by decide, by decide, by decide, by simpa [sample] using ⟨hfield, hlast⟩⟩
  exact ⟨hsample, parse_print hsample⟩

example : print ⟨"a".toList, [("k".toList, "\"1\"".toList)], " b".toList, [⟨['c'], [], [], []⟩]⟩ =
    "<a k=\"&quot;1&quot;\">&#32;b<c></c></a>".toList := by
  rfl

end ClickGen.Xml
