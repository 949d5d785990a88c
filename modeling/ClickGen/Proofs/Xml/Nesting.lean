import ClickGen.Model
import ClickGen.Proofs.Xml.Building
import ClickGen.Proofs.Xml.Roundtrip

/-!
Which streams of events the builder takes, and what it builds from them. Leaving out what does not
count, a stream that is read to its end has to be one element: an empty tag, or a start tag, content
and an end tag, where content is texts, character data and elements. The tree is then the one that
reading the element by recursion gives.

One direction follows the builder over the events of an element. The other goes through what is
still to come inside some open elements, which is cut back into content from its end.
-/

namespace ClickGen.Xml

mutual

/-- An element in a stream: an empty tag, or content between a start tag and an end tag. -/
inductive Node where
  | empty (tag : Tag)
  | pair (tag : Tag) (content : Content) (close : Text)

inductive Content where
  | done
  | text (raw : Text) (rest : Content)
  | cdata (raw : Text) (rest : Content)
  | child (node : Node) (rest : Content)

end

mutual

def Node.events : Node → List Event
  | .empty tag => [.empty tag]
  | .pair tag content close => .start tag :: (content.events ++ [.close close])

def Content.events : Content → List Event
  | .done => []
  | .text raw rest => .text raw :: rest.events
  | .cdata raw rest => .cdata raw :: rest.events
  | .child node rest => node.events ++ rest.events

end

mutual

/-- The element: name and attributes from its tag, the rest from its content. -/
def Node.read : Node → Except Fault Element
  | .empty tag => do
    let attributes ← tag.attributes
    return ⟨tag.name, attributes, [], []⟩
  | .pair tag content _ => do
    let attributes ← tag.attributes
    let (text, children) ← content.read
    return ⟨tag.name, attributes, text, children⟩

/-- The text directly inside, with references replaced and character data as it stands, and the
children. -/
def Content.read : Content → Except Fault (Text × List Element)
  | .done => return ([], [])
  | .text raw rest => do
    let text ← (expand raw).mapError Fault.reference
    let (more, children) ← rest.read
    return (text ++ more, children)
  | .cdata raw rest => do
    let (more, children) ← rest.read
    return (raw ++ more, children)
  | .child node rest => do
    let e ← node.read
    let (text, children) ← rest.read
    return (text, e :: children)

end

/-! ### What counts -/

namespace Event

/-- How many elements are open after an event. -/
def depthAfter (depth : Nat) : Event → Nat
  | .start _ => depth + 1
  | .close _ => depth - 1
  | _ => depth

/-- Whether an event counts inside `depth` open elements. Character data outside of all elements
does not. -/
def counts (depth : Nat) : Event → Bool
  | .cdata _ => depth != 0
  | .comment | .instruction | .doctype => false
  | _ => true

/-- The attributes of the tag, or the references of the text, can be read. -/
def IsReadable : Event → Prop
  | .start tag | .empty tag => ∃ attributes, tag.attributes = .ok attributes
  | .text raw => ∃ text, expand raw = .ok text
  | _ => True

lemma isReadable_of_counts_eq_false {depth : Nat} {e : Event} (h : e.counts depth = false) :
    e.IsReadable := by
  cases e with
  | start | empty | close | text => cases h
  | cdata | comment | instruction | doctype => trivial

end Event

/-- The events that count, from inside `depth` open elements on. -/
def significant (depth : Nat) : List Event → List Event
  | [] => []
  | e :: rest =>
    if e.counts depth then e :: significant (e.depthAfter depth) rest
    else significant (e.depthAfter depth) rest

lemma isReadable_significant (depth : Nat) (es : List Event) :
    (∀ e ∈ significant depth es, e.IsReadable) ↔ ∀ e ∈ es, e.IsReadable := by
  induction es generalizing depth with
  | nil => rfl
  | cons e rest ih =>
    have hrest := ih (e.depthAfter depth)
    rw [significant, List.forall_mem_cons]
    cases hcounts : e.counts depth with
    | true => rw [if_pos rfl, List.forall_mem_cons, hrest]
    | false =>
      rw [if_neg Bool.false_ne_true, hrest]
      exact ⟨fun h => ⟨Event.isReadable_of_counts_eq_false hcounts, h⟩, fun h => h.2⟩

namespace Builder

lemma Attaches.length_eq {b next : Builder} {e : Element} (h : Attaches e b next) :
    next.stack.length = b.stack.length := by
  cases h <;> rfl

lemma step_length {b next : Builder} {e : Event} (h : b.step e = .ok next) :
    next.stack.length = e.depthAfter b.stack.length := by
  cases steps_of_ok h with
  | empty _ hattach => exact hattach.length_eq
  | close name hattach => exact hattach.length_eq
  | start | text | cdata | strayCData | comment | instruction | doctype => rfl

lemma step_of_counts_eq_false {b : Builder} {e : Event} (h : e.counts b.stack.length = false) :
    b.step e = .ok b := by
  obtain ⟨stack, root⟩ := b
  cases e with
  | cdata raw =>
    cases stack with
    | nil => rfl
    | cons element outer => simp [Event.counts] at h
  | comment | instruction | doctype => rfl
  | start | empty | close | text => cases h

lemma foldlM_significant (b : Builder) (es : List Event) :
    (significant b.stack.length es).foldlM step b = es.foldlM step b := by
  induction es generalizing b with
  | nil => rfl
  | cons e rest ih =>
    have hnext : ∀ next, b.step e = .ok next →
        (significant (e.depthAfter b.stack.length) rest).foldlM step next =
          rest.foldlM step next := fun next h => step_length h ▸ ih next
    rw [significant, List.foldlM_cons]
    cases hcounts : e.counts b.stack.length with
    | true =>
      rw [if_pos rfl, List.foldlM_cons]
      cases he : b.step e with
      | error fault => rfl
      | ok next => exact hnext next he
    | false =>
      have he := step_of_counts_eq_false hcounts
      rw [if_neg Bool.false_ne_true, hnext b he, he]
      rfl

mutual

lemma foldlM_node (b : Builder) :
    (node : Node) → node.events.foldlM step b = (do b.attach (← node.read))
  | .empty tag => by
    rw [Node.events, Node.read, List.foldlM_cons, step, Tag.element_eq]
    cases tag.attributes with
    | error fault => rfl
    | ok attributes => exact bind_pure _
  | .pair tag content close => by
    rw [Node.events, Node.read, List.foldlM_cons, step, Tag.element_eq]
    cases tag.attributes with
    | error fault => rfl
    | ok attributes =>
      have hcontent := foldlM_content ⟨tag.name, attributes, [], []⟩ b.stack b.root content
      simp only [ok_bind, pure_bind, List.foldlM_append, hcontent]
      cases content.read with
      | error fault => rfl
      | ok read => exact bind_pure (b.attach ⟨tag.name, attributes, read.1, read.2⟩)

lemma foldlM_content (e : Element) (outer : List Element) (root : Option Element) :
    (content : Content) → content.events.foldlM step ⟨e :: outer, root⟩ = (do
      let (text, children) ← content.read
      return ⟨⟨e.name, e.attributes, e.text ++ text, e.children ++ children⟩ :: outer, root⟩)
  | .done => by
    obtain ⟨name, attributes, text, children⟩ := e
    simp [Content.events, Content.read]
  | .text raw rest => by
    rw [Content.events, Content.read, List.foldlM_cons, step]
    cases (expand raw).mapError Fault.reference with
    | error fault => rfl
    | ok text =>
      have hrest := foldlM_content (e.addText text) outer root rest
      simp only [ok_bind, pure_bind, hrest]
      cases rest.read with
      | error fault => rfl
      | ok read => simp [Element.addText]
  | .cdata raw rest => by
    have hrest := foldlM_content (e.addText raw) outer root rest
    rw [Content.events, Content.read, List.foldlM_cons, step, ok_bind, hrest]
    cases rest.read with
    | error fault => rfl
    | ok read => simp [Element.addText]
  | .child node rest => by
    rw [Content.events, Content.read, List.foldlM_append, foldlM_node]
    cases node.read with
    | error fault => rfl
    | ok child =>
      have hrest := foldlM_content (e.addChild child) outer root rest
      simp only [ok_bind, attach, hrest]
      cases rest.read with
      | error fault => rfl
      | ok read => simp [Element.addChild]

end

end Builder

/-! ### What the builder takes is an element -/

/-- Events that are left inside `depth` open elements: the rest of the content of each and its end
tag, innermost first, and then the elements behind all of them. -/
inductive Closing : Nat → List Node → List Event → Prop where
  | outside (nodes : List Node) : Closing 0 nodes (nodes.flatMap Node.events)
  | inside {depth nodes es} (content : Content) (close : Text) (rest : Closing depth nodes es) :
    Closing (depth + 1) nodes (content.events ++ .close close :: es)

namespace Closing

/-- The elements behind all open ones, with one more in front when none is open. -/
def behind (depth : Nat) (node : Node) (nodes : List Node) : List Node :=
  if depth = 0 then node :: nodes else nodes

lemma length_behind (depth : Nat) (node : Node) (nodes : List Node) :
    (behind depth node nodes).length = (if depth = 0 then 1 else 0) + nodes.length := by
  unfold behind
  split_ifs
  · rw [List.length_cons, Nat.add_comm]
  · rw [Nat.zero_add]

variable {depth : Nat} {nodes : List Node} {es : List Event}

lemma node (node : Node) (h : Closing depth nodes es) :
    Closing depth (behind depth node nodes) (node.events ++ es) := by
  cases h with
  | outside nodes => exact .outside (node :: nodes)
  | inside content close rest =>
    rw [← List.append_assoc]
    exact .inside (.child node content) close rest

lemma start (tag : Tag) (h : Closing (depth + 1) nodes es) :
    ∃ node, Closing depth (behind depth node nodes) (.start tag :: es) := by
  cases h with
  | inside content close rest =>
    have hnode := rest.node (.pair tag content close)
    simp only [Node.events, List.cons_append, List.append_assoc, List.nil_append] at hnode
    exact ⟨_, hnode⟩

lemma close (name : Text) (h : Closing depth nodes es) :
    Closing (depth + 1) nodes (.close name :: es) := .inside .done name h

lemma text (raw : Text) (h : Closing (depth + 1) nodes es) :
    Closing (depth + 1) nodes (.text raw :: es) := by
  cases h with
  | inside content close rest => exact .inside (.text raw content) close rest

lemma cdata (raw : Text) (h : Closing (depth + 1) nodes es) :
    Closing (depth + 1) nodes (.cdata raw :: es) := by
  cases h with
  | inside content close rest => exact .inside (.cdata raw content) close rest

end Closing

namespace Builder

def roots (b : Builder) : Nat := b.root.toList.length + if b.stack = [] then 0 else 1

lemma Attaches.roots_eq {b next : Builder} {e : Element} (h : Attaches e b next) :
    next.roots = b.roots + if b.stack.length = 0 then 1 else 0 := by
  cases h <;> rfl

lemma closing_of_step {b next : Builder} {e : Event} {nodes : List Node} {es : List Event}
    (h : b.step e = .ok next) (hrest : Closing next.stack.length nodes es) :
    ∃ before, Closing b.stack.length before (if e.counts b.stack.length then e :: es else es) ∧
      next.roots + nodes.length = b.roots + before.length := by
  cases steps_of_ok h with
  | @start b tag =>
    obtain ⟨node, hnode⟩ := Closing.start tag hrest
    refine ⟨_, hnode, ?_⟩
    rw [Closing.length_behind]
    cases hstack : b.stack with
    | nil => simp [roots, hstack, Nat.add_assoc]
    | cons => simp [roots, hstack]
  | @empty b next tag _ _ hattach =>
    rw [hattach.length_eq] at hrest
    refine ⟨_, hrest.node (.empty tag), ?_⟩
    rw [hattach.roots_eq, Closing.length_behind, Nat.add_assoc]
  | @close name e outer root next hattach =>
    rw [hattach.length_eq] at hrest
    refine ⟨nodes, hrest.close name, ?_⟩
    rw [hattach.roots_eq]
    cases outer <;> simp [roots]
  | @text e outer root raw => exact ⟨nodes, Closing.text raw hrest, rfl⟩
  | cdata e outer root raw => exact ⟨nodes, Closing.cdata raw hrest, rfl⟩
  | strayCData | comment | instruction | doctype => exact ⟨nodes, hrest, rfl⟩

/-- What leads to a builder without open elements closes all those that were open. -/
lemma closing_of_foldlM {b last : Builder} {es : List Event}
    (h : es.foldlM step b = .ok last) (hlast : last.stack = []) :
    ∃ nodes, Closing b.stack.length nodes (significant b.stack.length es) ∧
      last.roots = b.roots + nodes.length := by
  induction es generalizing b with
  | nil =>
    obtain rfl : b = last := Except.ok.inj h
    rw [hlast]
    exact ⟨[], .outside [], rfl⟩
  | cons e rest ih =>
    rw [List.foldlM_cons] at h
    obtain ⟨next, he, hrest⟩ := bind_eq_ok.mp h
    obtain ⟨nodes, hclosing, hroots⟩ := ih hrest
    obtain ⟨before, hbefore, hcount⟩ := closing_of_step he hclosing
    rw [step_length he] at hbefore
    refine ⟨before, ?_, hroots.trans hcount⟩
    rw [significant]
    exact hbefore

lemma exists_node {t : Element} {es : List Event} (h : es.foldlM step {} = .ok ⟨[], some t⟩) :
    ∃ node : Node, significant 0 es = node.events := by
  obtain ⟨nodes, hclosing, hroots⟩ := closing_of_foldlM h rfl
  have hone : nodes.length = 1 := by simpa [roots] using hroots.symm
  obtain ⟨node, rfl⟩ := List.length_eq_one_iff.mp hone
  generalize hes : significant 0 es = left at hclosing
  cases hclosing with
  | outside => exact ⟨node, List.flatMap_singleton ..⟩

lemma foldlM_of_run {b : Builder} {marked : List (Nat × Event)} {ending : Ending} {t : Element}
    (h : b.run marked ending = .ok t) :
    ∃ last, (marked.map Prod.snd).foldlM step b = .ok last := by
  induction marked generalizing b with
  | nil => exact ⟨b, rfl⟩
  | cons entry rest ih =>
    obtain ⟨position, e⟩ := entry
    rw [run] at h
    rw [List.map_cons, List.foldlM_cons]
    cases he : b.step e with
    | ok next =>
      rw [he] at h
      exact ih h
    | error fault =>
      rw [he] at h
      cases h

lemma close_eq_ok {b : Builder} {ending : Ending} {t : Element} :
    b.close ending = .ok t ↔ (∃ position, ending = .finished position) ∧ b = ⟨[], some t⟩ := by
  obtain ⟨stack, root⟩ := b
  cases ending with
  | fault fault position => simp [close]
  | finished position => cases stack <;> cases root <;> simp [close]

lemma run_eq_ok {b : Builder} {marked : List (Nat × Event)} {ending : Ending} {t : Element} :
    b.run marked ending = .ok t ↔ (∃ position, ending = .finished position) ∧
      (marked.map Prod.snd).foldlM step b = .ok ⟨[], some t⟩ := by
  constructor
  · intro h
    obtain ⟨last, hlast⟩ := foldlM_of_run h
    rw [run_eq_close hlast, close_eq_ok] at h
    exact ⟨h.1, h.2 ▸ hlast⟩
  · rintro ⟨hending, hfold⟩
    rw [run_eq_close hfold, close_eq_ok]
    exact ⟨hending, rfl⟩

end Builder

mutual

lemma Node.read_eq_ok :
    (node : Node) → ((∃ t, node.read = .ok t) ↔ ∀ e ∈ node.events, e.IsReadable)
  | .empty tag => by
    rw [Node.read, Node.events, List.forall_mem_singleton]
    rw [exists_ok_bind fun _ => exists_ok_pure _, and_true]
    rfl
  | .pair tag content close => by
    have hcontent := Content.read_eq_ok content
    have hclose : (Event.close close).IsReadable := trivial
    rw [Node.read, Node.events, List.forall_mem_cons, List.forall_mem_append]
    rw [exists_ok_bind fun _ => exists_ok_bind fun _ => exists_ok_pure _]
    rw [hcontent, List.forall_mem_singleton, and_true, iff_true_intro hclose, and_true]
    rfl

lemma Content.read_eq_ok :
    (content : Content) → ((∃ read, content.read = .ok read) ↔
      ∀ e ∈ content.events, e.IsReadable)
  | .done => by
    rw [Content.read, Content.events, exists_ok_pure]
    simp
  | .text raw rest => by
    have hrest := Content.read_eq_ok rest
    rw [Content.read, Content.events, List.forall_mem_cons]
    rw [exists_ok_bind fun _ => exists_ok_bind fun _ => exists_ok_pure _]
    simp only [hrest, mapError_eq_ok, and_true]
    rfl
  | .cdata raw rest => by
    have hrest := Content.read_eq_ok rest
    have hraw : (Event.cdata raw).IsReadable := trivial
    rw [Content.read, Content.events, List.forall_mem_cons]
    rw [exists_ok_bind fun _ => exists_ok_pure _, hrest, and_true, iff_true_intro hraw, true_and]
  | .child node rest => by
    have hnode := Node.read_eq_ok node
    have hrest := Content.read_eq_ok rest
    rw [Content.read, Content.events, List.forall_mem_append]
    rw [exists_ok_bind fun _ => exists_ok_bind fun _ => exists_ok_pure _]
    rw [hnode, hrest, and_true]

end

/-! ### The streams that are accepted -/

namespace Stream

/-- The events of a stream that count. -/
def outline (stream : Stream) : List Event := significant 0 (stream.events.map Prod.snd)

/-- The text is read to its end, each tag and each text in it can be read, and what counts in it is
one element. -/
structure IsWellFormed (stream : Stream) : Prop where
  finished : ∃ position, stream.ending = .finished position
  readable : ∀ e ∈ stream.events.map Prod.snd, e.IsReadable
  balanced : ∃ node : Node, stream.outline = node.events

lemma tree_eq_ok {stream : Stream} {t : Element} :
    stream.tree = .ok t ↔ (∃ position, stream.ending = .finished position) ∧
      stream.outline.foldlM Builder.step {} = .ok ⟨[], some t⟩ := by
  have houtline := Builder.foldlM_significant {} (stream.events.map Prod.snd)
  rw [tree, Builder.run_eq_ok, ← houtline]
  rfl

lemma foldlM_outline {stream : Stream} {node : Node} (h : stream.outline = node.events)
    (t : Element) : stream.outline.foldlM Builder.step {} = .ok ⟨[], some t⟩ ↔
      node.read = .ok t := by
  rw [h, Builder.foldlM_node, bind_eq_ok]
  simp [Builder.attach]

lemma tree_eq_ok_iff {stream : Stream} {t : Element} :
    stream.tree = .ok t ↔ stream.IsWellFormed ∧
      ∃ node : Node, stream.outline = node.events ∧ node.read = .ok t := by
  rw [tree_eq_ok]
  constructor
  · rintro ⟨hfinished, hfold⟩
    have hevents := (Builder.foldlM_significant {} _).symm.trans hfold
    obtain ⟨node, hnode⟩ : ∃ node : Node, stream.outline = node.events :=
      Builder.exists_node hevents
    have hread := (foldlM_outline hnode t).mp hfold
    have hreadable := (Node.read_eq_ok node).mp ⟨t, hread⟩
    rw [← hnode, outline, isReadable_significant] at hreadable
    exact ⟨⟨hfinished, hreadable, node, hnode⟩, node, hnode, hread⟩
  · rintro ⟨hwell, node, hnode, hread⟩
    exact ⟨hwell.finished, (foldlM_outline hnode t).mpr hread⟩

lemma IsWellFormed.exists_tree {stream : Stream} (h : stream.IsWellFormed) :
    ∃ t, stream.tree = .ok t := by
  obtain ⟨node, hnode⟩ := h.balanced
  have hreadable := (isReadable_significant 0 _).mpr h.readable
  rw [← outline, hnode, ← Node.read_eq_ok] at hreadable
  obtain ⟨t, hread⟩ := hreadable
  exact ⟨t, tree_eq_ok_iff.mpr ⟨h, node, hnode, hread⟩⟩

end Stream

end ClickGen.Xml

namespace ClickGen.Model

lemma readTree_eq_ok {xml label : Text} {t : Element} :
    readTree xml label = .ok t ↔ (Xml.Stream.ofText xml).tree = .ok t := mapError_eq_ok

lemma exists_malformed {xml label : Text} (h : ¬∃ t, readTree xml label = .ok t) :
    ∃ message position,
      readTree xml label = .error (.malformed label message position (Text.byteSize xml)) := by
  cases hparse : Xml.parse xml with
  | ok t => exact absurd ⟨t, mapError_eq_ok.mpr hparse⟩ h
  | error m => exact ⟨m.fault.message, m.position, by rw [readTree, hparse]; rfl⟩

/-- **What is accepted**: a document is read exactly when its stream is well-formed, that is, read
to its end without a fault and, leaving out what does not count, one element. The tree is then
what reading that element gives. Every other document is malformed. -/
theorem readTree_accepts (xml label : Text) :
    ((∃ t, readTree xml label = .ok t) ↔ (Xml.Stream.ofText xml).IsWellFormed) ∧
      (∀ t, readTree xml label = .ok t ↔ (Xml.Stream.ofText xml).IsWellFormed ∧
        ∃ node : Xml.Node, (Xml.Stream.ofText xml).outline = node.events ∧ node.read = .ok t) ∧
      ((∃ message position,
          readTree xml label = .error (.malformed label message position (Text.byteSize xml))) ↔
        ¬(Xml.Stream.ofText xml).IsWellFormed) := by
  have hread : ∀ t, readTree xml label = .ok t ↔ (Xml.Stream.ofText xml).IsWellFormed ∧
      ∃ node : Xml.Node, (Xml.Stream.ofText xml).outline = node.events ∧ node.read = .ok t :=
    fun t => readTree_eq_ok.trans Xml.Stream.tree_eq_ok_iff
  have hok : (∃ t, readTree xml label = .ok t) ↔ (Xml.Stream.ofText xml).IsWellFormed := by
    constructor
    · rintro ⟨t, ht⟩
      exact ((hread t).mp ht).1
    · intro h
      obtain ⟨t, ht⟩ := h.exists_tree
      exact ⟨t, readTree_eq_ok.mpr ht⟩
  refine ⟨hok, hread, ?_⟩
  rw [← hok]
  constructor
  · rintro ⟨message, position, herror⟩ ⟨t, ht⟩
    cases herror.symm.trans ht
  · exact exists_malformed

end ClickGen.Model
