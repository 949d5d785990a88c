import ClickGen.Proofs.Element.Preorder
import ClickGen.Proofs.Xml.Nesting
import ClickGen.Proofs.Xml.Spelling
import Mathlib.Data.List.Forall2

/-!
The elements of a tree against the tags of the text that it was read from. In document order there
are as many of one as of the other, and each element has the name and the attributes of its tag.

The attributes are put into an element one after the other, by a setting that changes a key where it
is already there. No tag that can be read has a key twice, so that each attribute is put at the end
and none is changed.
-/

namespace ClickGen.Xml

/-- The tag that an event opens an element with. -/
def Event.tag? : Event → Option Tag
  | .start tag | .empty tag => some tag
  | .close _ | .text _ | .cdata _ | .comment | .instruction | .doctype => none

def openingTags (es : List Event) : List Tag := es.filterMap Event.tag?

structure OpenedBy (e : Element) (tag : Tag) : Prop where
  name : e.name = tag.name
  spelled : Spells tag.body e.attributes
  read : tag.attributes = .ok e.attributes

lemma openingTags_cons (e : Event) (es : List Event) :
    openingTags (e :: es) = e.tag?.toList ++ openingTags es := by
  cases h : e.tag? <;> simp [openingTags, h]

lemma openingTags_append (es es' : List Event) :
    openingTags (es ++ es') = openingTags es ++ openingTags es' := List.filterMap_append

lemma openingTags_pair (tag : Tag) (content : Content) (close : Text) :
    openingTags (Node.pair tag content close).events = tag :: openingTags content.events := by
  have hclose : openingTags [.close close] = [] := rfl
  rw [Node.events, openingTags_cons, openingTags_append, hclose, List.append_nil]
  rfl

lemma tag?_of_counts_eq_false {depth : Nat} {e : Event} (h : e.counts depth = false) :
    e.tag? = none := by
  cases e with
  | start | empty | close | text => cases h
  | cdata | comment | instruction | doctype => rfl

lemma openingTags_significant (depth : Nat) (es : List Event) :
    openingTags (significant depth es) = openingTags es := by
  induction es generalizing depth with
  | nil => rfl
  | cons e rest ih =>
    rw [significant, openingTags_cons]
    cases hcounts : e.counts depth with
    | true => rw [if_pos rfl, openingTags_cons, ih]
    | false =>
      rw [if_neg Bool.false_ne_true, ih, tag?_of_counts_eq_false hcounts]
      rfl

lemma openedBy_of_attributes {tag : Tag} {attributes : List (Text × Text)}
    (h : tag.attributes = .ok attributes) (text : Text) (children : List Element) :
    OpenedBy ⟨tag.name, attributes, text, children⟩ tag :=
  ⟨rfl, (Tag.attributes_eq_ok_iff.mp h).1, h⟩

mutual

lemma Node.openedBy {t : Element} : (node : Node) → node.read = .ok t →
    List.Forall₂ OpenedBy t.preorder (openingTags node.events)
  | .empty tag => by
    intro h
    obtain ⟨attributes, hread, h⟩ := bind_eq_ok.mp h
    cases h
    exact .cons (openedBy_of_attributes hread [] []) .nil
  | .pair tag content close => by
    intro h
    obtain ⟨attributes, hread, h⟩ := bind_eq_ok.mp h
    obtain ⟨⟨text, children⟩, hcontent, h⟩ := bind_eq_ok.mp h
    cases h
    rw [openingTags_pair]
    exact .cons (openedBy_of_attributes hread text children) (Content.openedBy content hcontent)

lemma Content.openedBy {text : Text} {children : List Element} : (content : Content) →
    content.read = .ok (text, children) →
      List.Forall₂ OpenedBy (Element.preorderAll children) (openingTags content.events)
  | .done => by
    intro h
    cases h
    exact .nil
  | .text raw rest => by
    intro h
    obtain ⟨expanded, -, h⟩ := bind_eq_ok.mp h
    obtain ⟨⟨more, children⟩, hrest, h⟩ := bind_eq_ok.mp h
    cases h
    exact Content.openedBy rest hrest
  | .cdata raw rest => by
    intro h
    obtain ⟨⟨more, children⟩, hrest, h⟩ := bind_eq_ok.mp h
    cases h
    exact Content.openedBy rest hrest
  | .child node rest => by
    intro h
    obtain ⟨e, hnode, h⟩ := bind_eq_ok.mp h
    obtain ⟨⟨text, children⟩, hrest, h⟩ := bind_eq_ok.mp h
    cases h
    rw [Content.events, openingTags_append]
    exact List.rel_append (Node.openedBy node hnode) (Content.openedBy rest hrest)

end

/-- The tags of a stream that open elements, in document order. -/
def Stream.tags (stream : Stream) : List Tag := openingTags (stream.events.map Prod.snd)

lemma Stream.openedBy {stream : Stream} {t : Element} (h : stream.tree = .ok t) :
    List.Forall₂ OpenedBy t.preorder stream.tags := by
  obtain ⟨-, node, hnode, hread⟩ := Stream.tree_eq_ok_iff.mp h
  have htags : stream.tags = openingTags node.events := by
    rw [← hnode, Stream.outline, openingTags_significant, Stream.tags]
  rw [htags]
  exact Node.openedBy node hread

lemma OpenedBy.built {e : Element} {tag : Tag} (h : OpenedBy e tag) :
    Element.Built e.attributes e := by
  obtain ⟨name, attributes, text, children⟩ := e
  exact Element.built_of_nodup name text children (Tag.attributes_nodup h.read)

end ClickGen.Xml

namespace ClickGen.Model

open Xml

/-- **Attributes are an ordered map.** However an element is put together, its keys are distinct and
in the order in which they were first set, and each has the value that it was given last. A tree
that is read has the elements of the tags in its text, in document order, each with exactly the
attributes of its tag, and so no key was there already when it was set. -/
theorem attributes_ordered :
    (∀ settings e, Element.Built settings e → Element.IsOrderedMap settings e) ∧
      ∀ xml label t, readTree xml label = .ok t →
        List.Forall₂ OpenedBy t.preorder (Stream.ofText xml).tags ∧
          ∀ e, Element.IsIn e t → Element.IsOrderedMap e.attributes e := by
  refine ⟨fun settings e h => h.isOrderedMap, fun xml label t h => ?_⟩
  have hopened := Stream.openedBy (readTree_eq_ok.mp h)
  refine ⟨hopened, fun e he => ?_⟩
  have hboth := hopened.imp fun e tag h => And.intro h.built h
  have hbuilt := ((List.forall₂_and_left _ _).mp hboth).1 e he.mem_preorder
  exact hbuilt.isOrderedMap

/-- A key that is set again stays in front. In a text, quotes of both kinds and a reference. -/
theorem attributes_ordered_nested :
    (Element.Built [("a", "1"), ("b", "2"), ("a", "3")] ⟨"e", [("a", "3"), ("b", "2")], [], []⟩ ∧
      Element.IsOrderedMap [("a", "1"), ("b", "2"), ("a", "3")]
        ⟨"e", [("a", "3"), ("b", "2")], [], []⟩) ∧
      ∃ t : Element, readTree "<m z=\"1\" a='&lt;'><n k = \"2\"/></m>" "m" = .ok t ∧
        List.Forall₂ OpenedBy t.preorder [⟨"m", " z=\"1\" a='&lt;'"⟩, ⟨"n", " k = \"2\""⟩] ∧
        ∀ e, Element.IsIn e t → Element.IsOrderedMap e.attributes e := by
  obtain ⟨hbuilt, hread⟩ := attributes_ordered
  have hset : Element.Built [("a", "1"), ("b", "2"), ("a", "3")]
      ⟨"e", [("a", "3"), ("b", "2")], [], []⟩ :=
    (((Element.Built.new "e").setting "a" "1").setting "b" "2").setting "a" "3"
  have htree : readTree "<m z=\"1\" a='&lt;'><n k = \"2\"/></m>" "m" =
      .ok ⟨"m", [("z", "1"), ("a", "<")], [], [⟨"n", [("k", "2")], [], []⟩]⟩ := by decide +kernel
  obtain ⟨hopened, hordered⟩ := hread _ _ _ htree
  have htags : (Stream.ofText "<m z=\"1\" a='&lt;'><n k = \"2\"/></m>").tags =
      [⟨"m", " z=\"1\" a='&lt;'"⟩, ⟨"n", " k = \"2\""⟩] := by decide +kernel
  rw [htags] at hopened
  exact ⟨⟨hset, hbuilt _ _ hset⟩, _, htree, hopened, hordered⟩

end ClickGen.Model
