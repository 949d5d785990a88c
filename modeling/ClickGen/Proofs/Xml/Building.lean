import ClickGen.Proofs.Xml.Keys
import ClickGen.Xml.Tree

/-!
What an event does to a builder that takes it. Each case has all that the event asks for and all
that becomes of the builder.
-/

namespace ClickGen.Xml.Builder

/-- Where a complete element goes: into the innermost open one, or in the place of the root, which
must be free. -/
inductive Attaches (e : Element) : Builder → Builder → Prop where
  | inside (parent : Element) (outer : List Element) (root : Option Element) :
    Attaches e ⟨parent :: outer, root⟩ ⟨parent.addChild e :: outer, root⟩
  | root : Attaches e ⟨[], none⟩ ⟨[], some e⟩

inductive Steps : Builder → Event → Builder → Prop where
  | start (b : Builder) {tag : Tag} {attributes : List (Text × Text)}
      (h : tag.attributes = .ok attributes) :
    Steps b (.start tag) ⟨⟨tag.name, attributes, [], []⟩ :: b.stack, b.root⟩
  | empty {b next : Builder} {tag : Tag} {attributes : List (Text × Text)}
      (h : tag.attributes = .ok attributes)
      (hattach : Attaches ⟨tag.name, attributes, [], []⟩ b next) : Steps b (.empty tag) next
  | close (name : Text) {e : Element} {outer : List Element} {root : Option Element}
      {next : Builder} (hattach : Attaches e ⟨outer, root⟩ next) :
    Steps ⟨e :: outer, root⟩ (.close name) next
  | text (e : Element) (outer : List Element) (root : Option Element) {raw text : Text}
      (h : expand raw = .ok text) :
    Steps ⟨e :: outer, root⟩ (.text raw) ⟨e.addText text :: outer, root⟩
  | cdata (e : Element) (outer : List Element) (root : Option Element) (raw : Text) :
    Steps ⟨e :: outer, root⟩ (.cdata raw) ⟨e.addText raw :: outer, root⟩
  | strayCData (root : Option Element) (raw : Text) : Steps ⟨[], root⟩ (.cdata raw) ⟨[], root⟩
  | comment (b : Builder) : Steps b .comment b
  | instruction (b : Builder) : Steps b .instruction b
  | doctype (b : Builder) : Steps b .doctype b

lemma attaches_of_ok {b next : Builder} {e : Element} (h : b.attach e = .ok next) :
    Attaches e b next := by
  obtain ⟨stack, root⟩ := b
  cases stack with
  | cons parent outer =>
    cases h
    exact .inside parent outer root
  | nil =>
    cases root with
    | none =>
      cases h
      exact .root
    | some other => cases h

lemma steps_of_ok {b next : Builder} {e : Event} (h : b.step e = .ok next) : Steps b e next := by
  obtain ⟨stack, root⟩ := b
  cases e with
  | start tag =>
    rw [step, Tag.element_eq] at h
    obtain ⟨element, hread, h⟩ := bind_eq_ok.mp h
    obtain ⟨attributes, hattributes, helement⟩ := bind_eq_ok.mp hread
    cases helement
    cases h
    exact .start _ hattributes
  | empty tag =>
    rw [step, Tag.element_eq] at h
    obtain ⟨element, hread, h⟩ := bind_eq_ok.mp h
    obtain ⟨attributes, hattributes, helement⟩ := bind_eq_ok.mp hread
    cases helement
    exact .empty hattributes (attaches_of_ok h)
  | close name =>
    cases stack with
    | nil => cases h
    | cons e outer => exact .close name (attaches_of_ok h)
  | text raw =>
    obtain ⟨text, htext, h⟩ := bind_eq_ok.mp h
    cases stack with
    | nil => cases h
    | cons e outer =>
      cases h
      exact .text e outer root (mapError_eq_ok.mp htext)
  | cdata raw =>
    cases stack with
    | nil =>
      cases h
      exact .strayCData root raw
    | cons e outer =>
      cases h
      exact .cdata e outer root raw
  | comment =>
    cases h
    exact .comment _
  | instruction =>
    cases h
    exact .instruction _
  | doctype =>
    cases h
    exact .doctype _

end ClickGen.Xml.Builder
