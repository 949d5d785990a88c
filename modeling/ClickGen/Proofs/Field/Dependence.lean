import ClickGen.Field.Decorator
import ClickGen.Proofs.Element.Assign
import Mathlib.Data.List.Perm.Basic
import Mathlib.Logic.Relation
import Mathlib.Tactic.Lemma

/-!
What the option of a field depends on.

A field is read for its name, for the type among its attributes and for six children that declare
its properties, of which the first one of each name counts, in capitals or not. Main statement:
whatever else is in the field's element can be put in, changed or taken out again, and the children
can be put in another order as long as no property is declared twice; the options stay the same to
the letter.
-/

namespace ClickGen

namespace Element

lemma lookup_insert_of_ne {key other : Text} (h : other ≠ key) (value : Text)
    (before after : List (Text × Text)) :
    (before ++ (key, value) :: after).lookup other = (before ++ after).lookup other := by
  have hne : (other == key) = false := by simpa using h
  induction before with
  | nil => rw [List.nil_append, List.nil_append, List.lookup_cons, hne]
  | cons entry before ih =>
    obtain ⟨own, old⟩ := entry
    rw [List.cons_append, List.cons_append, List.lookup_cons, List.lookup_cons, ih]

end Element

lemma find?_eq_of_perm {α : Type*} {p : α → Bool} {l l' : List α} (h : l.Perm l')
    (hunique : (l.filter p).length ≤ 1) :
    l'.find? p = l.find? p := by
  have hfilter : (l.filter p).Perm (l'.filter p) := h.filter p
  rw [← List.head?_filter, ← List.head?_filter]
  cases hkept : l.filter p with
  | nil =>
    rw [hkept] at hfilter
    rw [hfilter.nil_eq]
  | cons e rest =>
    obtain rfl : rest = [] := by
      rw [hkept, List.length_cons] at hunique
      exact List.length_eq_zero_iff.mp (by omega)
    rw [hkept] at hfilter
    rw [List.singleton_perm.mp hfilter]

namespace Field

def propertyNames : List Text :=
  ["default", "Required", "Multiple", "MinimumValue", "MaximumValue", "OptionValues"]

/-- The child has the name, whatever the case of its letters. -/
def isNamed (name : Text) (child : Element) : Bool := Text.eqIgnoreCase child.name name

lemma child?_eq_find? (e : Element) (name : Text) :
    e.child? name = e.children.find? (isNamed name) := rfl

/-- A change to the element of a field that says nothing new about the field. -/
inductive Edit : Element → Element → Prop where
  /-- One more child at any place, with anything in it, that declares no property. -/
  | insertChild (name : Text) (attributes : List (Text × Text)) (text : Text)
      (before after : List Element) (child : Element)
      (h : ∀ property ∈ propertyNames, ¬ isNamed property child) :
    Edit ⟨name, attributes, text, before ++ after⟩
      ⟨name, attributes, text, before ++ child :: after⟩
  /-- An attribute that is not the type gets a value, whether it was there before or not. -/
  | setAttribute (e : Element) (key value : Text) (h : key ≠ "type".toList) :
    Edit e (e.setAttribute key value)
  /-- One more attribute at any place that is not the type. -/
  | insertAttribute (name : Text) (before after : List (Text × Text)) (key value text : Text)
      (children : List Element) (h : key ≠ "type".toList) :
    Edit ⟨name, before ++ after, text, children⟩
      ⟨name, before ++ (key, value) :: after, text, children⟩
  | setText (e : Element) (text : Text) : Edit e { e with text := text }
  /-- The children in another order, where none of the properties is declared twice. -/
  | reorder (e : Element) (children : List Element) (h : e.children.Perm children)
      (hunique : ∀ property ∈ propertyNames, (e.children.filter (isNamed property)).length ≤ 1) :
    Edit e { e with children := children }

/-- The elements agree in all that a field is read for. -/
structure Agrees (e e' : Element) : Prop where
  name : e'.name = e.name
  fieldType? : e'.fieldType? = e.fieldType?
  child? : ∀ property ∈ propertyNames, e'.child? property = e.child? property

variable {e e' : Element}

lemma Agrees.textOf? (h : Agrees e e') {property : Text} (hp : property ∈ propertyNames) :
    Props.textOf? e' property = Props.textOf? e property := by
  rw [Props.textOf?, Props.textOf?, h.child? property hp]

lemma Agrees.saysYes (h : Agrees e e') {property : Text} (hp : property ∈ propertyNames) :
    Props.saysYes e' property = Props.saysYes e property := by
  rw [Props.saysYes, Props.saysYes, h.textOf? hp]

lemma Agrees.ofElement_eq (h : Agrees e e') : ofElement e' = ofElement e := by
  have hprops : Props.ofElement e' = Props.ofElement e := by
    rw [Props.ofElement, Props.ofElement, h.fieldType?, h.textOf? (by decide),
      h.saysYes (by decide), h.saysYes (by decide), h.textOf? (by decide), h.textOf? (by decide),
      h.child? _ (by decide)]
  rw [ofElement, ofElement, h.name, h.fieldType?, hprops]

lemma Edit.agrees (h : Edit e e') : Agrees e e' := by
  cases h with
  | insertChild name attributes text before after child h =>
    refine ⟨rfl, rfl, fun property hp => ?_⟩
    rw [child?_eq_find?, child?_eq_find?, List.find?_append, List.find?_append,
      List.find?_cons_of_neg (h property hp)]
  | setAttribute _ key value h =>
    have hassign := Element.lookup_assign key value e.attributes "type"
    exact ⟨rfl, hassign.trans (if_neg h.symm), fun _ _ => rfl⟩
  | insertAttribute name before after key value text children h =>
    exact ⟨rfl, Element.lookup_insert_of_ne h.symm value before after, fun _ _ => rfl⟩
  | setText _ text => exact ⟨rfl, rfl, fun _ _ => rfl⟩
  | reorder _ children h hunique =>
    exact ⟨rfl, rfl, fun property hp => find?_eq_of_perm h (hunique property hp)⟩

/-- **Options depend on nothing else.** After any number of edits, made or taken back, the options
of a field for both purposes are the same to the letter. -/
theorem code?_eq_of_edits (h : Relation.EqvGen Edit e e') (purpose : Purpose) :
    (ofElement e').code? purpose = (ofElement e).code? purpose := by
  induction h with
  | rel _ _ h => rw [h.agrees.ofElement_eq]
  | refl => rfl
  | symm _ _ _ ih => exact ih.symm
  | trans _ _ _ _ _ ihfirst ihsecond => exact ihsecond.trans ihfirst

/-- A field with a default that must be given. -/
def plainPort : Element :=
  ⟨"port", [("type", "PortField")], [], [⟨"default", [], "53", []⟩, ⟨"required", [], "Y", []⟩]⟩

/-- The same field the other way round, with a note, a mark and a child that has a default of its
own. -/
def annotatedPort : Element :=
  ⟨"port", [("volatile", "1"), ("type", "PortField")], "note",
    [⟨"required", [], "Y", []⟩, ⟨"Mask", [], [], [⟨"default", [], "54", []⟩]⟩,
      ⟨"default", [], "53", []⟩]⟩

theorem code?_eq_of_edits_port : Relation.EqvGen Edit plainPort annotatedPort ∧
    (ofElement annotatedPort).code? .create = (ofElement plainPort).code? .create := by
  have hunique : propertyNames.all
      fun property => (plainPort.children.filter (isNamed property)).length ≤ 1 := by decide
  have hmask : propertyNames.all
      fun property => !isNamed property ⟨"Mask", [], [], [⟨"default", [], "54", []⟩]⟩ := by decide
  have horder := Edit.reorder plainPort plainPort.children.reverse (List.reverse_perm _).symm
    (by simpa using hunique)
  have hchild := Edit.insertChild "port" [("type", "PortField")] [] [⟨"required", [], "Y", []⟩]
    [⟨"default", [], "53", []⟩] ⟨"Mask", [], [], [⟨"default", [], "54", []⟩]⟩ (by simpa using hmask)
  have hattribute := Edit.insertAttribute "port" [] [("type", "PortField")] "volatile" "1" []
    annotatedPort.children (by decide)
  have htext := Edit.setText { annotatedPort with text := [] } "note"
  have hedits : Relation.EqvGen Edit plainPort annotatedPort :=
    .trans _ _ _ (.rel _ _ horder) (.trans _ _ _ (.rel _ _ hchild)
      (.trans _ _ _ (.rel _ _ hattribute) (.rel _ _ htext)))
  exact ⟨hedits, code?_eq_of_edits hedits .create⟩

end Field

end ClickGen
