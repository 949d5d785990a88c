import ClickGen.Text.Blank

/-!
Elements of a model document: a name, attributes in the order of their first setting, the text
directly inside, and the children. An element is looked up among the children of another, or by
name anywhere in a tree, where the first one in document order counts.
-/

namespace ClickGen

structure Element where
  name : Text
  attributes : List (Text × Text) := []
  text : Text := []
  children : List Element := []

namespace Element

/-- Gives `key` its value: in place when the key is there, else at the end. -/
def assign (key value : Text) : List (Text × Text) → List (Text × Text)
  | [] => [(key, value)]
  | entry :: rest =>
    if entry.1 = key then (key, value) :: rest else entry :: assign key value rest

def setAttribute (e : Element) (key value : Text) : Element :=
  { e with attributes := assign key value e.attributes }

def addText (e : Element) (text : Text) : Element := { e with text := e.text ++ text }

def addChild (e : Element) (child : Element) : Element :=
  { e with children := e.children ++ [child] }

/-- The value of an attribute. -/
def attribute? (e : Element) (key : Text) : Option Text := e.attributes.lookup key

/-- The declared type of a field, such as `BooleanField`. -/
def fieldType? (e : Element) : Option Text := e.attribute? "type"

/-- The text directly inside the element, without blanks at its ends. -/
def content (e : Element) : Text := Text.trimBlank e.text

/-- The first child with the name, whatever the case of its ASCII letters: documents write both
`Required` and `required`. -/
def child? (e : Element) (name : Text) : Option Element :=
  e.children.find? fun child => Text.eqIgnoreCase child.name name

mutual

/-- The first element with the name in document order, the element itself included. -/
def find? (name : Text) : Element → Option Element
  | ⟨own, attributes, text, children⟩ =>
    if own = name then some ⟨own, attributes, text, children⟩ else findAmong? name children

def findAmong? (name : Text) : List Element → Option Element
  | [] => none
  | e :: rest =>
    match find? name e with
    | some found => some found
    | none => findAmong? name rest

end

mutual

private def decEq : (a b : Element) → Decidable (a = b)
  | ⟨name, attributes, text, children⟩, ⟨name', attributes', text', children'⟩ =>
    if h : name = name' ∧ attributes = attributes' ∧ text = text' then
      match decEqAll children children' with
      | .isTrue hc => .isTrue (by rw [h.1, h.2.1, h.2.2, hc])
      | .isFalse hc => .isFalse fun heq => hc (Element.mk.inj heq).2.2.2
    else
      .isFalse fun heq =>
        h ⟨(Element.mk.inj heq).1, (Element.mk.inj heq).2.1, (Element.mk.inj heq).2.2.1⟩

private def decEqAll : (as bs : List Element) → Decidable (as = bs)
  | [], [] => .isTrue rfl
  | [], _ :: _ => .isFalse fun h => nomatch h
  | _ :: _, [] => .isFalse fun h => nomatch h
  | a :: as, b :: bs =>
    match decEq a b, decEqAll as bs with
    | .isTrue h, .isTrue hs => .isTrue (by rw [h, hs])
    | .isFalse h, _ => .isFalse fun heq => h (List.cons.inj heq).1
    | _, .isFalse hs => .isFalse fun heq => hs (List.cons.inj heq).2

end

instance : DecidableEq Element := decEq

end Element

end ClickGen
