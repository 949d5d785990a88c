import ClickGen.Element
import ClickGen.Proofs.Text.Trim

/-!
Elements up to the blanks at the ends of their texts, and elements that differ in one text only,
from which a part is missing.
-/

namespace ClickGen.Element

mutual

/-- The element with the content of each element for its text: without blanks at the ends. -/
def trimmed : Element → Element
  | ⟨name, attributes, text, children⟩ =>
    ⟨name, attributes, Text.trimBlank text, trimmedAll children⟩

def trimmedAll : List Element → List Element
  | [] => []
  | e :: rest => trimmed e :: trimmedAll rest

end

lemma trimmedAll_eq_map (es : List Element) : trimmedAll es = es.map trimmed := by
  induction es with
  | nil => rfl
  | cons e es ih => rw [trimmedAll, List.map_cons, ih]

/-- The second element is the first one but for one text in it, where `gap` is missing between
`before` and `after`. The path says which child to take, and which child of that, and so on. -/
inductive LosesText (before gap after : Text) : List Nat → Element → Element → Prop where
  | here (name : Text) (attributes : List (Text × Text)) (children : List Element) :
    LosesText before gap after [] ⟨name, attributes, before ++ gap ++ after, children⟩
      ⟨name, attributes, before ++ after, children⟩
  | inside (name : Text) (attributes : List (Text × Text)) (text : Text)
    (elder younger : List Element) {path : List Nat} {e e' : Element}
    (h : LosesText before gap after path e e') :
    LosesText before gap after (elder.length :: path)
      ⟨name, attributes, text, elder ++ e :: younger⟩
      ⟨name, attributes, text, elder ++ e' :: younger⟩

namespace LosesText

variable {before gap after : Text} {path : List Nat} {e e' : Element}

lemma eq_of_nil (h : LosesText before [] after path e e') : e' = e := by
  induction h with
  | here => rw [List.append_nil]
  | inside _ _ _ _ _ _ ih => rw [ih]

lemma addText (h : LosesText before gap after path e e') (text : Text) :
    ∃ after', LosesText before gap after' path (e.addText text) (e'.addText text) := by
  cases h with
  | here name attributes children =>
    refine ⟨after ++ text, ?_⟩
    have hwhole : LosesText before gap (after ++ text) _ _ _ := here name attributes children
    simpa only [Element.addText, List.append_assoc] using hwhole
  | inside name attributes own elder younger h =>
    exact ⟨after, .inside name attributes (own ++ text) elder younger h⟩

lemma addChild (h : LosesText before gap after path e e') (child : Element) :
    LosesText before gap after path (e.addChild child) (e'.addChild child) := by
  cases h with
  | here name attributes children => exact .here name attributes (children ++ [child])
  | inside name attributes own elder younger h =>
    have hwhole := inside name attributes own elder (younger ++ [child]) h
    simpa only [Element.addChild, List.append_assoc, List.cons_append] using hwhole

lemma child (h : LosesText before gap after path e e') (parent : Element) :
    LosesText before gap after (parent.children.length :: path) (parent.addChild e)
      (parent.addChild e') :=
  .inside parent.name parent.attributes parent.text parent.children [] h

/-- What is missing can be seen but for the blanks at the ends of texts exactly when the content of
the one element has changed. -/
lemma trimmed_eq_iff (h : LosesText before gap after path e e') : e'.trimmed = e.trimmed ↔
    Text.trimBlank (before ++ after) = Text.trimBlank (before ++ gap ++ after) := by
  induction h with
  | here => simp [trimmed]
  | inside name attributes text elder younger h ih => simp [trimmed, trimmedAll_eq_map, ih]

end LosesText

end ClickGen.Element
