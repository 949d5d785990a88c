import ClickGen.Element
import Mathlib.Tactic.Lemma

/-!
Looking up an element by its name, against the listing of a tree in document order: what is found
is the first element of the listing with the name, and nothing is found where none has it. The
listing leaves out nothing that is in the tree, however deep.
-/

namespace ClickGen

namespace Element

mutual

def preorder : Element → List Element
  | ⟨name, attributes, text, children⟩ => ⟨name, attributes, text, children⟩ :: preorderAll children

def preorderAll : List Element → List Element
  | [] => []
  | e :: rest => preorder e ++ preorderAll rest

end

mutual

lemma find?_eq_preorder (tag : Text) : ∀ e : Element,
    e.find? tag = e.preorder.find? fun x => x.name = tag
  | ⟨name, attributes, text, children⟩ => by
    rw [find?, preorder, List.find?_cons, findAmong?_eq_preorder tag children]
    by_cases h : name = tag <;> simp [h]

lemma findAmong?_eq_preorder (tag : Text) : ∀ es : List Element,
    findAmong? tag es = (preorderAll es).find? fun x => x.name = tag
  | [] => rfl
  | e :: rest => by
    rw [findAmong?, preorderAll, List.find?_append, find?_eq_preorder tag e,
      findAmong?_eq_preorder tag rest]
    cases e.preorder.find? fun x => x.name = tag <;> rfl

end

lemma exists_find? {tag : Text} {root : Element} (h : ∃ x ∈ root.preorder, x.name = tag) :
    ∃ e, root.find? tag = some e := by
  obtain ⟨x, hx, htag⟩ := h
  rw [find?_eq_preorder]
  exact Option.isSome_iff_exists.mp (List.find?_isSome.mpr ⟨x, hx, by simpa using htag⟩)

/-- The element has the name, and those before it in document order do not. -/
structure IsFirst (root : Element) (tag : Text) (e : Element) : Prop where
  name_eq : e.name = tag
  exists_split : ∃ before after, root.preorder = before ++ e :: after ∧ ∀ x ∈ before, x.name ≠ tag

lemma find?_eq_some_iff {tag : Text} {root e : Element} :
    root.find? tag = some e ↔ root.IsFirst tag e := by
  rw [find?_eq_preorder, List.find?_eq_some_iff_append]
  constructor
  · rintro ⟨hname, before, after, hsplit, hbefore⟩
    exact ⟨by simpa using hname, before, after, hsplit, fun x hx => by simpa using hbefore x hx⟩
  · rintro ⟨hname, before, after, hsplit, hbefore⟩
    exact ⟨by simpa using hname, before, after, hsplit, fun x hx => by simpa using hbefore x hx⟩

/-- What is found is the first element of the listing that has the name. -/
lemma find?_eq_some {tag : Text} {root e : Element} (h : root.find? tag = some e) :
    root.IsFirst tag e :=
  find?_eq_some_iff.mp h

/-- The element itself, one of its children, or in one of them. -/
inductive IsIn (x : Element) : Element → Prop where
  | self : IsIn x x
  | child {e child : Element} (hchild : child ∈ e.children) (h : IsIn x child) : IsIn x e

lemma mem_preorderAll {x e : Element} {es : List Element} (he : e ∈ es) (hx : x ∈ e.preorder) :
    x ∈ preorderAll es := by
  induction es with
  | nil => cases he
  | cons first rest ih =>
    rw [preorderAll, List.mem_append]
    rcases List.mem_cons.mp he with rfl | he
    · exact .inl hx
    · exact .inr (ih he)

lemma IsIn.mem_preorder {x e : Element} (h : IsIn x e) : x ∈ e.preorder := by
  induction h with
  | self =>
    obtain ⟨name, attributes, text, children⟩ := x
    exact List.mem_cons_self
  | @child e child hchild _ ih =>
    obtain ⟨name, attributes, text, children⟩ := e
    exact List.mem_cons_of_mem _ (mem_preorderAll hchild ih)

mutual

lemma isIn_of_mem_preorder {x : Element} : ∀ e : Element, x ∈ e.preorder → IsIn x e
  | ⟨name, attributes, text, children⟩ => by
    intro h
    rcases List.mem_cons.mp h with rfl | h
    · exact .self
    · obtain ⟨e, he, hx⟩ := exists_isIn_of_mem_preorderAll children h
      exact .child he hx

lemma exists_isIn_of_mem_preorderAll {x : Element} : ∀ es : List Element, x ∈ preorderAll es →
    ∃ e ∈ es, IsIn x e
  | [] => fun h => absurd h List.not_mem_nil
  | e :: rest => by
    intro h
    rcases List.mem_append.mp h with h | h
    · exact ⟨e, List.mem_cons_self, isIn_of_mem_preorder e h⟩
    · obtain ⟨e', he', hx⟩ := exists_isIn_of_mem_preorderAll rest h
      exact ⟨e', List.mem_cons_of_mem e he', hx⟩

end

lemma mem_preorder_iff {x e : Element} : x ∈ e.preorder ↔ IsIn x e :=
  ⟨isIn_of_mem_preorder e, IsIn.mem_preorder⟩

lemma find?_eq_none_iff {tag : Text} {root : Element} :
    root.find? tag = none ↔ ∀ x, IsIn x root → x.name ≠ tag := by
  rw [find?_eq_preorder, List.find?_eq_none]
  simp only [mem_preorder_iff, decide_eq_true_eq, ne_eq]

end Element

end ClickGen
