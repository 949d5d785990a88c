import ClickGen.Proofs.Element.Assign
import ClickGen.Proofs.Xml.AttributeStep

/-!
The keys of a tag. A reader of attributes refuses a key that it has seen, so that the attributes of
an element are those of its tag, one for one and in their order.
-/

namespace ClickGen.Xml

/-- The key that is read already while its value is not. -/
def AttributeState.keyAtHand : AttributeState → List Text
  | .beforeValue name | .value name .. => [name]
  | .between | .key .. | .afterKey .. => []

structure AreNew (seen : SeenKeys) (keys : List Text) : Prop where
  nodup : keys.Nodup
  unseen : ∀ key ∈ keys, seen.lookup key = none

lemma AreNew.cons {seen : SeenKeys} {key : Text} {start : Nat} {keys : List Text}
    (hkey : seen.lookup key = none) (h : AreNew ((key, start) :: seen) keys) :
    AreNew seen (key :: keys) := by
  have hapart : ∀ other ∈ keys, other ≠ key ∧ seen.lookup other = none := by
    intro other hother
    have hnone := h.unseen other hother
    rw [List.lookup_cons] at hnone
    split at hnone
    · cases hnone
    · next hne => exact ⟨by simpa using hne, hnone⟩
  have hfresh : key ∉ keys := fun hmem => (hapart key hmem).1 rfl
  refine ⟨List.nodup_cons.mpr ⟨hfresh, h.nodup⟩, fun other hother => ?_⟩
  rcases List.mem_cons.mp hother with rfl | hother
  · exact hkey
  · exact (hapart other hother).2

lemma AreNew.of_cons {seen : SeenKeys} {key : Text} {keys : List Text}
    (h : AreNew seen (key :: keys)) (start : Nat) :
    seen.lookup key = none ∧ AreNew ((key, start) :: seen) keys := by
  obtain ⟨hfresh, hnodup⟩ := List.nodup_cons.mp h.nodup
  refine ⟨h.unseen key List.mem_cons_self, hnodup, fun other hother => ?_⟩
  have hne : other ≠ key := fun heq => hfresh (heq ▸ hother)
  rw [List.lookup_cons, beq_eq_false_iff_ne.mpr hne]
  exact h.unseen other (List.mem_cons_of_mem key hother)

lemma attributesFrom_keys {size position : Nat} {seen : SeenKeys} {state : AttributeState}
    {s : Text} {attributes : List (Text × Text)}
    (h : attributesFrom size position seen state s = .ok attributes) :
    ∃ keys, attributes.map Prod.fst = state.keyAtHand ++ keys ∧ AreNew seen keys := by
  induction s generalizing position seen state attributes with
  | nil =>
    cases state with
    | between =>
      cases h
      exact ⟨[], rfl, List.nodup_nil, by simp⟩
    | key | afterKey | beforeValue | value => cases h
  | cons c rest ih =>
    rcases attributesFrom_cons size position seen state c rest with
      ⟨seen', state', hgoes, hread⟩ | ⟨key, raw, rfl, hread⟩ | ⟨cause, hread⟩
    · obtain ⟨keys, hkeys, hnew⟩ := ih (hread ▸ h)
      cases hgoes with
      | keyEquals start hsign hkey => exact ⟨_, hkeys, hnew.cons hkey⟩
      | afterEquals start hsign hkey => exact ⟨_, hkeys, hnew.cons hkey⟩
      | gap | first | keyMore | keyEnd | afterGap | valueGap | quote | valueMore =>
        exact ⟨keys, hkeys, hnew⟩
    · obtain ⟨value, -, h⟩ := bind_eq_ok.mp (hread ▸ h)
      obtain ⟨more, hmore, h⟩ := bind_eq_ok.mp h
      obtain ⟨keys, hkeys, hnew⟩ := ih hmore
      obtain rfl : (key, value) :: more = attributes := Except.ok.inj h
      exact ⟨keys, congrArg (key :: ·) hkeys, hnew⟩
    · cases hread ▸ h

/-- No key is twice in a tag that can be read. -/
theorem Tag.attributes_nodup {tag : Tag} {attributes : List (Text × Text)}
    (h : tag.attributes = .ok attributes) : (attributes.map Prod.fst).Nodup := by
  obtain ⟨keys, hkeys, hnew⟩ := attributesFrom_keys h
  rw [hkeys]
  exact hnew.nodup

/-- The element that a tag opens has all the attributes of the tag, none put over another. -/
theorem Tag.element_eq (tag : Tag) :
    tag.element = (do return ⟨tag.name, ← tag.attributes, [], []⟩) := by
  unfold Tag.element
  cases h : tag.attributes with
  | error fault => rfl
  | ok attributes =>
    have hset := Element.foldl_setAttribute tag.name [] (Tag.attributes_nodup h)
    exact congrArg Except.ok hset

end ClickGen.Xml
