import ClickGen.Element
import Mathlib.Data.List.Basic
import Mathlib.Data.List.Induction
import Mathlib.Data.List.Nodup
import Mathlib.Tactic.Lemma

/-!
The attributes of an element as a map that keeps the order of its keys.

A setting changes the value of a key where it is, or puts a new key at the end. However an element
is put together, each key that was set is listed once, in the order in which the keys came, with
the value that it was given last.
-/

namespace ClickGen.Element

lemma keys_assign (key value : Text) (attributes : List (Text × Text)) :
    (assign key value attributes).map Prod.fst =
      if key ∈ attributes.map Prod.fst then attributes.map Prod.fst
      else attributes.map Prod.fst ++ [key] := by
  induction attributes with
  | nil => rfl
  | cons entry rest ih =>
    by_cases hkey : entry.1 = key
    · simp [assign, hkey]
    · have hmem : key ∈ (entry :: rest).map Prod.fst ↔ key ∈ rest.map Prod.fst := by
        rw [List.map_cons, List.mem_cons, or_iff_right (Ne.symm hkey)]
      rw [assign, if_neg hkey, List.map_cons, ih]
      simp only [hmem]
      split_ifs <;> rfl

lemma lookup_assign (key value : Text) (attributes : List (Text × Text)) (other : Text) :
    (assign key value attributes).lookup other =
      if other = key then some value else attributes.lookup other := by
  induction attributes with
  | nil =>
    rw [assign, List.lookup_cons]
    split_ifs with hother
    · rw [hother, beq_self_eq_true]
    · rw [beq_eq_false_iff_ne.mpr hother]
  | cons entry rest ih =>
    obtain ⟨own, old⟩ := entry
    rw [assign]
    split_ifs with hkey hother hother
    · obtain rfl := hother
      rw [List.lookup_cons_self]
    · have hne : (other == key) = false := beq_eq_false_iff_ne.mpr hother
      obtain rfl : own = key := hkey
      rw [List.lookup_cons, List.lookup_cons, hne]
    · have hne : (other == own) = false := beq_eq_false_iff_ne.mpr (hother ▸ Ne.symm hkey)
      rw [List.lookup_cons, hne, ih, if_pos hother]
    · rw [List.lookup_cons, List.lookup_cons, ih, if_neg hother]

lemma assign_new {key : Text} (value : Text) {attributes : List (Text × Text)}
    (h : key ∉ attributes.map Prod.fst) :
    assign key value attributes = attributes ++ [(key, value)] := by
  induction attributes with
  | nil => rfl
  | cons entry rest ih =>
    rw [List.map_cons, List.mem_cons, not_or] at h
    rw [assign, if_neg fun heq => h.1 heq.symm, ih h.2, List.cons_append]

/-! ### Any settings -/

lemma foldl_setAttribute (name : Text) (before : List (Text × Text))
    {attributes : List (Text × Text)} (hd : ((before ++ attributes).map Prod.fst).Nodup) :
    attributes.foldl (fun e entry => setAttribute e entry.1 entry.2)
      (⟨name, before, [], []⟩ : Element) = ⟨name, before ++ attributes, [], []⟩ := by
  induction attributes generalizing before with
  | nil => simp
  | cons entry rest ih =>
    have hparts : before ++ entry :: rest = before ++ [entry] ++ rest := by simp
    rw [hparts] at hd
    have hnew : entry.1 ∉ before.map Prod.fst := by
      intro hmem
      rw [List.map_append, List.map_append] at hd
      exact List.disjoint_of_nodup_append (List.nodup_append.mp hd).1 hmem (by simp)
    rw [List.foldl_cons, setAttribute, assign_new _ hnew, ih _ hd, hparts]

/-- The ways an element comes about, with the settings of its attributes in the order in which they
were made. -/
inductive Built : List (Text × Text) → Element → Prop where
  | new (name : Text) : Built [] { name }
  | setting {settings e} (h : Built settings e) (key value : Text) :
    Built (settings ++ [(key, value)]) (e.setAttribute key value)
  | text {settings e} (h : Built settings e) (text : Text) : Built settings { e with text }
  | child {settings e} (h : Built settings e) (child : Element) :
    Built settings (e.addChild child)

structure IsOrderedMap (settings : List (Text × Text)) (e : Element) : Prop where
  /-- The keys that were set, in the order in which they came. -/
  keys : e.attributes.map Prod.fst = (settings.map Prod.fst).eraseDups
  nodup : (e.attributes.map Prod.fst).Nodup
  /-- The value that was given last. -/
  value : ∀ key, e.attribute? key = settings.reverse.lookup key
  none_iff : ∀ key, e.attribute? key = none ↔ key ∉ settings.map Prod.fst
  listed_iff : ∀ key value, (key, value) ∈ e.attributes ↔ e.attribute? key = some value

lemma eraseDups_concat (keys : List Text) (key : Text) :
    (keys ++ [key]).eraseDups = if key ∈ keys then keys.eraseDups else keys.eraseDups ++ [key] := by
  rw [List.eraseDups_append]
  split_ifs with h
  · have hnone : [key].removeAll keys = [] := by simp [List.removeAll, h]
    rw [hnone, List.eraseDups_nil, List.append_nil]
  · have hone : [key].removeAll keys = [key] := by simp [List.removeAll, h]
    rw [hone]
    rfl

lemma lookup_reverse_eq_none (settings : List (Text × Text)) (key : Text) :
    settings.reverse.lookup key = none ↔ key ∉ settings.map Prod.fst := by
  simp only [List.lookup_eq_none_iff, List.mem_reverse, bne_iff_ne, List.mem_map, not_exists,
    not_and]
  exact forall₂_congr fun _ _ => ne_comm

lemma mem_iff_lookup {attributes : List (Text × Text)} (h : (attributes.map Prod.fst).Nodup)
    (key value : Text) : (key, value) ∈ attributes ↔ attributes.lookup key = some value := by
  induction attributes with
  | nil => simp
  | cons entry rest ih =>
    obtain ⟨own, held⟩ := entry
    rw [List.map_cons, List.nodup_cons] at h
    rw [List.mem_cons, ih h.2]
    by_cases hkey : key = own
    · obtain rfl := hkey
      have hrest : rest.lookup key ≠ some value := fun hvalue =>
        h.1 (List.mem_map.mpr ⟨_, (ih h.2).mpr hvalue, rfl⟩)
      rw [List.lookup_cons_self]
      simp [hrest, eq_comm]
    · have hne : (key == own) = false := beq_eq_false_iff_ne.mpr hkey
      rw [List.lookup_cons, hne]
      simp [hkey]

lemma isOrderedMap_of {settings : List (Text × Text)} {e : Element}
    (keys : e.attributes.map Prod.fst = (settings.map Prod.fst).eraseDups)
    (nodup : (e.attributes.map Prod.fst).Nodup)
    (value : ∀ key, e.attribute? key = settings.reverse.lookup key) :
    IsOrderedMap settings e where
  keys := keys
  nodup := nodup
  value := value
  none_iff := fun key => by rw [value, lookup_reverse_eq_none]
  listed_iff := mem_iff_lookup nodup

lemma IsOrderedMap.setAttribute {settings : List (Text × Text)} {e : Element}
    (h : IsOrderedMap settings e) (key value : Text) :
    IsOrderedMap (settings ++ [(key, value)]) (e.setAttribute key value) := by
  have hmem : key ∈ e.attributes.map Prod.fst ↔ key ∈ settings.map Prod.fst := by
    rw [h.keys, List.mem_eraseDups]
  apply isOrderedMap_of
  case keys =>
    rw [Element.setAttribute, keys_assign, List.map_append, List.map_singleton, eraseDups_concat]
    simp only [hmem]
    rw [h.keys]
  case nodup =>
    rw [Element.setAttribute, keys_assign]
    split_ifs with hold
    · exact h.nodup
    · exact List.Nodup.append h.nodup (List.nodup_singleton key) (by simpa using hold)
  case value =>
    intro other
    have hother : e.attributes.lookup other = settings.reverse.lookup other := h.value other
    rw [attribute?, Element.setAttribute, lookup_assign, hother, List.reverse_append,
      List.reverse_singleton, List.singleton_append]
    split_ifs with hkey
    · rw [hkey, List.lookup_cons_self]
    · have hne : (other == key) = false := beq_eq_false_iff_ne.mpr hkey
      rw [List.lookup_cons, hne]

lemma Built.isOrderedMap {settings : List (Text × Text)} {e : Element} (h : Built settings e) :
    IsOrderedMap settings e := by
  induction h with
  | new name => exact isOrderedMap_of rfl List.nodup_nil fun _ => rfl
  | setting _ key value ih => exact ih.setAttribute key value
  | text _ text ih => exact ⟨ih.keys, ih.nodup, ih.value, ih.none_iff, ih.listed_iff⟩
  | child _ child ih => exact ⟨ih.keys, ih.nodup, ih.value, ih.none_iff, ih.listed_iff⟩

lemma built_of_children (name text : Text) (children : List Element) :
    Built [] ⟨name, [], text, children⟩ := by
  induction children using List.reverseRecOn with
  | nil => exact (Built.new name).text text
  | append_singleton children child ih => exact ih.child child

/-- Every element whose keys are distinct comes about by setting what is listed. -/
lemma built_of_nodup (name : Text) {attributes : List (Text × Text)} (text : Text)
    (children : List Element) (h : (attributes.map Prod.fst).Nodup) :
    Built attributes ⟨name, attributes, text, children⟩ := by
  induction attributes using List.reverseRecOn with
  | nil => exact built_of_children name text children
  | append_singleton attributes entry ih =>
    rw [List.map_append, List.nodup_append] at h
    have hnew : entry.1 ∉ attributes.map Prod.fst := fun hmem => h.2.2 _ hmem _ (by simp) rfl
    have hset := (ih h.1).setting entry.1 entry.2
    rwa [setAttribute, assign_new entry.2 hnew] at hset

end ClickGen.Element
