import ClickGen.Toml.Document
import Mathlib.Data.List.Nodup
import Mathlib.Tactic.Lemma

/-!
No name stands twice in a table of a document.

A key is only put where none of its name is, and whatever else is done to a table keeps its names.
This holds inside of what a path leads to as well, and so of every table however deep, whether it
was made by a header, by dots or in braces. Main statement: it holds of every document that is
read.
-/

namespace ClickGen.Toml

/-- No table in the value has a name twice. -/
inductive Value.IsDistinct : Value → Prop where
  | text (t : Text) : IsDistinct (.text t)
  | integer (i : Int) : IsDistinct (.integer i)
  | real (r : Real) : IsDistinct (.real r)
  | noNumber : IsDistinct .noNumber
  | boolean (b : Bool) : IsDistinct (.boolean b)
  | moment : IsDistinct .moment
  | array {byHeaders : Bool} {items : List (Span × Value)}
    (h : ∀ item ∈ items, IsDistinct item.2) : IsDistinct (.array byHeaders items)
  | table {maker : Maker} {entries : List (Key × Span × Value)}
    (names : (entries.map (·.1.name)).Nodup)
    (h : ∀ entry ∈ entries, IsDistinct entry.2.2) : IsDistinct (.table maker entries)

namespace Entries

structure IsDistinct (entries : Entries) : Prop where
  names : (entries.map (·.1.name)).Nodup
  values : ∀ entry ∈ entries, entry.2.2.IsDistinct

lemma isDistinct_nil : IsDistinct [] := ⟨List.nodup_nil, fun _ h => (List.not_mem_nil h).elim⟩

variable {name : Text} {item : Span × Value} {key : Key} {entries : Entries}

lemma exists_mem_of_get? (h : entries.get? name = some item) :
    ∃ key, (key, item) ∈ entries ∧ key.name = name := by
  induction entries with
  | nil => cases h
  | cons entry rest ih =>
    obtain ⟨key, old⟩ := entry
    rw [get?] at h
    split at h
    · next hname =>
      obtain rfl := Option.some.inj h
      exact ⟨key, List.mem_cons_self, hname⟩
    · obtain ⟨other, hmem, hname⟩ := ih h
      exact ⟨other, List.mem_cons_of_mem _ hmem, hname⟩

lemma get?_eq_none (h : entries.get? name = none) : name ∉ entries.map (·.1.name) := by
  induction entries with
  | nil => exact List.not_mem_nil
  | cons entry rest ih =>
    obtain ⟨key, old⟩ := entry
    rw [get?] at h
    split at h
    · cases h
    · next hname =>
      rw [List.map_cons, List.mem_cons, not_or]
      exact ⟨fun heq => hname heq.symm, ih h⟩

lemma IsDistinct.get? (h : entries.IsDistinct) (hget : entries.get? name = some item) :
    item.2.IsDistinct := by
  obtain ⟨key, hmem, -⟩ := exists_mem_of_get? hget
  exact h.values _ hmem

lemma IsDistinct.append (h : entries.IsDistinct) (hnone : entries.get? key.name = none)
    (hitem : item.2.IsDistinct) : IsDistinct (entries ++ [(key, item)]) := by
  refine ⟨?_, fun entry hmem => ?_⟩
  · rw [List.map_append, List.nodup_append_comm]
    exact List.nodup_cons.mpr ⟨get?_eq_none hnone, h.names⟩
  · rcases List.mem_append.mp hmem with hmem | hmem
    · exact h.values entry hmem
    · obtain rfl := List.mem_singleton.mp hmem
      exact hitem

lemma map_name_replace (name : Text) (item : Span × Value) (entries : Entries) :
    (replace name item entries).map (·.1.name) = entries.map (·.1.name) := by
  induction entries with
  | nil => rfl
  | cons entry rest ih =>
    obtain ⟨key, old⟩ := entry
    rw [replace]
    split
    · rfl
    · rw [List.map_cons, ih, List.map_cons]

lemma mem_replace {entry : Key × Span × Value} (h : entry ∈ replace name item entries) :
    entry ∈ entries ∨ entry.2 = item := by
  induction entries with
  | nil => cases h
  | cons first rest ih =>
    obtain ⟨key, old⟩ := first
    rw [replace] at h
    split at h
    · rcases List.mem_cons.mp h with rfl | h
      · exact .inr rfl
      · exact .inl (List.mem_cons_of_mem _ h)
    · rcases List.mem_cons.mp h with rfl | h
      · exact .inl List.mem_cons_self
      · exact (ih h).imp_left (List.mem_cons_of_mem _)

lemma IsDistinct.replace (h : entries.IsDistinct) (name : Text) (hitem : item.2.IsDistinct) :
    IsDistinct (replace name item entries) := by
  refine ⟨(map_name_replace name item entries).symm ▸ h.names, fun entry hmem => ?_⟩
  rcases mem_replace hmem with hmem | heq
  · exact h.values entry hmem
  · exact heq ▸ hitem

lemma map_name_restate (key : Key) (item : Span × Value) (entries : Entries) :
    (restate key item entries).map (·.1.name) = entries.map (·.1.name) := by
  induction entries with
  | nil => rfl
  | cons entry rest ih =>
    rw [restate]
    split
    · next hname => rw [List.map_cons, List.map_cons, hname]
    · rw [List.map_cons, ih, List.map_cons]

lemma mem_restate {entry : Key × Span × Value} (h : entry ∈ restate key item entries) :
    entry ∈ entries ∨ entry = (key, item) := by
  induction entries with
  | nil => cases h
  | cons first rest ih =>
    rw [restate] at h
    split at h
    · rcases List.mem_cons.mp h with rfl | h
      · exact .inr rfl
      · exact .inl (List.mem_cons_of_mem _ h)
    · rcases List.mem_cons.mp h with rfl | h
      · exact .inl List.mem_cons_self
      · exact (ih h).imp_left (List.mem_cons_of_mem _)

lemma IsDistinct.restate (h : entries.IsDistinct) (key : Key) (hitem : item.2.IsDistinct) :
    IsDistinct (restate key item entries) := by
  refine ⟨(map_name_restate key item entries).symm ▸ h.names, fun entry hmem => ?_⟩
  rcases mem_restate hmem with hmem | rfl
  · exact h.values entry hmem
  · exact hitem

end Entries

namespace Value

variable {byHeaders : Bool} {maker : Maker}

lemma isDistinct_array_iff {items : List (Span × Value)} :
    (array byHeaders items).IsDistinct ↔ ∀ item ∈ items, item.2.IsDistinct := by
  refine ⟨fun h => ?_, .array⟩
  cases h with
  | array h => exact h

lemma isDistinct_table_iff {entries : Entries} :
    (table maker entries).IsDistinct ↔ entries.IsDistinct := by
  refine ⟨fun h => ?_, fun h => .table h.names h.values⟩
  cases h with
  | table names h => exact ⟨names, h⟩

end Value

namespace Table

/-- The names are distinct in the table and inside of it. -/
def IsDistinct (t : Table) : Prop := t.entries.IsDistinct

/-- A change of tables that leaves the names distinct. -/
def KeepsDistinct (f : Table → Option Table) : Prop :=
  ∀ ⦃t t' : Table⦄, t.IsDistinct → f t = some t' → t'.IsDistinct

variable {t t' : Table} {f fill : Table → Option Table}

lemma isDistinct_empty (maker : Maker) : IsDistinct ⟨maker, []⟩ := Entries.isDistinct_nil

lemma IsDistinct.toValue (h : t.IsDistinct) : t.toValue.IsDistinct :=
  Value.isDistinct_table_iff.mpr h

lemma IsDistinct.insert? {key : Key} {span : Span} {v : Value} (h : t.IsDistinct)
    (hv : v.IsDistinct) (hinsert : t.insert? key span v = some t') : t'.IsDistinct := by
  unfold Table.insert? at hinsert
  split_ifs at hinsert with hsome
  obtain rfl := Option.some.inj hinsert
  exact Entries.IsDistinct.append h (Option.not_isSome_iff_eq_none.mp hsome) hv

lemma isDistinct_map_toValue (hf : KeepsDistinct f) {maker : Maker} {entries : Entries} {v : Value}
    (h : (Value.table maker entries).IsDistinct)
    (hmap : (f ⟨maker, entries⟩).map Table.toValue = some v) : v.IsDistinct := by
  obtain ⟨inner, hinner, rfl⟩ := Option.map_eq_some_iff.mp hmap
  exact IsDistinct.toValue (hf (Value.isDistinct_table_iff.mp h) hinner)

lemma isDistinct_updateLast? {g : Value → Option Value}
    (hg : ∀ ⦃v v' : Value⦄, v.IsDistinct → g v = some v' → v'.IsDistinct)
    {items items' : List (Span × Value)} (h : ∀ item ∈ items, item.2.IsDistinct)
    (hupdate : updateLast? g items = some items') : ∀ item ∈ items', item.2.IsDistinct := by
  induction items generalizing items' with
  | nil => cases hupdate
  | cons first rest ih =>
    obtain ⟨hfirst, hrest⟩ := List.forall_mem_cons.mp h
    cases rest with
    | nil =>
      obtain ⟨v, hv, rfl⟩ := Option.map_eq_some_iff.mp hupdate
      exact List.forall_mem_singleton.mpr (hg hfirst hv)
    | cons second rest =>
      obtain ⟨others, hothers, rfl⟩ := Option.map_eq_some_iff.mp hupdate
      exact List.forall_mem_cons.mpr ⟨hfirst, ih hrest hothers⟩

/-- What keeps names distinct at the end of a path does so at its beginning: on the way a table is
put where none was, or a value in the place of another. -/
lemma keepsDistinct_at? (hf : KeepsDistinct f) (dots : Bool) (path : List Key) :
    KeepsDistinct (at? dots f path) := by
  induction path with
  | nil => exact hf
  | cons key path ih =>
    intro t t' h hat
    rw [at?] at hat
    split at hat
    · next hget =>
      split at hat
      · next inner hinner =>
        obtain rfl := Option.some.inj hat
        exact Entries.IsDistinct.append h hget (ih (isDistinct_empty _) hinner).toValue
      · cases hat
    · next span items hget =>
      simp only at hat
      split at hat
      · next items' hupdate =>
        obtain rfl := Option.some.inj hat
        have hitems := Value.isDistinct_array_iff.mp (Entries.IsDistinct.get? h hget)
        refine Entries.IsDistinct.replace h _ (Value.isDistinct_array_iff.mpr ?_)
        refine isDistinct_updateLast? (fun v v' hv henter => ?_) hitems hupdate
        cases v with
        | table maker entries => exact isDistinct_map_toValue ih hv henter
        | _ => cases henter
      · cases hat
    · next span v _ hget =>
      split at hat
      · next v' henter =>
        obtain rfl := Option.some.inj hat
        have hv := Entries.IsDistinct.get? h hget
        refine Entries.IsDistinct.replace h _ ?_
        cases v with
        | table maker entries =>
          simp only at henter
          split at henter
          · exact isDistinct_map_toValue ih hv henter
          · cases henter
        | _ => cases henter
      · cases hat

lemma IsDistinct.assign? {path : List Key} {key : Key} {span : Span} {v : Value}
    (h : t.IsDistinct) (hv : v.IsDistinct) (hassign : t.assign? path key span v = some t') :
    t'.IsDistinct := by
  refine keepsDistinct_at? (fun inner inner' hinner hinsert => ?_) true path h hassign
  split at hinsert
  · cases hinsert
  · exact hinner.insert? hv hinsert

lemma keepsDistinct_addTable? (hfill : KeepsDistinct fill) (path : List Key) (key : Key)
    (span : Span) : KeepsDistinct fun t => t.addTable? path key span fill := by
  refine keepsDistinct_at? (fun outer outer' houter hadd => ?_) false path
  split at hadd
  · split at hadd
    · next inner hinner => exact houter.insert? (hfill (isDistinct_empty _) hinner).toValue hadd
    · cases hadd
  · next entries hget =>
    split at hadd
    · next inner hinner =>
      obtain rfl := Option.some.inj hadd
      have hentries : IsDistinct ⟨.header, entries⟩ :=
        Value.isDistinct_table_iff.mp (Entries.IsDistinct.get? houter hget)
      exact Entries.IsDistinct.restate houter key (hfill hentries hinner).toValue
    · cases hadd
  · cases hadd

lemma keepsDistinct_addToArray? (hfill : KeepsDistinct fill) (path : List Key) (key : Key)
    (span : Span) : KeepsDistinct fun t => t.addToArray? path key span fill := by
  intro t t' h hadd
  simp only [addToArray?] at hadd
  split at hadd
  · cases hadd
  · next inner hinner =>
    have hvalue := (hfill (isDistinct_empty _) hinner).toValue
    refine keepsDistinct_at? (fun outer outer' houter hadd => ?_) false path h hadd
    split at hadd
    · refine houter.insert? (Value.isDistinct_array_iff.mpr ?_) hadd
      exact List.forall_mem_singleton.mpr hvalue
    · next whole items hget =>
      obtain rfl := Option.some.inj hadd
      have hitems := Value.isDistinct_array_iff.mp (Entries.IsDistinct.get? houter hget)
      refine Entries.IsDistinct.replace houter _ (Value.isDistinct_array_iff.mpr ?_)
      exact List.forall_mem_append.mpr ⟨hitems, List.forall_mem_singleton.mpr hvalue⟩
    · cases hadd

end Table

section Words

variable {word rest : Text} {v : Value}

lemma isDistinct_wholeNumber (negative : Bool) (value? : Option Nat) :
    (wholeNumber negative value?).IsDistinct := by
  cases value? with
  | none => exact .noNumber
  | some n => exact .integer _

lemma isDistinct_readInBase? {base : Nat} (h : readInBase? base word = some v) :
    v.IsDistinct := by
  unfold readInBase? at h
  split at h
  · obtain ⟨digits, -, rfl⟩ := Option.map_eq_some_iff.mp h
    exact isDistinct_wholeNumber _ _
  · cases h

lemma isDistinct_readWhole? (h : readWhole? word = some v) : v.IsDistinct := by
  unfold readWhole? at h
  split at h
  · cases h
  · obtain ⟨joined, -, rfl⟩ := Option.map_eq_some_iff.mp h
    exact isDistinct_wholeNumber _ _

lemma isDistinct_readReal? (h : readReal? word = some v) : v.IsDistinct := by
  unfold readReal? at h
  split at h
  · obtain ⟨joined, -, rfl⟩ := Option.map_eq_some_iff.mp h
    exact .real _
  · cases h

lemma isDistinct_readNumber? (h : readNumber? word = some v) : v.IsDistinct := by
  unfold readNumber? at h
  split at h
  · exact isDistinct_readInBase? h
  · split at h
    · exact isDistinct_readWhole? h
    · split_ifs at h
      · obtain rfl := Option.some.inj h
        exact .moment
      · exact isDistinct_readReal? h
      · exact isDistinct_readWhole? h

lemma isDistinct_readWord? (h : readWord? word = some v) : v.IsDistinct := by
  unfold readWord? at h
  simp only at h
  split_ifs at h
  · obtain rfl := Option.some.inj h
    exact .boolean _
  · obtain rfl := Option.some.inj h
    exact .boolean _
  · obtain rfl := Option.some.inj h
    exact .real _
  · obtain rfl := Option.some.inj h
    exact .real _
  · exact isDistinct_readNumber? h

end Words

/-! ### Values -/

section Values

variable {size n depth : Nat} {s rest : Text}

structure ReadsDistinct (size n : Nat) : Prop where
  value : ∀ ⦃depth s v rest⦄, readValue? size n depth s = some (v, rest) → v.IsDistinct
  items : ∀ ⦃depth s items rest⦄, readItems? size n depth s = some (items, rest) →
    ∀ item ∈ items, item.2.IsDistinct
  members : ∀ ⦃depth t s t' rest⦄, t.IsDistinct →
    readMembers? size n depth t s = some (t', rest) → t'.IsDistinct

lemma readsDistinct_zero (size : Nat) : ReadsDistinct size 0 where
  value depth s v rest h := by rw [readValue?] at h; cases h
  items depth s items rest h := by rw [readItems?] at h; cases h
  members depth t s t' rest ht h := by rw [readMembers?] at h; cases h

lemma ReadsDistinct.value_succ (ih : ReadsDistinct size n) {v : Value}
    (h : readValue? size (n + 1) depth s = some (v, rest)) : v.IsDistinct := by
  rw [readValue?.eq_def] at h
  split at h
  · cases h
  · next heq =>
    obtain rfl := Nat.succ.inj heq
    obtain ⟨⟨items, after⟩, hitems, hv⟩ := Option.map_eq_some_iff.mp h
    obtain ⟨rfl, rfl⟩ := Prod.mk.inj hv
    exact .array (ih.items hitems)
  · next heq =>
    obtain rfl := Nat.succ.inj heq
    obtain ⟨⟨t, after⟩, hmembers, hv⟩ := Option.map_eq_some_iff.mp h
    obtain ⟨rfl, rfl⟩ := Prod.mk.inj hv
    exact Value.isDistinct_table_iff.mpr (ih.members (Table.isDistinct_empty _) hmembers)
  · split at h
    · obtain ⟨rfl, rfl⟩ := Prod.mk.inj (Option.some.inj h)
      exact .text _
    · obtain ⟨word, hword, hv⟩ := Option.map_eq_some_iff.mp h
      obtain ⟨rfl, rfl⟩ := Prod.mk.inj hv
      exact isDistinct_readWord? hword

lemma ReadsDistinct.items_succ (ih : ReadsDistinct size n) {items : List (Span × Value)}
    (h : readItems? size (n + 1) depth s = some (items, rest)) :
    ∀ item ∈ items, item.2.IsDistinct := by
  rw [readItems?] at h
  split at h
  · cases h
  · obtain ⟨rfl, rfl⟩ := Prod.mk.inj (Option.some.inj h)
    exact fun _ hmem => (List.not_mem_nil hmem).elim
  · split at h
    · cases h
    · next hvalue =>
      have hv := ih.value hvalue
      simp only at h
      split at h
      · obtain ⟨⟨others, after⟩, hothers, heq⟩ := Option.map_eq_some_iff.mp h
        obtain ⟨rfl, rfl⟩ := Prod.mk.inj heq
        exact List.forall_mem_cons.mpr ⟨hv, ih.items hothers⟩
      · obtain ⟨rfl, rfl⟩ := Prod.mk.inj (Option.some.inj h)
        exact List.forall_mem_singleton.mpr hv
      · cases h

lemma ReadsDistinct.members_succ (ih : ReadsDistinct size n) {t t' : Table} (ht : t.IsDistinct)
    (h : readMembers? size (n + 1) depth t s = some (t', rest)) : t'.IsDistinct := by
  rw [readMembers?] at h
  split at h
  · cases h
  · obtain ⟨rfl, rfl⟩ := Prod.mk.inj (Option.some.inj h)
    exact ht
  · split at h
    · simp only at h
      split at h
      · cases h
      · next hvalue =>
        have hv := ih.value hvalue
        split at h
        · next hassign _ => exact ih.members (ht.assign? hv hassign) h
        · next hassign _ =>
          obtain ⟨rfl, rfl⟩ := Prod.mk.inj (Option.some.inj h)
          exact ht.assign? hv hassign
        · cases h
    · cases h

lemma readsDistinct (size n : Nat) : ReadsDistinct size n := by
  induction n with
  | zero => exact readsDistinct_zero size
  | succ n ih =>
    -- the readers call each other with one step less
    exact ⟨fun _ _ _ _ => ih.value_succ, fun _ _ _ _ => ih.items_succ,
      fun _ _ _ _ _ => ih.members_succ⟩

end Values

/-! ### Statements -/

section Statements

variable {size n : Nat} {s rest : Text} {t t' : Table} {assignments : List Assignment}

lemma isDistinct_readAssignment? {a : Assignment}
    (h : readAssignment? size s = some (a, rest)) : a.value.IsDistinct := by
  unfold readAssignment? at h
  split at h
  · simp only at h
    split at h
    · next hvalue =>
      obtain ⟨after, -, heq⟩ := Option.map_eq_some_iff.mp h
      obtain ⟨rfl, rfl⟩ := Prod.mk.inj heq
      exact (readsDistinct size _).value hvalue
    · cases h
  · cases h

lemma isDistinct_readAssignments? (h : readAssignments? size n s = some (assignments, rest)) :
    ∀ a ∈ assignments, a.value.IsDistinct := by
  induction n generalizing s assignments with
  | zero => rw [readAssignments?] at h; cases h
  | succ n ih =>
    rw [readAssignments?] at h
    split at h
    · cases h
    · obtain ⟨rfl, rfl⟩ := Prod.mk.inj (Option.some.inj h)
      exact fun _ hmem => (List.not_mem_nil hmem).elim
    · obtain ⟨rfl, rfl⟩ := Prod.mk.inj (Option.some.inj h)
      exact fun _ hmem => (List.not_mem_nil hmem).elim
    · split at h
      · next hread =>
        obtain ⟨⟨others, after⟩, hothers, heq⟩ := Option.map_eq_some_iff.mp h
        obtain ⟨rfl, rfl⟩ := Prod.mk.inj heq
        exact List.forall_mem_cons.mpr ⟨isDistinct_readAssignment? hread, ih hothers⟩
      · cases h

namespace Table

lemma keepsDistinct_assignAll? (h : ∀ a ∈ assignments, a.value.IsDistinct) :
    KeepsDistinct (·.assignAll? assignments) := by
  induction assignments with
  | nil =>
    intro t t' ht hassign
    obtain rfl := Option.some.inj hassign
    exact ht
  | cons a rest ih =>
    obtain ⟨ha, hrest⟩ := List.forall_mem_cons.mp h
    intro t t' ht hassign
    simp only [assignAll?] at hassign
    split at hassign
    · next hfirst => exact ih hrest (ht.assign? ha hfirst) hassign
    · cases hassign

end Table

lemma Header.keepsDistinct_place? {fill : Table → Option Table}
    (hfill : Table.KeepsDistinct fill) (header : Header) :
    Table.KeepsDistinct (header.place? fill) := by
  intro t t' ht hplace
  unfold place? at hplace
  split at hplace
  · exact Table.keepsDistinct_addToArray? hfill _ _ _ ht hplace
  · exact Table.keepsDistinct_addTable? hfill _ _ _ ht hplace

lemma isDistinct_readTables? (ht : t.IsDistinct) (h : readTables? size n t s = some t') :
    t'.IsDistinct := by
  induction n generalizing t s with
  | zero =>
    cases s with
    | nil =>
      rw [readTables?] at h
      obtain rfl := Option.some.inj h
      exact ht
    | cons c s => rw [readTables?] at h <;> trivial
  | succ n ih =>
    cases s with
    | nil =>
      rw [readTables?] at h
      obtain rfl := Option.some.inj h
      exact ht
    | cons c s =>
      rw [readTables?] at h
      · split at h
        · cases h
        · split at h
          · cases h
          · next header _ _ _ _ hread =>
            split at h
            · next hplace =>
              refine ih (header.keepsDistinct_place? ?_ ht hplace) h
              exact Table.keepsDistinct_assignAll? (isDistinct_readAssignments? hread)
            · cases h
      · rintro ⟨⟩

/-- **No name stands twice in a table.** -/
theorem parse?_isDistinct {source : Text} {entries : Entries}
    (h : parse? source = some entries) : entries.IsDistinct := by
  unfold parse? at h
  simp only at h
  split at h
  · cases h
  · next assignments rest hread =>
    split at h
    · cases h
    · next document hassign =>
      obtain ⟨final, htables, rfl⟩ := Option.map_eq_some_iff.mp h
      have hdocument : document.IsDistinct :=
        Table.keepsDistinct_assignAll? (isDistinct_readAssignments? hread)
          (Table.isDistinct_empty _) hassign
      exact isDistinct_readTables? hdocument htables

end Statements

end ClickGen.Toml
