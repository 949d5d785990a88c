import ClickGen.Proofs.Field.Clash

/-!
Which fields have options.

A policy leaves out the fields of a type, or of a name for one purpose, and a choice without values
has no option under any policy. Main statement: the options of a command are those of all other
fields, in document order. What is selected is up to each field alone, so that the options of two
parts of a model stand one after the other, and ignoring more only takes options out. The columns
are not up to the policy at all.
-/

namespace ClickGen

namespace Policy

/-- The names that leave a field out of the options for a purpose. -/
def ignoredNames (policy : Policy) : Purpose → List Text
  | .create => policy.ignoredCreateNames
  | .update => policy.ignoredUpdateNames

/-- Neither the type nor the name of the field is ignored, and it is no choice without values. -/
structure Selects (policy : Policy) (purpose : Purpose) (e : Element) : Prop where
  type_notMem : ∀ type ∈ e.fieldType?, type ∉ policy.ignoredTypes
  name_notMem : e.name ∉ policy.ignoredNames purpose
  not_emptyChoice : ¬ ((Field.ofElement e).kind = .choice ∧ (Field.ofElement e).props.choices = [])

instance (policy : Policy) (purpose : Purpose) : DecidablePred (policy.Selects purpose) := fun e =>
  decidable_of_iff ((∀ type ∈ e.fieldType?, type ∉ policy.ignoredTypes) ∧
      e.name ∉ policy.ignoredNames purpose ∧
      ¬ ((Field.ofElement e).kind = .choice ∧ (Field.ofElement e).props.choices = []))
    ⟨fun ⟨htype, hname, hchoice⟩ => ⟨htype, hname, hchoice⟩,
      fun ⟨htype, hname, hchoice⟩ => ⟨htype, hname, hchoice⟩⟩

structure Extends (more less : Policy) : Prop where
  types : less.ignoredTypes ⊆ more.ignoredTypes
  names : ∀ purpose, less.ignoredNames purpose ⊆ more.ignoredNames purpose

lemma ignoresType_iff {policy : Policy} {type? : Option Text} :
    policy.ignoresType type? ↔ ∃ type ∈ type?, type ∈ policy.ignoredTypes := by
  cases type? <;> simp [ignoresType]

lemma skips_iff {policy : Policy} {purpose : Purpose} {name : Text} :
    policy.skips purpose name ↔ name ∈ policy.ignoredNames purpose := by
  cases purpose <;> simp [skips, skipsCreate, skipsUpdate, ignoredNames]

lemma isSome_option? {policy : Policy} {purpose : Purpose} {e : Element} :
    (Variables.option? policy purpose e).isSome ↔ policy.Selects purpose e := by
  rw [Option.isSome_iff_exists]
  simp only [Variables.option?_eq_some, exists_and_left, ← Option.isSome_iff_exists,
    Field.code?_isSome, ignoresType_iff, skips_iff]
  constructor
  · rintro ⟨htype, hname, hchoice⟩
    exact ⟨fun type hmem hignored => htype ⟨type, hmem, hignored⟩, hname, hchoice⟩
  · rintro ⟨htype, hname, hchoice⟩
    exact ⟨fun ⟨type, hmem, hignored⟩ => htype type hmem hignored, hname, hchoice⟩

lemma Selects.option?_eq {policy : Policy} {purpose : Purpose} {e : Element}
    (h : policy.Selects purpose e) :
    Variables.option? policy purpose e = (Field.ofElement e).code? purpose := by
  obtain ⟨code, hcode⟩ := Option.isSome_iff_exists.mp (isSome_option?.mpr h)
  rw [hcode, (Variables.option?_eq_some.mp hcode).2.2]

lemma Extends.selects {more less : Policy} (h : more.Extends less) {purpose : Purpose}
    {e : Element} (hmore : more.Selects purpose e) : less.Selects purpose e where
  type_notMem type hmem hignored := hmore.type_notMem type hmem (h.types hignored)
  name_notMem hname := hmore.name_notMem (h.names purpose hname)
  not_emptyChoice := hmore.not_emptyChoice

end Policy

namespace Variables

variable (root : Element) (policy : Policy) (spec : CommandSpec)

lemma map_options_derive (purpose : Purpose) :
    ((derive root policy spec).options purpose).map some =
      (root.children.filter (policy.Selects purpose)).map
        fun e => (Field.ofElement e).code? purpose := by
  have hselects : ∀ e ∈ root.children, (Option.isSome ∘ option? policy purpose) e =
      decide (policy.Selects purpose e) := by
    intro e _
    rw [Function.comp_apply, Bool.eq_iff_iff, decide_eq_true_eq, Policy.isSome_option?]
  have hcode : ∀ e ∈ root.children.filter (policy.Selects purpose),
      option? policy purpose e = (Field.ofElement e).code? purpose := by
    intro e he
    have hmem := List.mem_filter.mp he
    exact Policy.Selects.option?_eq (by simpa using hmem.2)
  rw [options_derive, List.map_filterMap_some_eq_filter_map_isSome, List.filter_map,
    List.filter_congr hselects, List.map_congr_left hcode]

lemma options_append (xs ys : List Element) (purpose : Purpose) :
    (derive { root with children := xs ++ ys } policy spec).options purpose =
      (derive { root with children := xs } policy spec).options purpose ++
        (derive { root with children := ys } policy spec).options purpose := by
  simp only [options_derive, List.filterMap_append]

lemma options_sublist {more less : Policy} (h : more.Extends less) (purpose : Purpose) :
    List.Sublist ((derive root more spec).options purpose)
      ((derive root less spec).options purpose) := by
  have hfilter : root.children.filter (more.Selects purpose) =
      (root.children.filter (less.Selects purpose)).filter (more.Selects purpose) := by
    rw [List.filter_filter]
    refine List.filter_congr fun e _ => ?_
    rw [Bool.eq_iff_iff, Bool.and_eq_true]
    simp only [decide_eq_true_eq]
    exact ⟨fun hmore => ⟨hmore, h.selects hmore⟩, And.left⟩
  have hsublist : List.Sublist (((derive root more spec).options purpose).map some)
      (((derive root less spec).options purpose).map some) := by
    rw [map_options_derive, map_options_derive, hfilter]
    exact List.filter_sublist.map _
  simpa using hsublist.filterMap id

/-- **The selection of a policy.** All fields are columns. The options for a purpose are those of
the fields that the policy selects, in document order. The columns and the options of two lists of
fields one after the other are those of the first and then those of the second, and a policy that
ignores more has the same columns and some of the same options in the same order. -/
theorem derive_selection :
    (derive root policy spec).columns = root.children.map Element.name ∧
      (∀ purpose, ((derive root policy spec).options purpose).map some =
        (root.children.filter (policy.Selects purpose)).map
          fun e => (Field.ofElement e).code? purpose) ∧
      (∀ xs ys,
        let whole := derive { root with children := xs ++ ys } policy spec
        let first := derive { root with children := xs } policy spec
        let second := derive { root with children := ys } policy spec
        whole.columns = first.columns ++ second.columns ∧
          ∀ purpose, whole.options purpose = first.options purpose ++ second.options purpose) ∧
      ∀ more : Policy, more.Extends policy →
        (derive root more spec).columns = (derive root policy spec).columns ∧
          ∀ purpose, List.Sublist ((derive root more spec).options purpose)
            ((derive root policy spec).options purpose) := by
  refine ⟨rfl, map_options_derive root policy spec, fun xs ys => ⟨?_, ?_⟩, fun more h => ⟨rfl, ?_⟩⟩
  · exact List.map_append
  · exact options_append root policy spec xs ys
  · exact options_sublist root spec h

/-- A type that is ignored by default, a name that is so for creating, a choice without values, and
two plain fields. -/
def selectedFields : Element :=
  { name := "m", children :=
      [{ name := "uuid", attributes := [("type", "UniqueIdField")] },
        { name := "mode", attributes := [("type", "OptionField")] }, { name := "name" },
        { name := "enabled", attributes := [("type", "BooleanField")] }, { name := "domains" }] }

/-- A policy that ignores one more type and one more name for each purpose. -/
def stricterPolicy : Policy where
  ignoredTypes := ["BooleanField", "UniqueIdField"]
  ignoredCreateNames := ["name", "uuid"]
  ignoredUpdateNames := ["domains"]

theorem derive_selection_sample :
    stricterPolicy.Extends {} ∧
      (∀ purpose, List.Sublist
        ((derive selectedFields stricterPolicy ⟨"g", "c", .core⟩).options purpose)
        ((derive selectedFields {} ⟨"g", "c", .core⟩).options purpose)) ∧
      ((derive selectedFields stricterPolicy ⟨"g", "c", .core⟩).options .update).length = 1 ∧
      ((derive selectedFields {} ⟨"g", "c", .core⟩).options .update).length = 3 := by
  have hextends : stricterPolicy.Extends {} := by
    refine ⟨by simp [stricterPolicy], fun purpose => ?_⟩
    cases purpose <;> simp [stricterPolicy, Policy.ignoredNames]
  obtain ⟨-, -, -, hmore⟩ := derive_selection selectedFields {} ⟨"g", "c", .core⟩
  exact ⟨hextends, (hmore stricterPolicy hextends).2, by decide, by decide⟩

end Variables

end ClickGen
