import ClickGen.Proofs.Field.Line
import ClickGen.Proofs.Field.Parameter
import ClickGen.Variables
import Mathlib.Data.List.Pairwise

/-!
Options that get in each other's way.

Two options of a command clash when they set the same parameter or share a flag, and an option
clashes with the command when it sets a parameter that the command has for itself. Fields have
different names, but the names of parameters are made from them with a loss. Main statements: when
exactly the options of a command are apart from each other, and which of them take a parameter of
the command.
-/

namespace ClickGen

open Code Decorator

/-- Whether a name leaves its field out of the options for a purpose. -/
def Policy.skips (policy : Policy) : Purpose → Text → Bool
  | .create => policy.skipsCreate
  | .update => policy.skipsUpdate

namespace Variables

def options (v : Variables) : Purpose → List Text
  | .create => v.createOptions
  | .update => v.updateOptions

def fields (root : Element) (policy : Policy) (purpose : Purpose) : List Field :=
  (root.children.filter fun e => (option? policy purpose e).isSome).map Field.ofElement

structure Declares (code : Text) (f : Field) : Prop where
  flags : ∃ more, declarations? code = some (List.intercalate ['/'] f.flags :: more)
  parameter : parameter? code = some (parameterName f.name)

lemma declares_of_code? {f : Field} {purpose : Purpose} {code : Text}
    (h : f.code? purpose = some code) : Declares code f where
  flags := by
    obtain ⟨more, hnames⟩ := f.exists_names
    exact ⟨more, by rw [Field.declarations?_code? h, hnames]⟩
  parameter := Field.parameter?_code? h

lemma option?_eq_some {policy : Policy} {purpose : Purpose} {e : Element} {code : Text} :
    option? policy purpose e = some code ↔
      ¬ policy.ignoresType e.fieldType? ∧ ¬ policy.skips purpose e.name ∧
        (Field.ofElement e).code? purpose = some code := by
  cases purpose <;> simp [option?, Policy.skips, and_assoc]

variable (root : Element) (policy : Policy) (spec : CommandSpec) (purpose : Purpose)

lemma options_derive : (derive root policy spec).options purpose =
    root.children.filterMap (option? policy purpose) := by
  cases purpose <;> rfl

lemma options_declare :
    List.Forall₂ Declares ((derive root policy spec).options purpose)
      (fields root policy purpose) := by
  rw [options_derive, fields]
  induction root.children with
  | nil => exact .nil
  | cons e rest ih =>
    cases h : option? policy purpose e with
    | none => simpa [h] using ih
    | some code =>
      have hcode := (option?_eq_some.mp h).2.2
      rw [List.filterMap_cons_some h, List.filter_cons_of_pos (by simp [h]), List.map_cons]
      exact .cons (declares_of_code? hcode) ih

lemma map_parameter? {codes : List Text} {fs : List Field} (h : List.Forall₂ Declares codes fs) :
    codes.map parameter? = fs.map fun f => some (parameterName f.name) := by
  induction h with
  | nil => rfl
  | cons hdeclares _ ih => rw [List.map_cons, List.map_cons, hdeclares.parameter, ih]

variable {root policy purpose}

lemma fields_nodup (h : (root.children.map Element.name).Nodup) :
    ((fields root policy purpose).map Field.name).Nodup := by
  rw [fields, List.map_map]
  exact h.sublist (List.filter_sublist.map _)

lemma pairwise_iff {fs : List Field} (h : (fs.map Field.name).Nodup) {R : Field → Field → Prop}
    (hR : ∀ f g, R f g → R g f) :
    fs.Pairwise R ↔ ∀ f ∈ fs, ∀ g ∈ fs, f.name ≠ g.name → R f g := by
  have hnames : fs.Pairwise fun f g => f.name ≠ g.name := List.pairwise_map.mp h
  constructor
  · intro hpair f hf g hg hne
    have hsymm : Std.Symm R := ⟨hR⟩
    exact hpair.forall hf hg fun heq => hne (heq ▸ rfl)
  · intro hall
    exact hnames.imp_of_mem fun hf hg hne => hall _ hf _ hg hne

/-- Two fields have a flag in common only if one of them is named as the negative of the other. -/
lemma flags_disjoint_iff {f g : Field} (hne : f.name ≠ g.name) :
    f.flags.Disjoint g.flags ↔
      (f.kind = .flag → g.name ≠ "no-" ++ f.name) ∧
        (g.kind = .flag → f.name ≠ "no-" ++ g.name) := by
  constructor
  · intro hdisjoint
    constructor
    · intro hkind heq
      have hg : "--no-" ++ f.name ∈ g.flags := Field.mem_flags.mpr (.inl (by simp [heq]))
      exact hdisjoint (Field.mem_flags.mpr (.inr ⟨hkind, rfl⟩)) hg
    · intro hkind heq
      have hf : "--no-" ++ g.name ∈ f.flags := Field.mem_flags.mpr (.inl (by simp [heq]))
      exact hdisjoint hf (Field.mem_flags.mpr (.inr ⟨hkind, rfl⟩))
  · rintro ⟨hfg, hgf⟩ s hs hs'
    rcases Field.mem_flags.mp hs with rfl | ⟨hkind, rfl⟩
    · rcases Field.mem_flags.mp hs' with heq | ⟨hkind, heq⟩
      · exact hne (List.append_cancel_left heq)
      · exact hgf hkind (by simpa using heq)
    · rcases Field.mem_flags.mp hs' with heq | ⟨-, heq⟩
      · exact hfg hkind (by simpa using heq.symm)
      · exact hne (List.append_cancel_left heq)

lemma nodup_parameters_iff {fs : List Field} (h : (fs.map Field.name).Nodup) :
    (fs.map fun f => some (parameterName f.name)).Nodup ↔
      ∀ f ∈ fs, ∀ g ∈ fs, f.name ≠ g.name → ¬ isIdentifier g.name →
        parameterName f.name ≠ fieldName g.name := by
  have hpairs : (fs.map fun f => some (parameterName f.name)).Nodup ↔
      fs.Pairwise fun f g => parameterName f.name ≠ parameterName g.name := by
    rw [List.Nodup, List.pairwise_map]
    simp
  rw [hpairs, pairwise_iff h fun f g hfg => hfg.symm]
  constructor
  · intro hall f hf g hg hne hname
    simpa [parameterName, hname] using hall f hf g hg hne
  -- Of two fields that clash, one has a name that is no identifier; it may be either of them.
  · intro hall f hf g hg hne
    by_cases hgname : isIdentifier g.name
    · by_cases hfname : isIdentifier f.name
      · simpa [parameterName, hfname, hgname] using hne
      · have hback := hall g hg f hf hne.symm hfname
        simpa [parameterName, hfname] using hback.symm
    · simpa [parameterName, hgname] using hall f hf g hg hne hgname

lemma flags_apart_iff {fs : List Field} (h : (fs.map Field.name).Nodup) :
    (fs.map Field.flags).Pairwise List.Disjoint ↔
      ∀ f ∈ fs, ∀ g ∈ fs, f.kind = .flag → g.name ≠ "no-" ++ f.name := by
  rw [List.pairwise_map, pairwise_iff h fun _ _ => List.disjoint_symm]
  constructor
  · intro hall f hf g hg hkind heq
    have hne : f.name ≠ g.name := by
      intro hsame
      have hlength := congrArg List.length (hsame.trans heq)
      simp only [List.length_append] at hlength
      have hthree : "no-".toList.length = 3 := rfl
      omega
    exact ((flags_disjoint_iff hne).mp (hall f hf g hg hne)).1 hkind heq
  · intro hall f hf g hg hne
    exact (flags_disjoint_iff hne).mpr ⟨hall f hf g hg, hall g hg f hf⟩

variable (policy purpose) in
/-- **When options are apart.** The options for a purpose declare the flags and set the parameters
of their fields. No two set the same parameter exactly when no identifier made from the name of a
field is the parameter of another field, and no two share a flag exactly when no field is named as
the negative of a flag. Where all names are identifiers, neither happens. -/
theorem options_apart (h : (root.children.map Element.name).Nodup) :
    let fs := fields root policy purpose
    let options := (derive root policy spec).options purpose
    List.Forall₂ Declares options fs ∧
      ((options.map parameter?).Nodup ↔
        ∀ f ∈ fs, ∀ g ∈ fs, f.name ≠ g.name → ¬ isIdentifier g.name →
          parameterName f.name ≠ fieldName g.name) ∧
      ((fs.map Field.flags).Pairwise List.Disjoint ↔
        ∀ f ∈ fs, ∀ g ∈ fs, f.kind = .flag → g.name ≠ "no-" ++ f.name) ∧
      ((∀ f ∈ fs, isIdentifier f.name) →
        (options.map parameter?).Nodup ∧ (fs.map Field.flags).Pairwise List.Disjoint) := by
  intro fs options
  have hdeclare := options_declare root policy spec purpose
  have hnames : (fs.map Field.name).Nodup := fields_nodup h
  have hparameters := nodup_parameters_iff hnames
  rw [← map_parameter? hdeclare] at hparameters
  have hflags := flags_apart_iff hnames
  refine ⟨hdeclare, hparameters, hflags, fun hall => ⟨hparameters.mpr ?_, hflags.mpr ?_⟩⟩
  · intro f hf g hg hne hname
    exact absurd (hall g hg) hname
  -- A negative has a dash in its name, which no identifier has.
  · intro f hf g hg hkind heq
    have hdash : '-' ∈ g.name := by simp [heq]
    exact absurd (continuesIdentifier_of_mem (hall g hg) hdash) (by decide)

/-- A flag, a name that is no identifier, and a field without an option. -/
def apartFields : Element :=
  { name := "m", children :=
      [{ name := "enabled", attributes := [("type", "BooleanField")] }, { name := "ssl.verify" },
        { name := "ssl_verify", attributes := [("type", "UniqueIdField")] }] }

theorem options_apart_sample :
    (apartFields.children.map Element.name).Nodup ∧
      (((derive apartFields {} ⟨"g", "c", .core⟩).options .create).map parameter?).Nodup ∧
      ((fields apartFields {} .create).map Field.flags).Pairwise List.Disjoint := by
  have hnames : (apartFields.children.map Element.name).Nodup := by decide
  obtain ⟨-, hparameters, hflags, -⟩ := options_apart {} ⟨"g", "c", .core⟩ .create hnames
  exact ⟨hnames, hparameters.mpr (by decide +kernel), hflags.mpr (by decide +kernel)⟩

/-- Two names with the same identifier, and a flag whose negative is the name of another field. -/
def clashingFields : Element :=
  { name := "m", children :=
      [{ name := "a.b" }, { name := "a_b" },
        { name := "x", attributes := [("type", "BooleanField")] }, { name := "no-x" }] }

theorem clashing_options :
    (clashingFields.children.map Element.name).Nodup ∧ ∀ purpose,
      ¬ (((derive clashingFields {} ⟨"g", "c", .core⟩).options purpose).map parameter?).Nodup ∧
        ¬ ((fields clashingFields {} purpose).map Field.flags).Pairwise List.Disjoint := by
  have hnames : (clashingFields.children.map Element.name).Nodup := by decide
  refine ⟨hnames, fun purpose => ⟨?_, ?_⟩⟩
  · cases purpose <;> decide +kernel
  · rw [flags_apart_iff (fields_nodup hnames)]
    cases purpose <;> decide +kernel

end Variables

/-! ### Clashes with the command -/

/-- The parameters that a command has without any field: its argument, and where its output goes. -/
def Purpose.ownParameters : Purpose → List Text
  | .create => ["name", "output"]
  | .update => ["uuid", "output"]

lemma isPlainWord_of_mem {purpose : Purpose} {p : Text} (h : p ∈ purpose.ownParameters) :
    isPlainWord p := by
  have hall : ∀ purpose : Purpose, purpose.ownParameters.all isPlainWord := by
    rintro (_ | _) <;> decide +kernel
  exact List.all_eq_true.mp (hall purpose) p h

lemma Policy.ignoresType_default (type? : Option Text) :
    ({} : Policy).ignoresType type? ↔ type? = some "UniqueIdField".toList := by
  cases type? <;> simp [ignoresType]

lemma Policy.skips_default (purpose : Purpose) (name : Text) :
    ({} : Policy).skips purpose name ↔ purpose = .create ∧ name = "name" := by
  cases purpose <;> simp [skips, skipsCreate, skipsUpdate]

namespace Variables

variable (root : Element) (spec : CommandSpec) (purpose : Purpose)

/-- **Which options take a parameter of the command.** Under the policy that applies by default, an
option sets a parameter that the command has for itself exactly when a field of that name has an
option at all: the field `name` has none for creating, and neither has a unique identifier nor a
choice without values. -/
theorem own_parameter_iff {p : Text} (hp : p ∈ purpose.ownParameters) :
    some p ∈ ((derive root {} spec).options purpose).map parameter? ↔
      ¬ (purpose = .create ∧ p = "name") ∧
        ∃ e ∈ root.children, e.name = p ∧ e.fieldType? ≠ some "UniqueIdField".toList ∧
          ¬ ((Field.ofElement e).kind = .choice ∧ (Field.ofElement e).props.choices = []) := by
  rw [map_parameter? (options_declare root {} spec purpose), List.mem_map]
  constructor
  · rintro ⟨f, hf, heq⟩
    obtain ⟨e, he, rfl⟩ := List.mem_map.mp hf
    obtain ⟨hmem, hsome⟩ := List.mem_filter.mp he
    obtain ⟨code, hoption⟩ := Option.isSome_iff_exists.mp hsome
    obtain ⟨htype, hskip, hcode⟩ := option?_eq_some.mp hoption
    have hname : e.name = p :=
      (parameterName_eq_iff (isPlainWord_of_mem hp)).mp (Option.some.inj heq)
    rw [Policy.skips_default, hname] at hskip
    rw [Policy.ignoresType_default] at htype
    exact ⟨hskip, e, hmem, hname, htype, Field.code?_isSome.mp (by rw [hcode]; rfl)⟩
  · rintro ⟨hskip, e, hmem, hname, htype, hchoice⟩
    have hsome : ((Field.ofElement e).code? purpose).isSome := Field.code?_isSome.mpr hchoice
    obtain ⟨code, hcode⟩ := Option.isSome_iff_exists.mp hsome
    have hoption : option? {} purpose e = some code := option?_eq_some.mpr
      ⟨by rwa [Policy.ignoresType_default], by rwa [Policy.skips_default, hname], hcode⟩
    have hfield : Field.ofElement e ∈ fields root {} purpose :=
      List.mem_map_of_mem (List.mem_filter.mpr ⟨hmem, by rw [hoption]; rfl⟩)
    have hparameter := (parameterName_eq_iff (isPlainWord_of_mem hp)).mpr hname
    exact ⟨Field.ofElement e, hfield, congrArg some hparameter⟩

/-- Fields with the names of all parameters that commands have for themselves. -/
def takenFields : Element :=
  { name := "m", children :=
      [{ name := "name" }, { name := "output" },
        { name := "uuid", attributes := [("type", "UniqueIdField")] }] }

theorem own_parameter_sample :
    "output".toList ∈ Purpose.create.ownParameters ∧
      some "output".toList ∈
        ((derive takenFields {} ⟨"g", "c", .core⟩).options .create).map parameter? ∧
      some "name".toList ∉
        ((derive takenFields {} ⟨"g", "c", .core⟩).options .create).map parameter? ∧
      some "uuid".toList ∉
        ((derive takenFields {} ⟨"g", "c", .core⟩).options .update).map parameter? := by
  have houtput : "output".toList ∈ Purpose.create.ownParameters := by decide
  have hname : "name".toList ∈ Purpose.create.ownParameters := by decide
  have huuid : "uuid".toList ∈ Purpose.update.ownParameters := by decide
  refine ⟨houtput, (own_parameter_iff takenFields ⟨"g", "c", .core⟩ .create houtput).mpr ?_, ?_, ?_⟩
  · decide +kernel
  · rw [own_parameter_iff takenFields ⟨"g", "c", .core⟩ .create hname]
    decide +kernel
  · rw [own_parameter_iff takenFields ⟨"g", "c", .core⟩ .update huuid]
    decide +kernel

theorem not_forall_own_parameter_free :
    ¬ ∀ root spec purpose, ∀ p ∈ Purpose.ownParameters purpose,
      some p ∉ ((derive root {} spec).options purpose).map parameter? := by
  intro h
  have hfree := h takenFields ⟨"g", "c", .core⟩ .create "output" (by decide)
  exact hfree (by decide +kernel)

end Variables

end ClickGen
