import ClickGen.Proofs.Field.Line

/-!
The two options of a field.

A field has an option for creating an entry and one for updating it, or neither. The two are the
same but for what an update leaves open. `updateSource` is an edit of source text: it drops the
lines that show the default and that ask for a value, puts `None` on the line of the default, and
keeps every other line. Main statement: the edit makes the option for updating out of the one for
creating, whatever texts of the model stand in its lines.
-/

namespace ClickGen

open Code Decorator

namespace Decorator

def purposeKeywords : List Text := ["show_default", "default", "required"]

/-- A line that does not depend on what the option is for. -/
def isShared (line : Text) : Bool := (argument? line).all fun a => !purposeKeywords.contains a.1

/-- What is left of a line in the option that updates. -/
def updated? (line : Text) : Option Text :=
  if isShared line then some line
  else if (argument? line).any fun a => a.1 == ("default" : Text) then some "    default=None,"
  else none

def updateSource (source : Text) : Text :=
  List.intercalate ['\n'] ((Text.splitOn '\n' source).filterMap updated?)

lemma updated?_of_isShared {line : Text} (h : isShared line) : updated? line = some line := by
  rw [updated?, if_pos h]

lemma isShared_of_updated? {line line' : Text} (h : updated? line = some line') :
    isShared line' = isShared line := by
  rw [updated?] at h
  split at h
  · rw [Option.some.inj h]
  · next hshared =>
    split at h
    · obtain rfl := Option.some.inj h
      rw [Bool.not_eq_true] at hshared
      rw [hshared]
      decide
    · cases h

lemma filter_isShared_updated (lines : List Text) :
    (lines.filterMap updated?).filter isShared = lines.filter isShared := by
  induction lines with
  | nil => rfl
  | cons line lines ih =>
    by_cases h : isShared line
    · rw [List.filterMap_cons_some (updated?_of_isShared h), List.filter_cons_of_pos h,
        List.filter_cons_of_pos h, ih]
    · rw [List.filter_cons_of_neg h, ← ih]
      cases hline : updated? line with
      | none => rw [List.filterMap_cons_none hline]
      | some line' =>
        rw [← isShared_of_updated? hline] at h
        rw [List.filterMap_cons_some hline, List.filter_cons_of_neg h]

lemma isShared_body {d : Decorator} (h : ∀ a ∈ d.arguments, a.1 ∈ keywords)
    (hshared : ∀ a ∈ d.arguments, a.1 ∉ purposeKeywords) :
    ∀ line ∈ d.items.map body, isShared line := by
  intro line hline
  obtain ⟨item, hitem, rfl⟩ := List.mem_map.mp hline
  rcases List.mem_append.mp hitem with hname | hargument
  · obtain ⟨name, -, rfl⟩ := List.mem_map.mp hname
    rw [isShared, argument?_literal, Option.all_none]
  · obtain ⟨a, ha, rfl⟩ := List.mem_map.mp hargument
    rw [isShared, argument?_body (all_continuesIdentifier_of_mem_keywords (h a ha)) a.2]
    simpa using hshared a ha

lemma updated?_body {key : Text} (h : key ∈ purposeKeywords) (value : Text) :
    updated? (body (argumentSource (key, value))) =
      if key = "default" then some ("    default=None," : Text) else none := by
  have hall : purposeKeywords.all fun key => key.all continuesIdentifier := by decide
  have hcontains : purposeKeywords.contains key := List.contains_iff_mem.mpr h
  rw [updated?, isShared, argument?_body (List.all_eq_true.mp hall key h) value, Option.all_some,
    Option.any_some, hcontains, Bool.not_true, if_neg Bool.false_ne_true]
  simp only [beq_iff_eq]

lemma filterMap_updated {lines : List Text} (h : ∀ line ∈ lines, isShared line) :
    lines.filterMap updated? = lines := by
  rw [List.filterMap_congr fun line hline => updated?_of_isShared (h line hline),
    List.filterMap_some]

lemma map_body_items_append (d : Decorator) (arguments : List (Text × Text)) :
    (⟨d.names, d.arguments ++ arguments⟩ : Decorator).items.map body =
      d.items.map body ++ (arguments.map argumentSource).map body := by
  simp [items]

end Decorator

namespace Field

variable (f : Field)

/-- The option without what depends on its purpose. -/
def shared? : Option Decorator :=
  f.kindArguments?.map fun arguments => ⟨f.names, ("help", literal f.help) :: arguments⟩

lemma exists_shared {f : Field} {purpose : Purpose} {d : Decorator}
    (h : f.decorator? purpose = some d) :
    ∃ shared, f.shared? = some shared ∧
      d = ⟨shared.names, shared.arguments ++ f.purposeArguments purpose⟩ := by
  obtain ⟨arguments, hkind, rfl⟩ := Option.map_eq_some_iff.mp h
  exact ⟨_, by rw [shared?, hkind, Option.map_some], rfl⟩

lemma notMem_purposeKeywords {f : Field} {shared : Decorator} (h : f.shared? = some shared) :
    ∀ a ∈ shared.arguments, a.1 ∉ purposeKeywords := by
  obtain ⟨arguments, hkind, rfl⟩ := Option.map_eq_some_iff.mp h
  have hkeys : (arguments.map Prod.fst).all (!purposeKeywords.contains ·) := by
    unfold kindArguments? at hkind
    cases hk : f.kind with
    | choice =>
      simp only [hk] at hkind
      split at hkind
      · cases hkind
      · obtain rfl := Option.some.inj hkind
        split <;> rfl
    | _ =>
      simp only [hk] at hkind
      obtain rfl := Option.some.inj hkind
      rfl
  intro a ha
  rcases List.mem_cons.mp ha with rfl | ha
  · exact fun hhelp => absurd hhelp (by decide : "help".toList ∉ purposeKeywords)
  · simpa using List.all_eq_true.mp hkeys a.1 (List.mem_map_of_mem ha)

lemma filterMap_updated_purpose :
    (((f.purposeArguments .create).map argumentSource).map body).filterMap updated? =
      ((f.purposeArguments .update).map argumentSource).map body := by
  have hshow := @updated?_body "show_default" (by decide) "True"
  have hdefault := @updated?_body "default" (by decide) f.createDefault
  have hrequired := @updated?_body "required" (by decide) (Code.boolean f.isRequired)
  rw [if_neg (by decide)] at hshow hrequired
  rw [if_pos rfl] at hdefault
  rw [purposeArguments, purposeArguments, List.map_cons, List.map_cons, List.map_cons,
    List.map_cons, List.map_cons, List.map_cons, List.filterMap_cons_none hshow,
    List.filterMap_cons_some hdefault, List.filterMap_cons_none hrequired]
  rfl

/-- The lines of the option that updates, out of those of the option that creates. -/
lemma splitOn_update {create update : Text} (hcreate : f.code? .create = some create)
    (hupdate : f.code? .update = some update) :
    Text.splitOn '\n' update = (Text.splitOn '\n' create).filterMap updated? := by
  obtain ⟨d, hd, rfl⟩ := Option.map_eq_some_iff.mp hcreate
  obtain ⟨e, he, rfl⟩ := Option.map_eq_some_iff.mp hupdate
  rw [splitOn_code hd, splitOn_code he]
  obtain ⟨shared, hshared, rfl⟩ := exists_shared hd
  obtain ⟨shared', hshared', rfl⟩ := exists_shared he
  obtain rfl : shared = shared' := Option.some.inj (hshared.symm.trans hshared')
  have hlines : ∀ line ∈ shared.items.map body, isShared line :=
    isShared_body (fun a ha => mem_keywords hd a (List.mem_append_left _ ha))
      (notMem_purposeKeywords hshared)
  have hopening : updated? "@click.option(".toList = some "@click.option(".toList := by decide
  have hclosing : updated? [')'] = some [')'] := by decide
  rw [map_body_items_append, map_body_items_append, List.filterMap_cons_some hopening,
    List.filterMap_append, List.filterMap_append, filterMap_updated hlines,
    filterMap_updated_purpose, List.filterMap_cons_some hclosing, List.filterMap_nil]

lemma filter_argumentsOf {purpose : Purpose} {code : Text} (h : f.code? purpose = some code) :
    (argumentsOf code).filter (fun a => purposeKeywords.contains a.1) =
      f.purposeArguments purpose := by
  obtain ⟨d, hd, rfl⟩ := Option.map_eq_some_iff.mp h
  rw [argumentsOf_render hd]
  obtain ⟨shared, hshared, rfl⟩ := exists_shared hd
  have hnone : shared.arguments.filter (fun a => purposeKeywords.contains a.1) = [] := by
    refine List.filter_eq_nil_iff.mpr fun a ha => ?_
    simpa using notMem_purposeKeywords hshared a ha
  have hall : (f.purposeArguments purpose).filter (fun a => purposeKeywords.contains a.1) =
      f.purposeArguments purpose := by
    cases purpose <;> rfl
  rw [List.filter_append, hnone, hall, List.nil_append]

lemma lookup_default {code : Text} (h : f.code? .create = some code) :
    (argumentsOf code).lookup "default".toList = some f.createDefault := by
  obtain ⟨d, hd, rfl⟩ := Option.map_eq_some_iff.mp h
  rw [argumentsOf_render hd]
  obtain ⟨shared, hshared, rfl⟩ := exists_shared hd
  have hnone : shared.arguments.lookup "default".toList = none := by
    refine List.lookup_eq_none_iff.mpr fun a ha => ?_
    have hkey := notMem_purposeKeywords hshared a ha
    rw [bne_iff_ne]
    intro heq
    rw [← heq] at hkey
    exact hkey (by decide)
  rw [List.lookup_append, hnone, Option.none_or]
  rfl

lemma isRequired_iff :
    f.isRequired ↔ f.props.required ∧ f.props.default? = none ∧ f.kind ≠ .flag := by
  simp only [isRequired, Bool.and_eq_true, bne_iff_ne, Option.isNone_iff_eq_none]
  tauto

lemma required_mem_argumentsOf {code : Text} (h : f.code? .create = some code) :
    ("required".toList, "True".toList) ∈ argumentsOf code ↔ f.isRequired := by
  have hkey : purposeKeywords.contains "required".toList := by decide
  have hpurpose : ("required".toList, "True".toList) ∈ argumentsOf code ↔
      ("required".toList, "True".toList) ∈ f.purposeArguments .create := by
    rw [← filter_argumentsOf f h, List.mem_filter]
    exact ⟨fun hmem => ⟨hmem, hkey⟩, fun hmem => hmem.1⟩
  have hshow : ("required".toList, "True".toList) ≠ ("show_default".toList, "True".toList) := by
    decide
  have hdefault : ("required".toList, "True".toList) ≠ ("default".toList, f.createDefault) :=
    fun heq => absurd (congrArg Prod.fst heq) (by decide : "required".toList ≠ "default".toList)
  rw [hpurpose, purposeArguments, List.mem_cons, List.mem_cons, List.mem_singleton,
    or_iff_right hshow, or_iff_right hdefault]
  cases f.isRequired <;> decide

/-- **Creating and updating.** A field has both options or none, and none only as a choice without
values. The option for updating is the edited source of the one for creating: all lines that do not
depend on the purpose are the same in both, a value is asked for only when creating, where the model
wants one and has no default, and an update starts from `None`. -/
theorem code?_update :
    f.code? .update = (f.code? .create).map updateSource ∧
      (∀ purpose, f.code? purpose = none ↔ f.kind = .choice ∧ f.props.choices = []) ∧
      ∀ create update, f.code? .create = some create → f.code? .update = some update →
        (Text.splitOn '\n' update).filter isShared = (Text.splitOn '\n' create).filter isShared ∧
        (("required".toList, "True".toList) ∈ argumentsOf create ↔
          f.props.required ∧ f.props.default? = none ∧ f.kind ≠ .flag) ∧
        (argumentsOf update).filter (fun a => purposeKeywords.contains a.1) =
          [("default".toList, "None".toList)] := by
  have hnone : ∀ purpose, f.code? purpose = none ↔ f.kind = .choice ∧ f.props.choices = [] := by
    intro purpose
    rw [← not_iff_not, ← @code?_isSome f purpose, Option.isSome_iff_ne_none]
  refine ⟨?_, hnone, fun create update hcreate hupdate => ⟨?_, ?_, ?_⟩⟩
  · cases hcreate : f.code? .create with
    | none => rw [Option.map_none, hnone, ← hnone .create, hcreate]
    | some create =>
      cases hupdate : f.code? .update with
      | none =>
        rw [hnone, ← hnone .create, hcreate] at hupdate
        cases hupdate
      | some update =>
        rw [Option.map_some, updateSource, ← f.splitOn_update hcreate hupdate,
          Text.intercalate_splitOn]
  · rw [f.splitOn_update hcreate hupdate, filter_isShared_updated]
  · rw [f.required_mem_argumentsOf hcreate, isRequired_iff]
  · exact filter_argumentsOf f hupdate

/-- A field with the lines of an option in its name. -/
def lookalike : Field :=
  ⟨"x',\n    required=True,\n    default='", .integer, { default? := some "7", required := true }⟩

theorem code?_update_lookalike :
    ∃ create update, lookalike.code? .create = some create ∧
      lookalike.code? .update = some update ∧
      (Text.splitOn '\n' update).filter isShared = (Text.splitOn '\n' create).filter isShared ∧
      ("required".toList, "True".toList) ∉ argumentsOf create := by
  obtain ⟨-, hnone, hsame⟩ := code?_update lookalike
  have hkind : ¬ (lookalike.kind = .choice ∧ lookalike.props.choices = []) := by decide
  obtain ⟨create, hcreate⟩ :=
    Option.ne_none_iff_exists'.mp fun h => hkind ((hnone .create).mp h)
  obtain ⟨update, hupdate⟩ :=
    Option.ne_none_iff_exists'.mp fun h => hkind ((hnone .update).mp h)
  obtain ⟨hshared, hrequired, -⟩ := hsame create update hcreate hupdate
  refine ⟨create, update, hcreate, hupdate, hshared, ?_⟩
  rw [hrequired]
  decide

end Field

end ClickGen
