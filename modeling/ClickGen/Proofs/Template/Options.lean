import ClickGen.Proofs.Template.Stretch

/-!
The options in the module of a command.

The template of the module is three stretches with a loop after the first and after the second. What
the loops print are the options as they are, each with the end of a line behind it; nothing in an
option is taken for a part of the template, and none is left out, put twice or moved.
-/

namespace ClickGen

open Template

namespace Variables

lemma fieldsHeld_map (replaced : Text × Value → Bool) (t : Text) {fields : Frame}
    (h : Value.fieldsHeld fields) :
    Value.fieldsHeld (fields.map fun entry => if replaced entry then (entry.1, .text t) else entry)
    := by
  induction fields with
  | nil => rfl
  | cons entry fields ih =>
    simp only [Value.fieldsHeld, Bool.and_eq_true] at h
    rw [List.map_cons]
    split
    · have ht : (Value.text t).isHeld := rfl
      rw [Value.fieldsHeld, ht, ih h.2]
      rfl
    · rw [Value.fieldsHeld, h.1, ih h.2]
      rfl

/-- The variables under their names, with a text of its own in place of the list of columns. -/
def frameWith (v : Variables) (columnList : Text) : Frame :=
  v.frame.map fun entry =>
    if entry.1 == "column_list".toList then (entry.1, .text columnList) else entry

lemma frameWith_columnList (v : Variables) : v.frameWith v.columnList = v.frame := by
  rfl

variable (v : Variables) (columnList : Text)

lemma exists_lookup_frameWith {name : Text} (h : name ∈ textNames) :
    ∃ t, (v.frameWith columnList).lookup name = some (.text t) := by
  simp only [textNames, List.map_cons, List.map_nil, List.mem_cons, List.not_mem_nil,
    or_false] at h
  rcases h with rfl | rfl | rfl | rfl | rfl | rfl <;> exact ⟨_, rfl⟩

lemma fieldsHeld_frameWith : Value.fieldsHeld (v.frameWith columnList) :=
  fieldsHeld_map _ columnList v.fieldsHeld_frame

end Variables

/-! ### The template as three stretches -/

namespace Template

/-- The source of a loop that puts each item of a list on a line. -/
def optionLoop (name : Text) : Text :=
  "\x7b% for option in " ++ name ++ " -%\x7d\n\x7b\x7b option \x7d\x7d\n\x7b% endfor -%\x7d\n"

/-- Whether a template is made of three stretches that the variables of a command fill, with the
loops over its options between them, and the stretches begin and end where the parts of a command
do. -/
def isLaidOut (source : Text) : Bool :=
  match Text.cutAt? (optionLoop "click_options_create") source with
  | none => false
  | some (head, rest) =>
    match Text.cutAt? (optionLoop "click_options_update") rest with
    | none => false
    | some (middle, tail) =>
      slotsIn? source == some (stretch head ++ .each "click_options_create" ::
          (stretch middle ++ .each "click_options_update" :: stretch tail)) &&
        (stretch head).all Slot.isScalar && (stretch middle).all Slot.isScalar &&
        (stretch tail).all Slot.isScalar &&
        ("@click.argument('name')\n".toList.map Slot.char).isSuffixOf (stretch head) &&
        ("@click.option(\n    '--output'".toList.map Slot.char).isPrefixOf (stretch middle) &&
        ("@click.argument('uuid')\n".toList.map Slot.char).isSuffixOf (stretch middle) &&
        ("@click.option(\n    '--output'".toList.map Slot.char).isPrefixOf (stretch tail)

end Template

lemma Shipped.isLaidOut_command : isLaidOut command := by
  unfold command
  repeat rw [lines_cons]
  decide +kernel

namespace Variables

variable (v : Variables) (columnList : Text)

lemma fill?_options {name : Text} {options : List Text}
    (h : (v.frameWith columnList).lookup name = some (.list (options.map .text))) :
    (Slot.each name).fill? (v.frameWith columnList) = some (options.flatMap (· ++ ['\n'])) := by
  rw [Slot.fill?, h, Option.bind_some, itemsOf?, Option.map_some, List.flatMap_map]
  rfl

/-- A template that is laid out like this is filled stretch by stretch, with the options between. -/
lemma exists_fillAll?_of_isLaidOut {source : Text} (h : isLaidOut source) :
    ∃ head middle tail slots, source = head ++ optionLoop "click_options_create" ++ middle ++
        optionLoop "click_options_update" ++ tail ∧ slotsIn? source = some slots ∧
      ("@click.argument('name')\n".toList.map Slot.char) <:+ stretch head ∧
      ("@click.option(\n    '--output'".toList.map Slot.char) <+: stretch middle ∧
      ("@click.argument('uuid')\n".toList.map Slot.char) <:+ stretch middle ∧
      ("@click.option(\n    '--output'".toList.map Slot.char) <+: stretch tail ∧
      ∀ (v : Variables) (columnList : Text),
        fillAll? (v.frameWith columnList) slots =
          some (substitute (textOf (v.frameWith columnList)) head ++
            v.createOptions.flatMap (· ++ ['\n']) ++
            substitute (textOf (v.frameWith columnList)) middle ++
            v.updateOptions.flatMap (· ++ ['\n']) ++
            substitute (textOf (v.frameWith columnList)) tail) := by
  unfold isLaidOut at h
  split at h
  · cases h
  · next head rest hcreate =>
    split at h
    · cases h
    · next middle tail hupdate =>
      simp only [Bool.and_eq_true, beq_iff_eq, List.isPrefixOf_iff_prefix,
        List.isSuffixOf_iff_suffix] at h
      obtain ⟨⟨⟨⟨⟨⟨⟨hslots, hhead⟩, hmiddle⟩, htail⟩, hname⟩, hcreated⟩, huuid⟩, hupdated⟩ := h
      refine ⟨head, middle, tail, _, ?_, hslots, hname, hcreated, huuid, hupdated, ?_⟩
      · rw [Text.cutAt?_eq_some hcreate, Text.cutAt?_eq_some hupdate]
        simp only [List.append_assoc]
      · intro v columnList
        have htexts : ∀ name ∈ Variables.textNames,
            ∃ t, (v.frameWith columnList).lookup name = some (.text t) :=
          fun name hname => v.exists_lookup_frameWith columnList hname
        rw [fillAll?_append, fillAll?_stretch htexts hhead, fillAll?,
          v.fill?_options columnList rfl, fillAll?_append, fillAll?_stretch htexts hmiddle,
          fillAll?, v.fill?_options columnList rfl, fillAll?_stretch htexts htail]
        simp only [Option.bind_some, Option.map_some, List.append_assoc]

end Variables

/-- **Every option once, in order and as it is**: the module of a command is always rendered, to the
stretches of its template around the two loops with nothing but the variables in them replaced, and
between them the options for creating and for updating, each on lines of its own. The options stand
behind the argument of their command and before its own option for the output. All this is so
whatever text is given for the list of columns, with what is made from the columns as one case. -/
theorem Shipped.renderSource_command :
    ∃ head middle tail : Text,
      Shipped.command = head ++ optionLoop "click_options_create" ++ middle ++
        optionLoop "click_options_update" ++ tail ∧
      ∀ v : Variables, v.frameWith v.columnList = v.frame ∧ ∀ columnList : Text,
        let filled := substitute (textOf (v.frameWith columnList))
        (∀ path, renderSource path Shipped.command (v.frameWith columnList) =
          .ok (filled head ++ v.createOptions.flatMap (· ++ ['\n']) ++ filled middle ++
            v.updateOptions.flatMap (· ++ ['\n']) ++ filled tail)) ∧
        "@click.argument('name')\n".toList <:+ filled head ∧
        "@click.option(\n    '--output'".toList <+: filled middle ∧
        "@click.argument('uuid')\n".toList <:+ filled middle ∧
        "@click.option(\n    '--output'".toList <+: filled tail := by
  obtain ⟨head, middle, tail, slots, hsource, hslots, hname, hcreated, huuid, hupdated, hfill⟩ :=
    Variables.exists_fillAll?_of_isLaidOut Shipped.isLaidOut_command
  refine ⟨head, middle, tail, hsource, fun v => ⟨v.frameWith_columnList, fun columnList => ?_⟩⟩
  refine ⟨fun path => ?_, suffix_substitute hname _, prefix_substitute hcreated _,
    suffix_substitute huuid _, prefix_substitute hupdated _⟩
  rw [renderSource_eq hslots (v.fieldsHeld_frameWith columnList), hfill v columnList]

end ClickGen
