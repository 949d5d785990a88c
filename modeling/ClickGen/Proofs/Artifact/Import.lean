import ClickGen.Proofs.Artifact.Below
import ClickGen.Proofs.Template.Stretch

/-!
What the module of a command imports, and where the facade of the command is.

The import names the facade by the names that its path is made of, with points for slashes. Snake
case leaves no point in a name, so that the import is taken apart into the very names of the path.
-/

namespace ClickGen

open Template ClickGen.Path

namespace Template

def facadeImport : Text := Shipped.lines [
  "from opnsense_cli.facades.commands.\x7b\x7b module_type \x7d\x7d.\x7b\x7b click_group_module \x7d\x7d.\x7b\x7b click_command_module \x7d\x7d import \\",
  "    \x7b\x7b click_group | capitalize \x7d\x7d\x7b\x7b click_command | capitalize \x7d\x7dFacade"]

/-- Whether a template that the variables of every command fill has `part` at the beginning of one
of its lines, behind a stretch, and names `package` nowhere else. -/
def importsFrom (source package part : Text) : Bool :=
  match Text.cutAt? part source with
  | none => false
  | some (front, back) =>
    match slotsIn? source with
    | none => false
    | some slots =>
      (stretch front ++ stretch part).isPrefixOf slots && slots.all Variables.knows &&
        (stretch front).all Slot.isScalar && (stretch part).all Slot.isScalar &&
        (['\n'].map Slot.char).isSuffixOf (stretch front) &&
        (Text.cutAt? package front).isNone && (Text.cutAt? package back).isNone

lemma renderSource_of_importsFrom {source package part : Text} (h : importsFrom source package part)
    (v : Variables) :
    ∃ front back before after, source = front ++ part ++ back ∧ ¬ package <:+: front ∧
      ¬ package <:+: back ∧ ['\n'] <:+ before ∧ ∀ path, renderSource path source v.frame =
        .ok (before ++ substitute (textOf v.frame) part ++ after) := by
  unfold importsFrom at h
  split at h
  · cases h
  · next front back hcut =>
    split at h
    · cases h
    · next slots hslots =>
      simp only [Bool.and_eq_true, List.isPrefixOf_iff_prefix, List.isSuffixOf_iff_suffix,
        Option.isNone_iff_eq_none] at h
      obtain ⟨⟨⟨⟨⟨⟨⟨rest, hrest⟩, hknown⟩, hfront⟩, hpart⟩, hline⟩, hbefore⟩, hbehind⟩ := h
      have htexts : ∀ name ∈ Variables.textNames, ∃ t, v.frame.lookup name = some (.text t) :=
        fun name hname => v.exists_lookup_text hname
      obtain ⟨after, hafter⟩ : ∃ t, fillAll? v.frame rest = some t := by
        refine exists_fillAll? fun slot hslot => v.exists_fill? ?_
        exact List.all_eq_true.mp hknown slot (hrest ▸ List.mem_append_right _ hslot)
      refine ⟨front, back, substitute (textOf v.frame) front, after, Text.cutAt?_eq_some hcut,
        Text.cutAt?_eq_none hbefore, Text.cutAt?_eq_none hbehind,
        suffix_substitute hline _, fun path => ?_⟩
      rw [renderSource_eq hslots v.fieldsHeld_frame, ← hrest, fillAll?_append, fillAll?_append,
        fillAll?_stretch htexts hfront, fillAll?_stretch htexts hpart, hafter]
      rfl

end Template

lemma Shipped.importsFrom_command :
    importsFrom command "opnsense_cli.facades" facadeImport := by
  unfold command facadeImport
  repeat rw [lines_cons]
  rw [String.toList_ofList]
  decide +kernel

lemma substitute_facadeImport (value : Text → Text) : substitute value facadeImport =
    "from " ++ ("opnsense_cli.facades.commands." ++ (value "module_type" ++ '.' ::
      (value "click_group_module" ++ '.' :: value "click_command_module"))) ++
    " import \\\n    " ++ (Text.capitalize (value "click_group") ++
      Text.capitalize (value "click_command") ++ "Facade") ++ "\n" := by
  have hslots : stretch facadeImport =
      "from ".toList.map Slot.char ++ ("opnsense_cli.facades.commands.".toList.map Slot.char ++
        Slot.value "module_type" false :: Slot.char '.' :: Slot.value "click_group_module" false ::
        Slot.char '.' :: Slot.value "click_command_module" false ::
        (" import \\\n    ".toList.map Slot.char ++ Slot.value "click_group" true ::
        Slot.value "click_command" true ::
        ("Facade".toList.map Slot.char ++ "\n".toList.map Slot.char))) := by
    unfold facadeImport
    repeat rw [Shipped.lines_cons]
    repeat rw [String.toList_ofList]
    rfl
  have hplain (t : Text) : (t.map Slot.char).flatMap (Slot.print value) = t := by
    simp [List.flatMap_map, Slot.print]
  rw [substitute_eq, hslots]
  simp only [List.flatMap_append, List.flatMap_cons, hplain, Slot.print, List.append_assoc,
    List.cons_append, List.nil_append, if_true, Bool.false_eq_true, if_false]

namespace Variables

def facadeModule (v : Variables) : Text :=
  "opnsense_cli.facades.commands." ++ (v.moduleType.label ++ '.' ::
    (v.groupModule ++ '.' :: v.commandModule))

def facadeClass (v : Variables) : Text :=
  Text.capitalize v.group ++ Text.capitalize v.command ++ "Facade"

def importLine (v : Variables) : Text :=
  "from " ++ v.facadeModule ++ " import \\\n    " ++ v.facadeClass ++ "\n"

lemma substitute_eq_importLine {v : Variables} {value : Text → Text}
    (hmodule : value "module_type" = v.moduleType.label)
    (hgroupModule : value "click_group_module" = v.groupModule)
    (hcommandModule : value "click_command_module" = v.commandModule)
    (hgroup : value "click_group" = v.group) (hcommand : value "click_command" = v.command) :
    substitute value facadeImport = v.importLine := by
  unfold importLine facadeModule facadeClass
  rw [substitute_facadeImport, hmodule, hgroupModule, hcommandModule, hgroup, hcommand]

lemma substitute_importLine (v : Variables) :
    substitute (textOf v.frame) facadeImport = v.importLine :=
  substitute_eq_importLine rfl rfl rfl rfl rfl

/-! ### The path of the artifacts -/

variable {root : Element} {policy : Policy} {spec : CommandSpec}

lemma relativePath_eq (hgroup : spec.group ≠ []) (hgroup' : '/' ∉ spec.group)
    (hcommand : '/' ∉ spec.command) :
    (derive root policy spec).relativePath =
      Text.snake spec.group ++ '/' :: (Text.snake spec.command ++ ".py") := by
  have hfile : ¬ isAbsolute (Text.snake spec.command ++ ".py") := by
    rw [isAbsolute_iff]
    intro hhead
    rcases List.mem_append.mp (List.mem_of_mem_head? hhead) with hslash | hslash
    · exact Text.slash_notMem_snake hcommand hslash
    · exact absurd hslash (by decide)
  rcases join_cases (Text.snake spec.group) hfile with ⟨hempty, -⟩ | ⟨-, front, hfront, hjoin⟩
  · exact absurd hempty (Text.snake_ne_nil hgroup)
  · rcases hfront with hfront | hfront
    · rw [relativePath, derive, hjoin, hfront]
    · exact absurd (hfront ▸ by simp) (Text.slash_notMem_snake hgroup')

lemma opening_relativePath (hgroup : '/' ∉ spec.group) (hcommand : '/' ∉ spec.command) :
    opening (derive root policy spec).relativePath = [] := by
  refine (isPlain_relativePath root policy spec).opening_eq ?_
  rw [isAbsolute_relativePath]
  rintro (hhead | hhead)
  · exact hgroup (List.mem_of_mem_head? hhead)
  · exact hcommand (List.mem_of_mem_head? hhead)

lemma components_relativePath (hgroup : spec.group ≠ []) (hgroup' : '/' ∉ spec.group)
    (hcommand : '/' ∉ spec.command) :
    components (derive root policy spec).relativePath =
      [.name (Text.snake spec.group), .name (Text.snake spec.command ++ ".py")] := by
  have hplain := isPlain_relativePath root policy spec
  have hfile : '/' ∉ Text.snake spec.command ++ ".py" := by
    intro hslash
    rcases List.mem_append.mp hslash with hslash | hslash
    · exact Text.slash_notMem_snake hcommand hslash
    · exact absurd hslash (by decide)
  have hparts : Text.splitOn '/' (derive root policy spec).relativePath =
      [Text.snake spec.group, Text.snake spec.command ++ ".py"] := by
    rw [relativePath_eq hgroup hgroup' hcommand,
      Text.splitOn_append (Text.slash_notMem_snake hgroup'), Text.splitOn_of_notMem hfile]
  -- Neither part is empty or a row of dots, so that both are names.
  have hname (part : Text) (hne : part ≠ [])
      (hpart : part ∈ Text.splitOn '/' (derive root policy spec).relativePath) :
      Component.ofPart? part = some (.name part) := by
    rw [Component.ofPart?, if_neg, if_neg (hplain part hpart).2]
    exact not_or.mpr ⟨hne, (hplain part hpart).1⟩
  have hfirst := hname (Text.snake spec.group) (Text.snake_ne_nil hgroup) (by simp [hparts])
  have hsecond := hname (Text.snake spec.command ++ ".py") (by simp) (by simp [hparts])
  rw [components, opening_relativePath hgroup' hcommand, hparts, List.filterMap_cons_some hfirst,
    List.filterMap_cons_some hsecond]
  rfl

lemma splitOn_facadeModule (v : Variables) (hgroup : '.' ∉ v.groupModule)
    (hcommand : '.' ∉ v.commandModule) : Text.splitOn '.' v.facadeModule =
      ["opnsense_cli".toList, "facades".toList, "commands".toList, v.moduleType.label,
        v.groupModule, v.commandModule] := by
  have hpackage : "opnsense_cli.facades.commands.".toList =
      "opnsense_cli".toList ++ '.' :: ("facades".toList ++ '.' :: ("commands".toList ++ ['.'])) :=
    rfl
  have hlabel : '.' ∉ v.moduleType.label := by
    cases v.moduleType <;> decide
  unfold facadeModule
  rw [hpackage]
  simp only [List.append_assoc, List.cons_append, List.nil_append]
  rw [Text.splitOn_append (by decide), Text.splitOn_append (by decide),
    Text.splitOn_append (by decide), Text.splitOn_append hlabel, Text.splitOn_append hgroup,
    Text.splitOn_of_notMem hcommand]

/-- **The import names the file.** For names without a slash, the path of both artifacts is the
module name of the group, a slash, the module name of the command and `.py`, and below any directory
it leads through these two names. The module of the command, rendered from a file that holds the
template, imports the facade by these names too, and nothing in them is a point, so that the import
is cut apart into them again. -/
theorem import_names_file (hgroup : spec.group ≠ []) (hgroup' : '/' ∉ spec.group)
    (hcommand : '/' ∉ spec.command) (root : Element) (policy : Policy) :
    let v := derive root policy spec
    v.relativePath = v.groupModule ++ '/' :: (v.commandModule ++ ".py") ∧
      (∀ files directory template kind a,
        Artifact.render files directory template kind v = .ok a →
          a.kind = kind ∧ a.relativePath = v.relativePath ∧
          ∀ output, components (a.path output) =
            components output ++ [.name v.groupModule, .name (v.commandModule ++ ".py")]) ∧
      (∃ front back before after, Shipped.command = front ++ facadeImport ++ back ∧
        ¬ "opnsense_cli.facades".toList <:+: front ∧ ¬ "opnsense_cli.facades".toList <:+: back ∧
        ['\n'] <:+ before ∧
        (∀ path, renderSource path Shipped.command v.frame =
          .ok (before ++ v.importLine ++ after)) ∧
        ∀ (files : FileTree) (directory template : Text),
          files.readText (Text.toUtf8 (join directory template)) = .ok Shipped.command →
            Artifact.render files directory template .command v =
              .ok ⟨.command, v.relativePath, before ++ v.importLine ++ after⟩) ∧
      '.' ∉ v.groupModule ∧ '.' ∉ v.commandModule ∧
      Text.splitOn '.' v.facadeModule = ["opnsense_cli".toList, "facades".toList,
        "commands".toList, v.moduleType.label, v.groupModule, v.commandModule] := by
  intro v
  have hgroupModule : '.' ∉ v.groupModule := Text.separator_notMem_snake rfl spec.group
  have hcommandModule : '.' ∉ v.commandModule := Text.separator_notMem_snake rfl spec.command
  have hcomponents : components v.relativePath = _ :=
    components_relativePath hgroup hgroup' hcommand
  refine ⟨relativePath_eq hgroup hgroup' hcommand, ?_, ?_, hgroupModule, hcommandModule,
    v.splitOn_facadeModule hgroupModule hcommandModule⟩
  · intro files directory template kind a ha
    obtain ⟨content, -, hmade⟩ := bind_eq_ok.mp ha
    cases hmade
    refine ⟨rfl, rfl, fun output => ?_⟩
    rw [Artifact.path, components_join output (opening_relativePath hgroup' hcommand), hcomponents]
    rfl
  · obtain ⟨front, back, before, after, hsource, hfront, hback, hline, hrender⟩ :=
      renderSource_of_importsFrom Shipped.importsFrom_command v
    rw [v.substitute_importLine] at hrender
    refine ⟨front, back, before, after, hsource, hfront, hback, hline, hrender,
      fun files directory template hfile => ?_⟩
    rw [Artifact.render, renderFile]
    simp only [hfile, hrender]
    rfl

/-- A tree with the template of a command in the file `t`. -/
def templateFiles : FileTree where
  entries := [([Text.toUtf8 "t"], .file (Text.toUtf8 Shipped.command))]

lemma readText_templateFiles :
    templateFiles.readText (Text.toUtf8 (join "." "t")) = .ok Shipped.command := by
  have hread : templateFiles.read (Text.toUtf8 (join "." "t")) =
      .ok (Text.toUtf8 Shipped.command) := by rfl
  have hall : Shipped.command.all (·.toNat < 0x80) := by
    unfold Shipped.command
    repeat rw [Shipped.lines_cons]
    decide +kernel
  have hascii (c : Char) (hc : c ∈ Shipped.command) : c.toNat < 0x80 :=
    of_decide_eq_true (List.all_eq_true.mp hall c hc)
  refine bind_eq_ok.mpr ⟨_, hread, ?_⟩
  rw [Text.ofUtf8_ascii hascii]
  rfl

/-- Names in mixed case, which the path and the import have in snake case. -/
theorem import_names_file_sample :
    ("haProxy".toList ≠ [] ∧ '/' ∉ "haProxy".toList ∧ '/' ∉ "linkedServer".toList) ∧
      let v := derive { name := "m" } {} ⟨"haProxy", "linkedServer", .plugin⟩
      v.relativePath = "ha_proxy/linked_server.py" ∧
        (∃ before after, Artifact.render templateFiles "." "t" .command v =
          .ok ⟨.command, v.relativePath, before ++ v.importLine ++ after⟩) ∧
        v.importLine = "from opnsense_cli.facades.commands.plugin.ha_proxy.linked_server" ++
          " import \\\n    HaProxyLinkedServerFacade\n" ∧
        Text.splitOn '.' v.facadeModule = ["opnsense_cli".toList, "facades".toList,
          "commands".toList, "plugin".toList, "ha_proxy".toList, "linked_server".toList] := by
  have hgroup : "haProxy".toList ≠ [] := by decide
  have hgroup' : '/' ∉ "haProxy".toList := by decide
  have hcommand : '/' ∉ "linkedServer".toList := by decide
  obtain ⟨hpath, -, ⟨_, _, before, after, -, -, -, -, -, hrender⟩, -, -, hparts⟩ :=
    @import_names_file ⟨"haProxy", "linkedServer", .plugin⟩ hgroup hgroup' hcommand
      { name := "m" } {}
  have hgroupModule : Text.snake "haProxy" = "ha_proxy".toList := by decide +kernel
  have hcommandModule : Text.snake "linkedServer" = "linked_server".toList := by decide +kernel
  refine ⟨⟨hgroup, hgroup', hcommand⟩, ?_,
    ⟨before, after, hrender _ _ _ readText_templateFiles⟩, ?_, ?_⟩
  · rw [hpath]
    simp only [derive, hgroupModule, hcommandModule]
    rfl
  · decide +kernel
  · rw [hparts]
    simp only [derive, hgroupModule, hcommandModule]
    rfl

end Variables

end ClickGen
