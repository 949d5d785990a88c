import ClickGen.Model
import ClickGen.Proofs.Code.ListLiteral
import ClickGen.Proofs.Element.Preorder
import ClickGen.Proofs.Except
import ClickGen.Proofs.Template.Slot
import ClickGen.Shipped

/-!
The columns of a command in its two artifacts.

Both templates that come with the program are rows of slots that the variables of a command always
fill, and each has a line for the list of columns. What is rendered there is one and the same text,
a list of literals that reads back as the names of all fields of the model.
-/

namespace ClickGen

namespace Text

lemma after?_eq_some {mark s rest : Text} (h : after? mark s = some rest) : s = mark ++ rest := by
  unfold after? at h
  split at h
  · next hprefix =>
    obtain ⟨tail, rfl⟩ := List.isPrefixOf_iff_prefix.mp hprefix
    cases h
    simp
  · cases h

lemma cutAt?_eq_some {mark s front back : Text} (h : cutAt? mark s = some (front, back)) :
    s = front ++ mark ++ back := by
  induction s generalizing front with
  | nil =>
    rw [cutAt?] at h
    split at h
    · next hmark =>
      cases h
      simp [hmark]
    · cases h
  | cons c s ih =>
    rw [cutAt?] at h
    split at h
    · next tail hafter =>
      cases h
      simpa using after?_eq_some hafter
    · obtain ⟨cut, hcut, heq⟩ := Option.map_eq_some_iff.mp h
      cases heq
      rw [ih hcut]
      rfl

lemma after?_eq_none {mark s : Text} (h : after? mark s = none) : ¬ mark <+: s := by
  unfold after? at h
  split at h
  · cases h
  · next hprefix => exact fun hp => hprefix (List.isPrefixOf_iff_prefix.mpr hp)

lemma cutAt?_eq_none {mark s : Text} (h : cutAt? mark s = none) : ¬ mark <:+: s := by
  induction s with
  | nil =>
    rw [cutAt?] at h
    split at h
    · cases h
    · next hmark => simpa using hmark
  | cons c s ih =>
    rw [cutAt?] at h
    split at h
    · cases h
    · next hafter =>
      rw [List.infix_cons_iff]
      rintro (hp | hrest)
      · exact after?_eq_none hafter hp
      · exact ih (Option.map_eq_none_iff.mp h) hrest

end Text

open Template

namespace Variables

variable (v : Variables)

def textNames : List Text :=
  ["click_group", "click_command", "click_group_module", "click_command_module", "column_list",
    "module_type"].map String.toList

def listNames : List Text :=
  ["click_options_create", "click_options_update", "column_names"].map String.toList

lemma exists_lookup_text {name : Text} (h : name ∈ textNames) :
    ∃ t, v.frame.lookup name = some (.text t) := by
  simp only [textNames, List.map_cons, List.map_nil, List.mem_cons, List.not_mem_nil,
    or_false] at h
  rcases h with rfl | rfl | rfl | rfl | rfl | rfl <;> exact ⟨_, rfl⟩

lemma exists_lookup_list {name : Text} (h : name ∈ listNames) :
    ∃ items, v.frame.lookup name = some (.list items) := by
  simp only [listNames, List.map_cons, List.map_nil, List.mem_cons, List.not_mem_nil,
    or_false] at h
  rcases h with rfl | rfl | rfl <;> exact ⟨_, rfl⟩

lemma areHeld_text (ts : List Text) : Value.areHeld (ts.map .text) := by
  induction ts with
  | nil => rfl
  | cons t ts ih => simpa [Value.areHeld, Value.isHeld] using ih

lemma fieldsHeld_frame : Value.fieldsHeld v.frame := by
  simp [frame, Value.fieldsHeld, Value.isHeld, areHeld_text]

/-- A slot that the variables of every command can fill. -/
def knows : Slot → Bool
  | .char _ => true
  | .value name _ => textNames.contains name
  | .each name => listNames.contains name

lemma exists_fill? {slot : Slot} (h : knows slot) : ∃ t, slot.fill? v.frame = some t := by
  cases slot with
  | char c => exact ⟨[c], rfl⟩
  | value name capital =>
    obtain ⟨t, ht⟩ := v.exists_lookup_text (List.contains_iff_mem.mp h)
    exact ⟨_, by rw [Slot.fill?, ht]; rfl⟩
  | each name =>
    obtain ⟨items, hitems⟩ := v.exists_lookup_list (List.contains_iff_mem.mp h)
    exact ⟨_, by rw [Slot.fill?, hitems]; rfl⟩

lemma exists_renderSource {source : Text} {slots : List Slot} (h : slotsIn? source = some slots)
    (hknown : slots.all knows) :
    ∃ t, fillAll? v.frame slots = some t ∧ ∀ path, renderSource path source v.frame = .ok t := by
  obtain ⟨t, ht⟩ := exists_fillAll? fun slot hslot =>
    v.exists_fill? (List.all_eq_true.mp hknown slot hslot)
  exact ⟨t, ht, fun path => by rw [renderSource_eq h v.fieldsHeld_frame, ht]⟩

end Variables

namespace Template

/-- A whole line that ends in a variable, with the end of the line before it. -/
def lineOf (mark name : Text) : Text := '\n' :: (mark ++ "\x7b\x7b " ++ name ++ " \x7d\x7d\n")

/-- Whether the template is made of slots that can be filled, and has one line of this form, which
is read as `mark` and the variable. -/
def hasLine (source mark name : Text) : Bool :=
  match Text.cutAt? (lineOf mark name) source with
  | none => false
  | some (front, back) =>
    match slotsIn? front, slotsIn? back with
    | some before, some after =>
      slotsIn? source == some (before ++
          (('\n' :: mark).map .char ++ .value name false :: .char '\n' :: after)) &&
        before.all Variables.knows && after.all Variables.knows &&
        (Text.cutAt? mark front).isNone && (Text.cutAt? mark back).isNone
    | _, _ => false

/-- The template has a line with `mark` and the variable `name`, with `mark` nowhere else, and is
rendered so that `value` stands in place of the variable, between what the parts of the template
around render to. -/
def Substitutes (source mark name : Text) (globals : Frame) (value : Text) : Prop :=
  ∃ front back before after, source = front ++ lineOf mark name ++ back ∧
    ¬ mark <:+: front ∧ ¬ mark <:+: back ∧
    ∀ path, renderSource path front globals = .ok before ∧
      renderSource path back globals = .ok after ∧
      renderSource path source globals = .ok (before ++ '\n' :: (mark ++ value ++ '\n' :: after))

lemma substitutes_of_hasLine {source mark name : Text} (h : hasLine source mark name)
    (v : Variables) {value : Text} (hvalue : v.frame.lookup name = some (.text value)) :
    Substitutes source mark name v.frame value := by
  unfold hasLine at h
  split at h
  · cases h
  · next front back hcut =>
    split at h
    · next before after hbefore hafter =>
      simp only [Bool.and_eq_true, beq_iff_eq, Option.isNone_iff_eq_none] at h
      -- The slots of the whole template are those of its parts, with the line between them.
      obtain ⟨⟨⟨⟨hslots, hknownBefore⟩, hknownAfter⟩, honceBefore⟩, honceAfter⟩ := h
      obtain ⟨s, hs, hfront⟩ := v.exists_renderSource hbefore hknownBefore
      obtain ⟨t, ht, hback⟩ := v.exists_renderSource hafter hknownAfter
      refine ⟨front, back, s, t, Text.cutAt?_eq_some hcut, Text.cutAt?_eq_none honceBefore,
        Text.cutAt?_eq_none honceAfter, fun path => ⟨hfront path, hback path, ?_⟩⟩
      have hline : fillAll? v.frame (.value name false :: .char '\n' :: after) =
          some (value ++ '\n' :: t) := by
        simp [fillAll?, Slot.fill?, hvalue, ht, Value.print]
      rw [renderSource_eq hslots v.fieldsHeld_frame, fillAll?_append, hs, fillAll?_append,
        fillAll?_char, hline]
      simp
    · cases h

end Template

/-! ### The templates that come with the program -/

namespace Shipped

/-- A line as its characters. The kernel computes with lists of characters, not with literals, so
a template is taken apart like this, line by line, before it is evaluated. -/
lemma lines_cons (l : Text) (ls : List String) :
    lines (String.ofList l :: ls) = l ++ '\n' :: lines ls := by
  simp [lines]

lemma hasLine_command : hasLine command "COLUMNS = " "column_list" := by
  unfold command
  repeat rw [lines_cons]
  decide +kernel

lemma hasLine_facade : hasLine facade "    columns = " "column_list" := by
  unfold facade
  repeat rw [lines_cons]
  decide +kernel

end Shipped

/-- The artifacts that are rendered from the variables with the templates that come with the
program list exactly these columns: in both, one and the same line of source text stands where the
columns belong, and reads back as their names. -/
structure Variables.ListsColumns (v : Variables) (columns : List Text) : Prop where
  command : Substitutes Shipped.command "COLUMNS = " "column_list" v.frame v.columnList
  facade : Substitutes Shipped.facade "    columns = " "column_list" v.frame v.columnList
  line : '\n' ∉ v.columnList ∧ '\r' ∉ v.columnList
  reads : Code.readList? v.columnList = some columns

lemma Variables.listsColumns (v : Variables) : v.ListsColumns v.columns where
  command := substitutes_of_hasLine Shipped.hasLine_command v rfl
  facade := substitutes_of_hasLine Shipped.hasLine_facade v rfl
  line := Code.listLiteral_line v.columns
  reads := Code.readList?_listLiteral v.columns

namespace Model

/-- **Both artifacts list exactly the fields of the model.** Whatever document is read and whatever
tag is in it, the fields are the children of the first element with the tag, in document order, and
both artifacts list the names of all of them, under every policy. -/
theorem listsColumns_derive {xml tag : Text} {locator : Locator} {m : Model}
    (hm : parse xml locator = .ok m) (htag : ∃ x ∈ m.root.preorder, x.name = tag) :
    ∃ e before after, m.root.preorder = before ++ e :: after ∧ (∀ x ∈ before, x.name ≠ tag) ∧
      e.name = tag ∧ (parse xml locator >>= fun m => m.resolve tag) = .ok e ∧
      ∀ policy spec,
        (Variables.derive e policy spec).ListsColumns (e.children.map Element.name) := by
  obtain ⟨e, he⟩ := Element.exists_find? htag
  obtain ⟨hname, before, after, hsplit, hbefore⟩ := Element.find?_eq_some he
  refine ⟨e, before, after, hsplit, hbefore, hname, ?_, fun policy spec => ?_⟩
  · rw [hm, ok_bind, resolve, he]
  · exact (Variables.derive e policy spec).listsColumns

/-- The first element with the tag has a field of an ignored type with a backslash in its name, and
a field named like the start of a variable. -/
def sampleXml : Text :=
  "<model><fields><a\\b type='UniqueIdField'/><\x7b\x7b/></fields><fields/></model>"

def sampleFields : Element :=
  { name := "fields", children :=
      [{ name := "a\\b", attributes := [("type", "UniqueIdField")] }, { name := "\x7b\x7b" }] }

def sampleModel : Model :=
  ⟨.onDisk [], { name := "model", children := [sampleFields, { name := "fields" }] }⟩

theorem listsColumns_sample :
    parse sampleXml (.onDisk []) = .ok sampleModel ∧
      (∃ x ∈ sampleModel.root.preorder, x.name = "fields".toList) ∧
      ∀ policy spec,
        (Variables.derive sampleFields policy spec).ListsColumns ["a\\b", "\x7b\x7b"] := by
  have hparse : parse sampleXml (.onDisk []) = .ok sampleModel := by decide +kernel
  have hmem : ∃ x ∈ sampleModel.root.preorder, x.name = "fields".toList :=
    ⟨sampleFields, .tail _ (.head _), rfl⟩
  obtain ⟨e, before, after, -, -, -, hfound, hlists⟩ := listsColumns_derive hparse hmem
  have he : e = sampleFields := by
    have hsample : sampleModel.resolve "fields" = .ok sampleFields := by decide +kernel
    rw [hparse, ok_bind, hsample] at hfound
    exact (Except.ok.inj hfound).symm
  subst he
  exact ⟨hparse, hmem, hlists⟩

end Model

end ClickGen
