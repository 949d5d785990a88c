import ClickGen.Artifact
import Mathlib.Tactic.Lemma

/-!
Templates that only put texts in their places.

Such a template is a row of slots: characters that stand for themselves, variables, and lists with
one item a line. Rendering it is filling the slots one after the other, so that a template goes
through whenever every slot has something to be filled with, and what is filled into one slot does
not depend on the others.
-/

namespace ClickGen.Template

inductive Slot where
  /-- A character that stands for itself. -/
  | char (c : Char)
  /-- A variable, printed with a capital letter in front where `capital` says so. -/
  | value (name : Text) (capital : Bool)
  /-- The items of a list, each with the end of a line behind it. -/
  | each (name : Text)
  deriving DecidableEq

/-- The slots that a node is made of, if it has no other logic. -/
def Node.slots? : Node → Option (List Slot)
  | .plain t => some (t.map .char)
  | .output ⟨.named name [], []⟩ => some [.value name false]
  | .output ⟨.named name [], [⟨.capitalize, []⟩]⟩ => some [.value name true]
  | .loop ⟨item, .items (.named name []), none, none, false, _⟩
      [.output ⟨.named inner [], []⟩, .plain ['\n']] [] =>
    if inner = item then some [.each name] else none
  | _ => none

def slotsOf? : List Node → Option (List Slot)
  | [] => some []
  | node :: rest =>
    match node.slots?, slotsOf? rest with
    | some slots, some more => some (slots ++ more)
    | _, _ => none

/-- The slots of a template, read from its source. -/
def slotsIn? (source : Text) : Option (List Slot) :=
  (parse? source).bind fun t => slotsOf? t.nodes

variable (globals : Frame)

def Slot.fill? : Slot → Option Text
  | .char c => some [c]
  | .value name capital =>
    (globals.lookup name).map fun v => if capital then Text.capitalize v.print else v.print
  | .each name =>
    ((globals.lookup name).bind itemsOf?).map fun items => items.flatMap (·.print ++ ['\n'])

def fillAll? : List Slot → Option Text
  | [] => some []
  | slot :: rest =>
    match slot.fill? globals, fillAll? rest with
    | some t, some more => some (t ++ more)
    | _, _ => none

variable {globals}

lemma fillAll?_append (slots more : List Slot) :
    fillAll? globals (slots ++ more) =
      (fillAll? globals slots).bind fun s => (fillAll? globals more).map (s ++ ·) := by
  induction slots with
  | nil => simp [fillAll?]
  | cons slot rest ih =>
    rw [List.cons_append, fillAll?, fillAll?, ih]
    cases slot.fill? globals with
    | none => rfl
    | some t =>
      cases fillAll? globals rest with
      | none => rfl
      | some s => cases fillAll? globals more <;> simp

lemma fillAll?_char (t : Text) : fillAll? globals (t.map .char) = some t := by
  induction t with
  | nil => rfl
  | cons c t ih => simp [fillAll?, Slot.fill?, ih]

lemma fillAll?_singleton (slot : Slot) : fillAll? globals [slot] = slot.fill? globals := by
  rw [fillAll?, fillAll?]
  cases slot.fill? globals <;> simp

lemma exists_fillAll? {slots : List Slot} (h : ∀ slot ∈ slots, ∃ t, slot.fill? globals = some t) :
    ∃ t, fillAll? globals slots = some t := by
  induction slots with
  | nil => exact ⟨[], rfl⟩
  | cons slot rest ih =>
    obtain ⟨t, ht⟩ := h slot List.mem_cons_self
    obtain ⟨more, hmore⟩ := ih fun other hother => h other (List.mem_cons_of_mem slot hother)
    exact ⟨t ++ more, by rw [fillAll?, ht, hmore]⟩

/-! ### Rendering -/

lemma find?_globals (name : Text) : find? globals [] {} name = globals.lookup name := by
  unfold find?
  cases globals.lookup name <;> rfl

variable (globals) in
lemma rounds_each (item : Text) (parent : Value) (length index : Nat) (items : List Value) :
    rounds (fun frame state => renderAll globals (frame :: [])
        [.output ⟨.named item [], []⟩, .plain ['\n']] state)
      (frames (loopFrame item parent length) index items) {} =
    some (items.flatMap (·.print ++ ['\n']), {}) := by
  induction items generalizing index with
  | nil => rfl
  | cons v items ih =>
    have hfind : find? globals [loopFrame item parent length index v] {} item = some v := by
      simp [find?, loopFrame]
    have hbody : renderAll globals [loopFrame item parent length index v]
        [.output ⟨.named item [], []⟩, .plain ['\n']] {} = some (v.print ++ ['\n'], {}) := by
      simp [renderAll, Node.render, Chain.eval?, Expr.eval?, Expr.follow?, Call.applyAll?, hfind]
    have hrest := ih (index + 1)
    simp only [frames, rounds, hbody] at hrest ⊢
    rw [hrest]
    simp

lemma selected_none (items : List Value) : selected none none items = items := by
  simp [selected]

lemma items?_named (find : Text → Option Value) (item name : Text) (columns? : Option Expr) :
    Loop.items? find ⟨item, .items (.named name []), none, none, false, columns?⟩ =
      (find name).bind itemsOf? := by
  cases hfind : find name with
  | none => simp [Loop.items?, Source.items?, Expr.eval?, hfind]
  | some v =>
    cases hitems : itemsOf? v <;>
      simp [Loop.items?, Source.items?, Expr.eval?, Expr.follow?, setting?, hfind, hitems,
        selected_none]

lemma Node.render_slots {node : Node} {slots : List Slot} (h : node.slots? = some slots) :
    Node.render globals [] node {} = (fillAll? globals slots).map fun t => (t, {}) := by
  unfold Node.slots? at h
  split at h
  · cases h
    rw [fillAll?_char]
    rfl
  · next name =>
    cases h
    rw [fillAll?_singleton]
    cases hlookup : globals.lookup name <;>
      simp [Node.render, Chain.eval?, Expr.eval?, find?_globals, hlookup, Expr.follow?,
        Call.applyAll?, Slot.fill?]
  · next name =>
    cases h
    rw [fillAll?_singleton]
    cases hlookup : globals.lookup name <;>
      simp [Node.render, Chain.eval?, Expr.eval?, find?_globals, hlookup, Expr.follow?,
        Call.applyAll?, Call.apply?, Filter.apply, Filter.onText, Value.print, Slot.fill?]
  · next item name columns inner =>
    split at h
    · next hinner =>
      cases h
      subst hinner
      rw [fillAll?_singleton, Node.render, items?_named, find?_globals, Slot.fill?]
      cases (globals.lookup name).bind itemsOf? with
      | none => rfl
      | some items =>
        cases items with
        | nil => rfl
        | cons v items =>
          have hrounds := rounds_each globals inner
            ((find? globals [] {} "forloop").getD .nil) (v :: items).length 0 (v :: items)
          simpa using hrounds
    · cases h
  · cases h

/-- Nodes that are slots print what fills these slots, and leave no trace behind. -/
lemma renderAll_slots {nodes : List Node} {slots : List Slot} (h : slotsOf? nodes = some slots) :
    renderAll globals [] nodes {} = (fillAll? globals slots).map fun t => (t, {}) := by
  induction nodes generalizing slots with
  | nil =>
    cases h
    rfl
  | cons node rest ih =>
    rw [slotsOf?] at h
    split at h
    · next own more hown hmore =>
      cases h
      rw [renderAll, Node.render_slots hown]
      rw [fillAll?_append]
      cases fillAll? globals own with
      | none => rfl
      | some s =>
        cases hrest : fillAll? globals more <;> simp [ih hmore, hrest]
    · cases h

/-- **Filling is rendering**: a template that is made of slots prints what they are filled with,
and fails where one of them has nothing to be filled with. -/
lemma renderSource_eq {source : Text} {slots : List Slot} (h : slotsIn? source = some slots)
    (hheld : Value.fieldsHeld globals) (path : Text) :
    renderSource path source globals =
      match fillAll? globals slots with
      | some t => .ok t
      | none => .error (.template path) := by
  obtain ⟨t, hparse, hslots⟩ := Option.bind_eq_some_iff.mp h
  have hrender : t.render? globals = fillAll? globals slots := by
    rw [Template.render?, if_pos hheld, renderAll_slots hslots]
    cases fillAll? globals slots <;> rfl
  rw [renderSource, hparse]
  simp only [hrender]
  cases fillAll? globals slots <;> rfl

end ClickGen.Template
