import ClickGen.Proofs.Code.Identifier
import ClickGen.Proofs.Template.Columns

/-!
The words and literals of a template.

A template of Python source is read in one pass, before anything is filled in: a run of letters,
digits and variables is one word, and what stands between two quotes of a kind is one literal. The
parts that are found are the whole template, so that the template is rendered by filling its parts
one after the other.
-/

namespace ClickGen.Template

inductive Part where
  /-- A run of characters of identifiers, and variables among them. -/
  | word (slots : List Slot)
  /-- What stands between two quotes. Three quotes in a row are read as an empty literal beside one
  that goes on. -/
  | quoted (quote : Char) (slots : List Slot)
  /-- Anything else between words and literals. -/
  | other (slot : Slot)
  deriving DecidableEq

namespace Part

def slots : Part → List Slot
  | word slots => slots
  | quoted quote slots => .char quote :: (slots ++ [.char quote])
  | other slot => [slot]

inductive Mode where
  | between
  | word (raw : List Slot)
  | quoted (quote : Char) (raw : List Slot)

/-- The slots of the part that is under way. -/
def Mode.held : Mode → List Slot
  | between => []
  | word raw => raw.reverse
  | quoted quote raw => .char quote :: raw.reverse

/-- A slot where no part is under way. Comments have no rule. -/
def start : Slot → Option (List Part × Mode)
  | .char c =>
    if c = '#' then none
    else if c = '\'' ∨ c = '"' then some ([], .quoted c [])
    else if Code.continuesIdentifier c then some ([], .word [.char c])
    else some ([.other (.char c)], .between)
  | .value name capital => some ([], .word [.value name capital])
  | .each name => some ([.other (.each name)], .between)

/-- Reads one slot: the parts that it ends, and where the scan stands then. There is no rule for
prefixes of literals and for escapes in them. -/
def step : Mode → Slot → Option (List Part × Mode)
  | .between, slot => start slot
  | .word raw, slot =>
    match start slot with
    | some (parts, .between) => some (.word raw.reverse :: parts, .between)
    | some (_, .word _) => some ([], .word (slot :: raw))
    | _ => none
  | .quoted quote raw, slot =>
    if slot = .char quote then some ([.quoted quote raw.reverse], .between)
    else if slot = .char '\\' then none
    else some ([], .quoted quote (slot :: raw))

def finish : Mode → Option (List Part)
  | .between => some []
  | .word raw => some [.word raw.reverse]
  | .quoted .. => none

def run (m : Mode) : List Slot → Option (List Part)
  | [] => finish m
  | slot :: rest =>
    match step m slot with
    | none => none
    | some (parts, next) => (run next rest).map (parts ++ ·)

lemma slots_start {slot : Slot} {parts : List Part} {next : Mode}
    (h : start slot = some (parts, next)) : parts.flatMap slots ++ next.held = [slot] := by
  unfold start at h
  split at h
  · split at h
    · cases h
    · split at h
      · cases h
        rfl
      · split at h <;> cases h <;> rfl
  · cases h
    rfl
  · cases h
    rfl

lemma slots_step {m : Mode} {slot : Slot} {parts : List Part} {next : Mode}
    (h : step m slot = some (parts, next)) :
    parts.flatMap slots ++ next.held = m.held ++ [slot] := by
  cases m with
  | between => exact slots_start h
  | word raw =>
    rw [step] at h
    split at h
    · next ended hstart =>
      cases h
      have hslot := slots_start hstart
      rw [List.flatMap_cons, List.append_assoc, hslot]
      rfl
    · cases h
      simp [Mode.held]
    · cases h
  | quoted quote raw =>
    rw [step] at h
    split at h
    · next hquote =>
      cases h
      simp [Mode.held, slots, hquote]
    · split at h
      · cases h
      · cases h
        simp [Mode.held]

lemma slots_run {m : Mode} {row : List Slot} {parts : List Part} (h : run m row = some parts) :
    parts.flatMap slots = m.held ++ row := by
  induction row generalizing m parts with
  | nil =>
    cases m with
    | between =>
      cases h
      rfl
    | word raw =>
      cases h
      simp [Mode.held, slots]
    | quoted quote raw => cases h
  | cons slot rest ih =>
    rw [run] at h
    split at h
    · cases h
    · next ended next hstep =>
      obtain ⟨more, hmore, rfl⟩ := Option.map_eq_some_iff.mp h
      rw [List.flatMap_append, ih hmore, ← List.append_assoc, slots_step hstep, List.append_assoc]
      rfl

end Part

/-- The parts of a template, read from its source. -/
def partsIn? (source : Text) : Option (List Part) := (slotsIn? source).bind (Part.run .between)

/-! ### Filling parts -/

/-- The texts that parts are filled with, one by one. -/
def AreFilled (globals : Frame) : List Part → List Text → Prop :=
  List.Forall₂ fun part t => fillAll? globals part.slots = some t

lemma fillAll?_flatMap_slots {globals : Frame} {parts : List Part} {content : Text}
    (h : fillAll? globals (parts.flatMap Part.slots) = some content) :
    ∃ fills, AreFilled globals parts fills ∧ content = fills.flatten := by
  induction parts generalizing content with
  | nil =>
    cases h
    exact ⟨[], .nil, rfl⟩
  | cons part parts ih =>
    rw [List.flatMap_cons, fillAll?_append] at h
    obtain ⟨t, ht, hmore⟩ := Option.bind_eq_some_iff.mp h
    obtain ⟨more, hfill, rfl⟩ := Option.map_eq_some_iff.mp hmore
    obtain ⟨fills, hfills, rfl⟩ := ih hfill
    exact ⟨t :: fills, .cons ht hfills, rfl⟩

lemma renderSource_partsIn? {source : Text} {parts : List Part} (h : partsIn? source = some parts)
    (hknown : (parts.flatMap Part.slots).all Variables.knows) (v : Variables) :
    ∃ fills, AreFilled v.frame parts fills ∧
      ∀ path, renderSource path source v.frame = .ok fills.flatten := by
  obtain ⟨slots, hslots, hrun⟩ := Option.bind_eq_some_iff.mp h
  have hsame : parts.flatMap Part.slots = slots := Part.slots_run hrun
  rw [hsame] at hknown
  obtain ⟨content, hfill, hrender⟩ := v.exists_renderSource hslots hknown
  rw [← hsame] at hfill
  obtain ⟨fills, hfills, rfl⟩ := fillAll?_flatMap_slots hfill
  exact ⟨fills, hfills, hrender⟩

end ClickGen.Template
