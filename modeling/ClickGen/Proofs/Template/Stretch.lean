import ClickGen.Proofs.Template.Columns

/-!
Stretches of a template: text with variables between double braces, and without tags.

What becomes of a stretch is said from its text alone, without the reader of templates: everything
stands for itself, but for the phrases between braces, each of which gives way to the value of its
variable. A template whose slots are those of a stretch is rendered to just that.
-/

namespace ClickGen.Template

/-- Reads a text character by character, and what stands between double braces as one phrase. Of a
phrase that is under way, the characters are held last first; one that is not closed gives
nothing. -/
def scan {α : Type} (plain : Char → α) (phrase : Text → α) : Option Text → Text → List α
  | none, '\x7b' :: '\x7b' :: ' ' :: rest => scan plain phrase (some []) rest
  | none, c :: rest => plain c :: scan plain phrase none rest
  | some raw, ' ' :: '\x7d' :: '\x7d' :: rest => phrase raw.reverse :: scan plain phrase none rest
  | some raw, c :: rest => scan plain phrase (some (c :: raw)) rest
  | none, [] => []
  | some _, [] => []

/-- What a phrase gives way to: the value of the variable that it names, with a capital letter in
front where it says so. -/
def printed (value : Text → Text) (phrase : Text) : Text :=
  match Text.cutAt? " | capitalize" phrase with
  | some (name, []) => Text.capitalize (value name)
  | _ => value phrase

/-- The stretch with the values of variables in their places. -/
def substitute (value : Text → Text) (source : Text) : Text :=
  (scan ([·]) (printed value) none source).flatten

def Slot.ofPhrase (phrase : Text) : Slot :=
  match Text.cutAt? " | capitalize" phrase with
  | some (name, []) => .value name true
  | _ => .value phrase false

def stretch (source : Text) : List Slot := scan .char Slot.ofPhrase none source

def Slot.print (value : Text → Text) : Slot → Text
  | .char c => [c]
  | .value name capital => if capital then Text.capitalize (value name) else value name
  | .each _ => []

lemma map_scan {α β : Type} (f : α → β) (plain : Char → α) (phrase : Text → α)
    (under : Option Text) (source : Text) :
    (scan plain phrase under source).map f = scan (f ∘ plain) (f ∘ phrase) under source := by
  fun_induction scan plain phrase under source with
  | case1 rest ih => rw [ih, scan]
  | case2 c rest hopen ih =>
    rw [List.map_cons, ih, scan]
    · rfl
    · exact hopen
  | case3 raw rest ih =>
    rw [List.map_cons, ih, scan]
    rfl
  | case4 raw c rest hclose ih =>
    rw [ih, scan]
    exact hclose
  | case5 => rfl
  | case6 => rfl

lemma Slot.print_ofPhrase (value : Text → Text) (phrase : Text) :
    (Slot.ofPhrase phrase).print value = printed value phrase := by
  unfold Slot.ofPhrase printed
  split <;> rfl

lemma substitute_eq (value : Text → Text) (source : Text) :
    substitute value source = (stretch source).flatMap (Slot.print value) := by
  have hprint : Slot.print value ∘ Slot.ofPhrase = printed value :=
    funext (Slot.print_ofPhrase value)
  rw [List.flatMap_def, stretch, map_scan, hprint]
  rfl

lemma suffix_substitute {t source : Text} (h : t.map .char <:+ stretch source)
    (value : Text → Text) : t <:+ substitute value source := by
  obtain ⟨front, hfront⟩ := h
  refine ⟨front.flatMap (Slot.print value), ?_⟩
  rw [substitute_eq, ← hfront, List.flatMap_append, List.flatMap_map]
  simp [Slot.print]

lemma prefix_substitute {t source : Text} (h : t.map .char <+: stretch source)
    (value : Text → Text) : t <+: substitute value source := by
  obtain ⟨back, hback⟩ := h
  refine ⟨back.flatMap (Slot.print value), ?_⟩
  rw [substitute_eq, ← hback, List.flatMap_append, List.flatMap_map]
  simp [Slot.print]

/-! ### Filling a stretch -/

/-- A slot of a stretch that the variables of a command fill. -/
def Slot.isScalar : Slot → Bool
  | .char _ => true
  | .value name _ => Variables.textNames.contains name
  | .each _ => false

/-- The text that a frame gives to a name, if it gives any. -/
def textOf (globals : Frame) (name : Text) : Text :=
  match globals.lookup name with
  | some (.text t) => t
  | _ => []

section

variable {globals : Frame}
  (htexts : ∀ name ∈ Variables.textNames, ∃ t, globals.lookup name = some (.text t))

include htexts

lemma fill?_of_isScalar {slot : Slot} (h : slot.isScalar) :
    slot.fill? globals = some (slot.print (textOf globals)) := by
  cases slot with
  | char c => rfl
  | value name capital =>
    obtain ⟨t, ht⟩ := htexts name (List.contains_iff_mem.mp h)
    rw [Slot.fill?, Slot.print, textOf, ht]
    rfl
  | each name => cases h

lemma fillAll?_of_isScalar {slots : List Slot} (h : slots.all Slot.isScalar) :
    fillAll? globals slots = some (slots.flatMap (Slot.print (textOf globals))) := by
  induction slots with
  | nil => rfl
  | cons slot rest ih =>
    simp only [List.all_cons, Bool.and_eq_true] at h
    rw [fillAll?, fill?_of_isScalar htexts h.1, ih h.2, List.flatMap_cons]

lemma fillAll?_stretch {source : Text} (h : (stretch source).all Slot.isScalar) :
    fillAll? globals (stretch source) = some (substitute (textOf globals) source) := by
  rw [fillAll?_of_isScalar htexts h, substitute_eq]

end

end ClickGen.Template
