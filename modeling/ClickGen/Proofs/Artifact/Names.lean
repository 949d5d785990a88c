import ClickGen.Proofs.Artifact.Import
import ClickGen.Proofs.Template.Part

/-!
The names of a command in the source of its artifacts.

The group and the command get into the templates as they are given, in words and in literals;
nothing is escaped or put in another form there. Main statement: every word with a name in it is an
identifier, and every literal with one stands for its text, exactly when both names and the name of
the class that is made from them are identifiers to begin with.
-/

namespace ClickGen

open Code Template

namespace Template

namespace Slot

def group : Slot := .value "click_group" false

def command : Slot := .value "click_command" false

/-- A variable with a name of the command as it is given. -/
def isGiven : Slot → Bool
  | .value name _ => name == "click_group".toList || name == "click_command".toList
  | _ => false

/-- A character that is allowed, or a name as it is given. -/
def isWithin (allowed : Char → Bool) : Slot → Bool
  | .char c => allowed c
  | slot => slot == group || slot == command

end Slot

namespace Part

def holdsGiven (part : Part) : Bool := part.slots.any Slot.isGiven

def facadeClass : Part :=
  .word (.value "click_group" true :: .value "click_command" true :: "Facade".toList.map .char)

/-- The variable for the entries of which a facade shows one. -/
def entries : Part := .word [.command, .char 's']

/-- The parts by which artifacts are called from outside, or call others. -/
def mentioned : ArtifactKind → List Part
  | .command => [.word [.group], .word [.command], facadeClass,
      .word ("pass_".toList.map .char ++
        .group :: .char '_' :: .command :: "_svc".toList.map .char),
      .word ("list_".toList.map .char ++ [.command, .char 's']), .quoted '\'' [.command]]
  | .facade => [facadeClass, entries, .word ("list_".toList.map .char ++ [.command, .char 's']),
      .quoted '\'' (.char '$' :: .char '.' :: [.group, .char '.', .command])]

/-- The part is what it is meant to be: a word is an identifier, and a literal stands for its
text. -/
def IsWellFormed (alphabet : Alphabet) (globals : Frame) : Part → Prop
  | word slots => ∃ t, fillAll? globals slots = some t ∧ alphabet.isIdentifier t
  | quoted quote slots => ∃ t, fillAll? globals slots = some t ∧ IsQuoted quote t
  | other _ => True

/-- A part that is well-formed with any identifiers for names: a word with an underscore in it, or
a literal without escapes. -/
def isSafe : Part → Bool
  | word (.char c :: rest) => startsIdentifier c && rest.all (Slot.isWithin continuesIdentifier) &&
      rest.contains (.char '_')
  | word _ => false
  | quoted quote slots => slots.all (Slot.isWithin (isBareBetween quote))
  | other _ => true

/-- A part that is one of the names, the name of the class, or well-formed with any of them. -/
def isSettled (part : Part) : Bool :=
  part == .word [.group] || part == .word [.command] || part == facadeClass || part == entries ||
    part.isSafe

end Part

/-- Whether the variables of a command fill the template, its parts with names are of the kinds that
are known, and the parts that should be there are among them. -/
def namesSettled (source : Text) (mentioned : List Part) : Bool :=
  match partsIn? source with
  | none => false
  | some parts => (parts.flatMap Part.slots).all Variables.knows &&
      parts.all (fun part => !part.holdsGiven || part.isSettled) && mentioned.all parts.contains

lemma exists_parts_of_namesSettled {source : Text} {mentioned : List Part}
    (h : namesSettled source mentioned) :
    ∃ parts, partsIn? source = some parts ∧ (parts.flatMap Part.slots).all Variables.knows ∧
      (∀ part ∈ parts, part.holdsGiven → part.isSettled) ∧ ∀ part ∈ mentioned, part ∈ parts := by
  unfold namesSettled at h
  split at h
  · cases h
  · next parts hparts =>
    simp only [Bool.and_eq_true] at h
    obtain ⟨⟨hknown, hsettled⟩, hmentioned⟩ := h
    refine ⟨parts, hparts, hknown, fun part hmem hgiven => ?_, fun part hmem => ?_⟩
    · simpa [hgiven] using List.all_eq_true.mp hsettled part hmem
    · exact List.contains_iff_mem.mp (List.all_eq_true.mp hmentioned part hmem)

section

variable {v : Variables}

lemma exists_fill?_name {slot : Slot} (h : slot = .group ∨ slot = .command) :
    ∃ t, slot.fill? v.frame = some t ∧ (t = v.group ∨ t = v.command) := by
  rcases h with rfl | rfl
  · exact ⟨v.group, rfl, .inl rfl⟩
  · exact ⟨v.command, rfl, .inr rfl⟩

/-- What holds of the characters that are allowed and of those of the names holds of all characters
of the text that comes out. -/
lemma exists_fillAll?_of_isWithin {allowed holds : Char → Bool}
    (hallowed : ∀ c, allowed c → holds c) (hgroup : ∀ c ∈ v.group, holds c)
    (hcommand : ∀ c ∈ v.command, holds c) {slots : List Slot}
    (h : slots.all (Slot.isWithin allowed)) :
    ∃ t, fillAll? v.frame slots = some t ∧ (∀ c ∈ t, holds c) ∧ ∀ c, .char c ∈ slots → c ∈ t := by
  have hfill (slot : Slot) (hslot : slot.isWithin allowed) :
      ∃ t, slot.fill? v.frame = some t ∧ (∀ c ∈ t, holds c) ∧ ∀ c, .char c = slot → c ∈ t := by
    cases slot with
    | char c =>
      refine ⟨[c], rfl, ?_, ?_⟩
      · simpa using hallowed c hslot
      · rintro d ⟨⟩
        exact List.mem_singleton_self c
    | value name capital =>
      simp only [Slot.isWithin, Bool.or_eq_true, beq_iff_eq] at hslot
      obtain ⟨t, ht, rfl | rfl⟩ := exists_fill?_name hslot
      · exact ⟨v.group, ht, hgroup, nofun⟩
      · exact ⟨v.command, ht, hcommand, nofun⟩
    | each name => simp [Slot.isWithin, Slot.group, Slot.command] at hslot
  induction slots with
  | nil => exact ⟨[], rfl, by simp, by simp⟩
  | cons slot rest ih =>
    simp only [List.all_cons, Bool.and_eq_true] at h
    obtain ⟨t, ht, htholds, htchars⟩ := hfill slot h.1
    obtain ⟨more, hmore, hmoreholds, hmorechars⟩ := ih h.2
    refine ⟨t ++ more, by rw [fillAll?, ht, hmore], ?_, ?_⟩
    · intro c hc
      exact (List.mem_append.mp hc).elim (htholds c) (hmoreholds c)
    · intro c hc
      rcases List.mem_cons.mp hc with hc | hc
      · exact List.mem_append_left more (htchars c hc)
      · exact List.mem_append_right t (hmorechars c hc)

variable {alphabet : Alphabet}

lemma isWellFormed_of_isSafe (hgroup : alphabet.isIdentifier v.group)
    (hcommand : alphabet.isIdentifier v.command) {part : Part} (h : part.isSafe) :
    part.IsWellFormed alphabet v.frame := by
  have hgroup' := fun c (hc : c ∈ v.group) => Alphabet.continues_of_mem hgroup hc
  have hcommand' := fun c (hc : c ∈ v.command) => Alphabet.continues_of_mem hcommand hc
  unfold Part.isSafe at h
  split at h
  · next c rest =>
    simp only [Bool.and_eq_true, List.contains_iff_mem] at h
    obtain ⟨⟨hc, hrest⟩, hunderscore⟩ := h
    obtain ⟨t, ht, hholds, hchars⟩ := exists_fillAll?_of_isWithin
      (fun _ => Alphabet.continues_of_continuesIdentifier) hgroup' hcommand' hrest
    refine ⟨c :: t, ?_, Alphabet.isIdentifier_of_underscore_mem hc hholds (hchars '_' hunderscore)⟩
    rw [fillAll?, ht]
    rfl
  · cases h
  · next quote slots =>
    obtain ⟨t, ht, hholds, -⟩ := exists_fillAll?_of_isWithin (fun _ hc => hc)
      (fun c hc => Alphabet.isBareBetween_of_continues (hgroup' c hc) quote)
      (fun c hc => Alphabet.isBareBetween_of_continues (hcommand' c hc) quote) h
    exact ⟨t, ht, isQuoted_of_isBareBetween hholds⟩
  · trivial

lemma isWellFormed_word {slots : List Slot} {t : Text} (h : fillAll? v.frame slots = some t) :
    (Part.word slots).IsWellFormed alphabet v.frame ↔ alphabet.isIdentifier t := by
  rw [Part.IsWellFormed, h]
  simp

lemma isWellFormed_group :
    (Part.word [.group]).IsWellFormed alphabet v.frame ↔ alphabet.isIdentifier v.group :=
  isWellFormed_word (fillAll?_singleton Slot.group)

lemma isWellFormed_command :
    (Part.word [.command]).IsWellFormed alphabet v.frame ↔ alphabet.isIdentifier v.command :=
  isWellFormed_word (fillAll?_singleton Slot.command)

lemma isWellFormed_facadeClass :
    Part.facadeClass.IsWellFormed alphabet v.frame ↔ alphabet.isIdentifier v.facadeClass := by
  have hgroup : (Slot.value "click_group" true).fill? v.frame = some (Text.capitalize v.group) :=
    rfl
  have hcommand : (Slot.value "click_command" true).fill? v.frame =
      some (Text.capitalize v.command) := rfl
  refine isWellFormed_word ?_
  rw [fillAll?, hgroup, fillAll?, hcommand, fillAll?_char]
  exact congrArg some (List.append_assoc ..).symm

lemma isWellFormed_entries :
    Part.entries.IsWellFormed alphabet v.frame ↔ alphabet.isIdentifier (v.command ++ ['s']) := by
  have hcommand : Slot.command.fill? v.frame = some v.command := rfl
  refine isWellFormed_word ?_
  rw [fillAll?, hcommand, fillAll?_singleton]
  rfl

end

end Template

/-! ### The templates that come with the program -/

namespace Shipped

def source : ArtifactKind → Text
  | .command => command
  | .facade => facade

lemma namesSettled_command : namesSettled command (Part.mentioned .command) := by
  unfold command
  repeat rw [lines_cons]
  decide +kernel

lemma namesSettled_facade : namesSettled facade (Part.mentioned .facade) := by
  unfold facade
  repeat rw [lines_cons]
  decide +kernel

lemma namesSettled_source (kind : ArtifactKind) :
    namesSettled (source kind) (Part.mentioned kind) := by
  cases kind with
  | command => exact namesSettled_command
  | facade => exact namesSettled_facade

/-- In both artifacts, the parts with names as they are given are what they are meant to be. The
variable for the entries, which is seen inside of one function only, is set apart. -/
def NamesAreWellFormed (parts : ArtifactKind → List Part) (alphabet : Alphabet) (v : Variables) :
    Prop :=
  ∀ kind, ∀ part ∈ parts kind, part.holdsGiven → part ≠ Part.entries →
    part.IsWellFormed alphabet v.frame

/-- **When the names of a command make well-formed source.** The artifacts are rendered part by
part. The words and literals with the group and the command in them are identifiers and stand for
their text exactly when the group, the command and the name of the class are identifiers; the last
one is where the first two begin in ASCII. The variable for the entries is a matter of its own,
since a letter behind the command may make a reserved word of it. -/
theorem namesAreWellFormed_iff (v : Variables) (alphabet : Alphabet) :
    ∃ parts : ArtifactKind → List Part,
      (∀ kind, partsIn? (source kind) = some (parts kind) ∧
        (∀ part ∈ Part.mentioned kind, part ∈ parts kind) ∧
        ∃ fills, AreFilled v.frame (parts kind) fills ∧
          ∀ path, renderSource path (source kind) v.frame = .ok fills.flatten) ∧
      (NamesAreWellFormed parts alphabet v ↔ alphabet.isIdentifier v.group ∧
        alphabet.isIdentifier v.command ∧ alphabet.isIdentifier v.facadeClass) ∧
      (Part.entries.IsWellFormed alphabet v.frame ↔ alphabet.isIdentifier (v.command ++ ['s'])) ∧
      (alphabet.isIdentifier v.group → alphabet.isIdentifier v.command →
        (∀ c ∈ v.group.head?, c.toNat < 128) → (∀ c ∈ v.command.head?, c.toNat < 128) →
        alphabet.isIdentifier v.facadeClass) := by
  choose parts hparts hknown hsettled hmentioned using fun kind =>
    exists_parts_of_namesSettled (namesSettled_source kind)
  refine ⟨parts, fun kind => ⟨hparts kind, hmentioned kind, ?_⟩, ?_, isWellFormed_entries,
    Alphabet.isIdentifier_capitalize⟩
  · exact renderSource_partsIn? (hparts kind) (hknown kind) v
  constructor
  · intro h
    have hword (part : Part) (hmem : part ∈ Part.mentioned .command) (hgiven : part.holdsGiven)
        (hne : part ≠ Part.entries) : part.IsWellFormed alphabet v.frame :=
      h .command part (hmentioned .command part hmem) hgiven hne
    refine ⟨isWellFormed_group.mp (hword _ ?_ ?_ ?_), isWellFormed_command.mp (hword _ ?_ ?_ ?_),
      isWellFormed_facadeClass.mp (hword _ ?_ ?_ ?_)⟩
    all_goals decide +kernel
  · rintro ⟨hgroup, hcommand, hclass⟩ kind part hmem hgiven hne
    have hpart := hsettled kind part hmem hgiven
    simp only [Part.isSettled, Bool.or_eq_true, beq_iff_eq] at hpart
    rcases hpart with (((rfl | rfl) | rfl) | rfl) | hsafe
    · exact isWellFormed_group.mpr hgroup
    · exact isWellFormed_command.mpr hcommand
    · exact isWellFormed_facadeClass.mpr hclass
    · exact absurd rfl hne
    · exact isWellFormed_of_isSafe hgroup hcommand hsafe

/-- A command with a quote in it ends the literal in its facade before its time. -/
theorem not_forall_namesAreWellFormed :
    ¬ ∃ alphabet : Alphabet, ∀ (root : Element) (policy : Policy) (spec : CommandSpec)
      (parts : ArtifactKind → List Part), (∀ kind, partsIn? (source kind) = some (parts kind)) →
        NamesAreWellFormed parts alphabet (Variables.derive root policy spec) := by
  rintro ⟨alphabet, h⟩
  choose parts hparts hknown hsettled hmentioned using fun kind =>
    exists_parts_of_namesSettled (namesSettled_source kind)
  let literal : Part := .quoted '\'' (.char '$' :: .char '.' :: [.group, .char '.', .command])
  have hmem : literal ∈ Part.mentioned .facade := by decide +kernel
  obtain ⟨t, ht, hquoted⟩ := h { name := "m" } {} ⟨"g", "it's", .core⟩ parts hparts .facade literal
    (hmentioned .facade literal hmem) (by decide +kernel) (by decide +kernel)
  obtain rfl : "$.g.it's".toList = t := Option.some.inj (Eq.trans (by rfl) ht)
  have hrefused : tokens? ('\'' :: ("$.g.it's".toList ++ ['\''])) = none := by decide +kernel
  rw [IsQuoted, if_pos rfl, hrefused] at hquoted
  cases hquoted

end Shipped

end ClickGen
