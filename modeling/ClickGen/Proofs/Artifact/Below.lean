import ClickGen.Artifact
import ClickGen.Proofs.File.Components
import ClickGen.Proofs.Text.Snake

/-!
Where artifacts go, as seen from their output directory.

The names of a command come from outside and may hold anything. Snake case takes every dot out of
them, so that the path of an artifact never goes up. A slash at the beginning stays, though, and
leads to the root of all files in place of the output directory. Main statement: artifacts are below
their output directory exactly as long as neither name begins with a slash, or what it leads to
happens to be there.
-/

namespace ClickGen

open ClickGen.Path

namespace Variables

variable (root : Element) (policy : Policy) (spec : CommandSpec)

lemma isPlain_relativePath : IsPlain (derive root policy spec).relativePath := by
  have hgroup : '.' ∉ Text.snake spec.group := Text.separator_notMem_snake rfl spec.group
  have hcommand : '.' ∉ Text.snake spec.command := Text.separator_notMem_snake rfl spec.command
  have hfile : IsPlain (Text.snake spec.command ++ ".py") :=
    isPlain_append hcommand (by decide) ⟨'p', by decide, by decide⟩
  exact (isPlain_of_notMem hgroup).join hfile

lemma isAbsolute_relativePath : isAbsolute (derive root policy spec).relativePath ↔
    spec.group.head? = some '/' ∨ spec.command.head? = some '/' := by
  have hextension : (Text.snake spec.command ++ ".py").head? = some '/' ↔
      (Text.snake spec.command).head? = some '/' := by
    cases Text.snake spec.command with
    | nil => decide
    | cons c rest => rfl
  rw [relativePath, isAbsolute_join, isAbsolute_iff, isAbsolute_iff]
  simp only [derive]
  rw [hextension, Text.head?_snake_eq_slash, Text.head?_snake_eq_slash]

end Variables

namespace Artifact

/-- A path is below a directory when it goes through all of the directory and on from there
without going up. -/
def IsBelow (directory path : Text) : Prop :=
  ∃ below, components path = components directory ++ below ∧ .above ∉ below

variable (root : Element) (policy : Policy) (spec : CommandSpec) (kind : ArtifactKind)
  (content directory : Text)

/-- **Where artifacts go.** The path of an artifact never goes up. Below the output directory it is
followed from there, unless a name of the command begins with a slash: then the output directory
counts for nothing, and the artifact is below it only if the path from the root leads there. -/
theorem isBelow_path_iff :
    let a : Artifact := ⟨kind, (Variables.derive root policy spec).relativePath, content⟩
    .above ∉ components a.relativePath ∧
      (spec.group.head? ≠ some '/' → spec.command.head? ≠ some '/' →
        components (a.path directory) = components directory ++ components a.relativePath) ∧
      (IsBelow directory (a.path directory) ↔
        (spec.group.head? ≠ some '/' ∧ spec.command.head? ≠ some '/') ∨
          components directory <+: components a.relativePath) := by
  intro a
  have hplain : IsPlain a.relativePath := Variables.isPlain_relativePath root policy spec
  have habs : isAbsolute a.relativePath ↔ _ := Variables.isAbsolute_relativePath root policy spec
  have hjoined (hgroup : spec.group.head? ≠ some '/') (hcommand : spec.command.head? ≠ some '/') :
      components (a.path directory) = components directory ++ components a.relativePath := by
    refine components_join directory (hplain.opening_eq ?_)
    rw [habs]
    exact fun h => h.elim hgroup hcommand
  refine ⟨hplain.above_notMem, hjoined, ?_⟩
  constructor
  · rintro ⟨below, hbelow, -⟩
    -- From the root the path is followed alone, and has to come through the directory by itself.
    by_cases h : isAbsolute a.relativePath
    · rw [path, join_of_isAbsolute h] at hbelow
      exact .inr ⟨below, hbelow.symm⟩
    · rw [habs, not_or] at h
      exact .inl h
  · rintro (⟨hgroup, hcommand⟩ | hprefix)
    · exact ⟨_, hjoined hgroup hcommand, hplain.above_notMem⟩
    · by_cases h : isAbsolute a.relativePath
      · obtain ⟨below, hbelow⟩ := hprefix
        refine ⟨below, by rw [path, join_of_isAbsolute h, hbelow], fun hmem => ?_⟩
        exact hplain.above_notMem (hbelow ▸ List.mem_append_right _ hmem)
      · rw [habs, not_or] at h
        exact ⟨_, hjoined h.1 h.2, hplain.above_notMem⟩

theorem not_forall_isBelow_path :
    ¬ ∀ (spec : CommandSpec) (directory : Text),
      let v := Variables.derive { name := "m" } {} spec
      IsBelow directory (path ⟨.command, v.relativePath, []⟩ directory) := by
  intro h
  obtain ⟨below, hbelow, -⟩ := h ⟨"/x", "k", .core⟩ "y"
  have hroot : (components (path ⟨.command, (Variables.derive { name := "m" } {}
      ⟨"/x", "k", .core⟩).relativePath, []⟩ "y")).head? = some .root := by decide +kernel
  have hdirectory : components "y" = [.name "y"] := by decide
  rw [hbelow, hdirectory] at hroot
  cases hroot

end Artifact

end ClickGen
