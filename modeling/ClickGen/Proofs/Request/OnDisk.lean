import ClickGen.Proofs.Request.Placement
import Mathlib.Control.Monad.Basic
import Mathlib.Data.List.Forall2

/-!
What is on disk when a command has been generated. Both artifacts are rendered from the files as
they were before, so that what is written does not depend on what was written before it; but the
facade comes last, and wins when both lead to one file.
-/

namespace ClickGen.Request

lemma renderOne_kind {r : Request} {t : FileTree} {kind : ArtifactKind} {web : Web}
    {a : Artifact} (h : r.renderOne t kind web = .ok a) : a.kind = kind := by
  obtain ⟨v, -, h⟩ := bind_eq_ok.mp h
  obtain ⟨content, -, h⟩ := bind_eq_ok.mp h
  cases h
  rfl

section Kinds

variable {r : Request} {view : ArtifactKind → FileTree} {web : ArtifactKind → Web}
  {kinds : List ArtifactKind} {as : List Artifact}

lemma renderKinds_eq_ok : renderKinds view web r kinds = .ok as ↔
    List.Forall₂ (fun kind a => r.renderOne (view kind) kind (web kind) = .ok a) kinds as := by
  induction kinds generalizing as with
  | nil =>
    rw [renderKinds, List.forall₂_nil_left_iff]
    exact ⟨fun h => (Except.ok.inj h).symm, fun h => h ▸ rfl⟩
  | cons kind rest ih =>
    rw [renderKinds, List.forall₂_cons_left_iff]
    constructor
    · intro h
      obtain ⟨a, ha, h⟩ := bind_eq_ok.mp h
      obtain ⟨more, hmore, h⟩ := bind_eq_ok.mp h
      exact ⟨a, more, ha, ih.mp hmore, (Except.ok.inj h).symm⟩
    · rintro ⟨a, more, ha, hmore, rfl⟩
      exact bind_eq_ok.mpr ⟨a, ha, bind_eq_ok.mpr ⟨more, ih.mpr hmore, rfl⟩⟩

lemma renderKinds_kinds (h : renderKinds view web r kinds = .ok as) :
    as.map Artifact.kind = kinds := by
  replace h := renderKinds_eq_ok.mp h
  induction h with
  | nil => rfl
  | cons ha _ ih => rw [List.map_cons, renderOne_kind ha, ih]

end Kinds

lemma render_pair {r : Request} {t : FileTree} {web : Web} {as : List Artifact}
    (h : r.render t web = .ok as) :
    ∃ command facade, as = [command, facade] ∧ command.kind = .command ∧
      facade.kind = .facade := by
  have hkinds : as.map Artifact.kind = [.command, .facade] := renderKinds_kinds h
  obtain ⟨command, rest, rfl, hcommand, hrest⟩ := List.map_eq_cons_iff.mp hkinds
  obtain ⟨facade, more, rfl, hfacade, hmore⟩ := List.map_eq_cons_iff.mp hrest
  obtain rfl : more = [] := List.map_eq_nil_iff.mp hmore
  exact ⟨command, facade, rfl, hcommand, hfacade⟩

/-! ### What is written -/

lemma generate_run {r : Request} {t t' : FileTree} {web : Web}
    {outcome : Except Failure (List Placed)} (h : r.generate t web = (t', outcome)) :
    (∃ failure, r.render t web = .error failure ∧ t' = t ∧ outcome = .error failure) ∨
      ∃ as, r.render t web = .ok as ∧ Run r t as t' outcome := by
  unfold generate at h
  cases hrender : r.render t web with
  | error failure =>
    rw [hrender] at h
    cases h
    exact .inl ⟨failure, rfl, rfl, rfl⟩
  | ok as =>
    rw [hrender] at h
    have hrun := placeAll_run r t as
    simp only at h
    rw [h] at hrun
    exact .inr ⟨as, rfl, hrun⟩

lemma read_congr {t : FileTree} {path path' : Bytes}
    (h : t.locate (.ofBytes path) = t.locate (.ofBytes path')) : t.read path = t.read path' := by
  rw [FileTree.read, FileTree.read, h]

lemma eq_mk_of_snd {α β : Type} {p : α × β} {b : β} (h : p.2 = b) : p = (p.1, b) := by
  rw [← h]

/-- A model, two templates, and a file in the way of a directory. -/
def sampleFiles : FileTree where
  entries := [
    ([Text.toUtf8 "m"], .file (Text.toUtf8 "<a/>")),
    ([Text.toUtf8 "c"], .file (Text.toUtf8 "command")),
    ([Text.toUtf8 "f"], .file (Text.toUtf8 "facade")),
    ([Text.toUtf8 "b"], .file [])]

/-- A request for the artifacts of a command without options, in two directories. -/
def sample (command facade : Text) : Request where
  locator := "m"
  tag := "a"
  spec := ⟨"g", "k", .core⟩
  templates := []
  command := ⟨"c", command⟩
  facade := ⟨"f", facade⟩

/-- **What is on disk**: with every file overwritten, the artifacts that are reported as written
are those that the files before render to, and the path of each leads to its text. Only when both
paths lead to one file, the text of the facade is in it. -/
theorem generate_onDisk {r : Request} (hrule : r.overwrite = .always) {t t' : FileTree} {web : Web}
    {done : List Placed} (h : r.generate t web = (t', .ok done)) :
    ∃ command facade, r.render t web = .ok [command, facade] ∧
      command.kind = .command ∧ facade.kind = .facade ∧
      done = [r.placed command .written, r.placed facade .written] ∧
      t'.read (Text.toUtf8 (r.path facade)) = .ok (Text.toUtf8 facade.content) ∧
      (t'.locate (r.route command) ≠ t'.locate (r.route facade) →
        t'.read (Text.toUtf8 (r.path command)) = .ok (Text.toUtf8 command.content)) ∧
      (t'.locate (r.route command) = t'.locate (r.route facade) →
        t'.read (Text.toUtf8 (r.path command)) = .ok (Text.toUtf8 facade.content)) := by
  rcases generate_run h with ⟨failure, -, -, hfail⟩ | ⟨as, hrender, hrun⟩
  · cases hfail
  obtain ⟨command, facade, rfl, hcommand, hfacade⟩ := render_pair hrender
  have hlast : t'.read (Text.toUtf8 (r.path facade)) = .ok (Text.toUtf8 facade.content) :=
    hrun.read hrule [command] [] (by simp)
  have hfirst : t'.locate (r.route command) ≠ t'.locate (r.route facade) →
      t'.read (Text.toUtf8 (r.path command)) = .ok (Text.toUtf8 command.content) := by
    intro hne
    refine hrun.read hrule [] [facade] fun later hlater => ?_
    rw [List.mem_singleton.mp hlater]
    exact hne.symm
  exact ⟨command, facade, hrender, hcommand, hfacade, hrun.placed_eq hrule, hlast, hfirst,
    fun hsame => (read_congr hsame).trans hlast⟩

theorem generate_onDisk_sample :
    ((sample "x" "y").generate sampleFiles).1.read (Text.toUtf8 "x/g/k.py") =
        .ok (Text.toUtf8 "command") ∧
      ((sample "x" "y").generate sampleFiles).1.read (Text.toUtf8 "y/g/k.py") =
        .ok (Text.toUtf8 "facade") := by
  have hrender : (sample "x" "y").render sampleFiles =
      .ok [⟨.command, "g/k.py", "command"⟩, ⟨.facade, "g/k.py", "facade"⟩] := by decide +kernel
  have hgenerate : (sample "x" "y").generate sampleFiles =
      (((sample "x" "y").generate sampleFiles).1,
        .ok [⟨.command, "x/g/k.py", .written⟩, ⟨.facade, "y/g/k.py", .written⟩]) :=
    eq_mk_of_snd (by decide +kernel)
  obtain ⟨command, facade, hpair, -, -, -, hlast, hfirst, -⟩ := generate_onDisk rfl hgenerate
  have hartifacts := Except.ok.inj (hrender.symm.trans hpair)
  obtain ⟨rfl, hrest⟩ := List.cons.inj hartifacts
  obtain ⟨rfl, -⟩ := List.cons.inj hrest
  exact ⟨hfirst (by decide +kernel), hlast⟩

/-- With both artifacts in one directory, the facade takes the place of the command. -/
theorem not_forall_read_eq_content :
    ¬∀ (r : Request) (t t' : FileTree) (web : Web) (done : List Placed) (as : List Artifact),
      r.overwrite = .always → r.generate t web = (t', .ok done) → r.render t web = .ok as →
        ∀ p ∈ done, ∀ a ∈ as, a.kind = p.kind →
          t'.read (Text.toUtf8 p.path) = .ok (Text.toUtf8 a.content) := by
  intro h
  have hrender : (sample "x" "x").render sampleFiles =
      .ok [⟨.command, "g/k.py", "command"⟩, ⟨.facade, "g/k.py", "facade"⟩] := by decide +kernel
  have hgenerate : (sample "x" "x").generate sampleFiles =
      (((sample "x" "x").generate sampleFiles).1,
        .ok [⟨.command, "x/g/k.py", .written⟩, ⟨.facade, "x/g/k.py", .written⟩]) :=
    eq_mk_of_snd (by decide +kernel)
  have hread := h _ _ _ _ _ _ rfl hgenerate hrender _ List.mem_cons_self _ List.mem_cons_self rfl
  have hfound : ((sample "x" "x").generate sampleFiles).1.read (Text.toUtf8 "x/g/k.py") ≠
      .ok (Text.toUtf8 "command") := by decide +kernel
  exact hfound hread

end ClickGen.Request
