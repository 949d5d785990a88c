import ClickGen.Proofs.Request.OnDisk
import ClickGen.Report

/-!
What a preview says about the run that it previews. Both begin by rendering, and only the run goes
on; it places the artifacts in their order, each at the path that the preview has for it.
-/

namespace ClickGen.Request

variable {r : Request} {t t' : FileTree} {as : List Artifact}

lemma Run.paths {done : List Placed} (h : Run r t as t' (.ok done)) :
    done.map Placed.path = as.map r.path := by
  induction as generalizing t done with
  | nil =>
    cases h
    rfl
  | cons a rest ih =>
    obtain ⟨next, result, more, -, hrun, rfl⟩ := h.of_cons_ok
    rw [List.map_cons, List.map_cons, ih hrun]
    rfl

lemma Run.eq_write_of_error {failure : Failure} (h : Run r t as t' (.error failure)) :
    ∃ a ∈ as, ∃ fault, failure = .write (r.path a) fault := by
  induction as generalizing t with
  | nil => cases h
  | cons a rest ih =>
    rcases h.of_cons_error with ⟨fault, -, rfl⟩ | ⟨next, result, -, hrun⟩
    · exact ⟨a, by simp, fault, rfl⟩
    · obtain ⟨other, hother, fault, rfl⟩ := ih hrun
      exact ⟨other, by simp [hother], fault, rfl⟩

end ClickGen.Request

namespace ClickGen.Report

variable {r : Request} {t : FileTree} {web : Web}

lemma map_path_preview (r : Request) (as : List Artifact) :
    (as.map (preview r)).map Preview.path = as.map r.path := by
  rw [List.map_map]
  rfl

lemma generate_of_render_error {failure : Failure} (h : r.render t web = .error failure)
    (dryRun : Bool) : generate t r dryRun web = (t, .error failure) := by
  cases dryRun <;> simp [generate, Request.generate, h, Except.map]

lemma generate_dry {as : List Artifact} (h : r.render t web = .ok as) :
    generate t r true web = (t, .ok ⟨r.spec, .previewed (as.map (preview r))⟩) := by
  simp [generate, h, Except.map]

/-- **A preview is kept**: without writing, the files stay as they are. A failure is then also that
of the run, which leaves the files as they are too; and where there is a preview, the run comes to
exactly its paths in their order, or fails to write one of them. -/
theorem generate_preview (t : FileTree) (r : Request) (web : Web) :
    (∃ failure, generate t r true web = (t, .error failure) ∧
        generate t r false web = (t, .error failure)) ∨
      ∃ previews, generate t r true web = (t, .ok ⟨r.spec, .previewed previews⟩) ∧
        ((∃ t' done, generate t r false web = (t', .ok ⟨r.spec, .placed done⟩) ∧
            done.map Placed.path = previews.map Preview.path) ∨
          ∃ t' path fault, generate t r false web = (t', .error (.write path fault)) ∧
            path ∈ previews.map Preview.path) := by
  cases hrender : r.render t web with
  | error failure =>
    exact .inl ⟨failure, generate_of_render_error hrender true,
      generate_of_render_error hrender false⟩
  | ok as =>
    refine .inr ⟨as.map (preview r), generate_dry hrender, ?_⟩
    rw [map_path_preview]
    have hrun := Request.placeAll_run r t as
    have hgenerate : generate t r false web = ((r.placeAll t as).1,
        (r.placeAll t as).2.map fun done => ⟨r.spec, .placed done⟩) := by
      simp [generate, Request.generate, hrender]
    rw [hgenerate]
    cases houtcome : (r.placeAll t as).2 with
    | ok done =>
      rw [houtcome] at hrun
      exact .inl ⟨_, done, rfl, hrun.paths⟩
    | error failure =>
      rw [houtcome] at hrun
      obtain ⟨a, ha, fault, rfl⟩ := hrun.eq_write_of_error
      exact .inr ⟨_, r.path a, fault, rfl, List.mem_map_of_mem ha⟩

end ClickGen.Report
