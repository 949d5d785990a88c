import ClickGen.Proofs.Request.OnDisk

/-!
What a command that could not be generated leaves behind. Both artifacts are rendered before the
first one is written, so that most failures leave every file as it was. There is one that does
not: when the facade cannot be written, the command is there already.
-/

namespace ClickGen.Request

/-- The command is written over something else, and then the facade cannot be written. -/
def HalfWritten (r : Request) (t : FileTree) (web : Web) : Prop :=
  ∃ command facade next place, r.render t web = .ok [command, facade] ∧
    r.store t command = (next, .ok .written) ∧
    (∃ fault, (r.store next facade).2 = .error fault) ∧
    next.locate (r.route command) = .ok place ∧
    t.file? place ≠ some (Text.toUtf8 command.content)

variable {r : Request} {t next t' : FileTree} {web : Web} {command facade : Artifact}

lemma HalfWritten.store_eq (h : r.HalfWritten t web)
    (hrender : r.render t web = .ok [command, facade]) :
    ∃ next place, r.store t command = (next, .ok .written) ∧
      next.locate (r.route command) = .ok place ∧
      t.file? place ≠ some (Text.toUtf8 command.content) := by
  obtain ⟨command', facade', next, place, hrender', hstore, -, hlocate, hnew⟩ := h
  have hartifacts := Except.ok.inj (hrender.symm.trans hrender')
  obtain rfl : command = command' := (List.cons.inj hartifacts).1
  exact ⟨next, place, hstore, hlocate, hnew⟩

lemma not_halfWritten {result : Except FileFault FileTree.WriteResult}
    (hrender : r.render t web = .ok [command, facade]) (hstore : r.store t command = (next, result))
    (hresult : result ≠ .ok .written) : ¬r.HalfWritten t web := by
  intro h
  obtain ⟨next', place, hstore', -⟩ := h.store_eq hrender
  exact hresult (congrArg Prod.snd (hstore.symm.trans hstore'))

lemma halfWritten_iff {fault : FileFault} {place : Location}
    (hrender : r.render t web = .ok [command, facade])
    (hstore : r.store t command = (next, .ok .written))
    (hfacade : r.store next facade = (t', .error fault))
    (hlocate : next.locate (r.route command) = .ok place) :
    r.HalfWritten t web ↔ t.file? place ≠ some (Text.toUtf8 command.content) := by
  constructor
  · intro h
    obtain ⟨next', place', hstore', hlocate', hnew⟩ := h.store_eq hrender
    obtain rfl : next = next' := congrArg Prod.fst (hstore.symm.trans hstore')
    obtain rfl : place = place' := Except.ok.inj (hlocate.symm.trans hlocate')
    exact hnew
  · intro hnew
    exact ⟨command, facade, next, place, hrender, hstore, ⟨fault, by rw [hfacade]⟩, hlocate, hnew⟩

/-- How generating can fail: before or at the command, where no file changes, or at the facade. -/
lemma generate_error_cases {failure : Failure} (h : r.generate t web = (t', .error failure)) :
    (∀ place, t'.file? place = t.file? place) ∧ ¬r.HalfWritten t web ∨
      ∃ command facade next fault place, r.render t web = .ok [command, facade] ∧
        r.store t command = (next, .ok .written) ∧ r.store next facade = (t', .error fault) ∧
        next.locate (r.route command) = .ok place ∧
        ∀ other, t'.file? other =
          if other = place then some (Text.toUtf8 command.content) else t.file? other := by
  rcases generate_run h with ⟨failure', hrender, rfl, -⟩ | ⟨as, hrender, hrun⟩
  · refine .inl ⟨fun _ => rfl, ?_⟩
    rintro ⟨command, facade, next, place, hrender', -⟩
    cases hrender.symm.trans hrender'
  obtain ⟨command, facade, rfl, -, -⟩ := render_pair hrender
  rcases hrun.of_cons_error with ⟨fault, hstore, -⟩ | ⟨next, result, hstore, hrest⟩
  · exact .inl ⟨file?_of_failed hstore, not_halfWritten hrender hstore (by simp)⟩
  obtain ⟨fault, hfacade⟩ : ∃ fault, r.store next facade = (t', .error fault) := by
    rcases hrest.of_cons_error with ⟨fault, hfacade, -⟩ | ⟨last, result', -, hnil⟩
    · exact ⟨fault, hfacade⟩
    · cases hnil
  have hnext : ∀ place, t'.file? place = next.file? place := file?_of_failed hfacade
  cases stores hstore with
  | skipped => exact .inl ⟨hnext, not_halfWritten hrender hstore (by simp)⟩
  | written _ wrote locate =>
    exact .inr ⟨command, facade, next, fault, _, hrender, hstore, hfacade, locate,
      fun other => (hnext other).trans (wrote.file? other)⟩

/-- **No half-written pair**, but for one failure: when generating fails, the files are those of
before, unless the command was written over something else and then the facade failed. -/
theorem generate_error_files {failure : Failure}
    (h : r.generate t web = (t', .error failure)) :
    (∀ place, t'.file? place = t.file? place) ↔ ¬r.HalfWritten t web := by
  rcases generate_error_cases h with
    ⟨hsame, hhalf⟩ | ⟨command, facade, next, fault, place, hrender, hstore, hfacade, hlocate, hfile⟩
  · exact iff_of_true hsame hhalf
  · rw [halfWritten_iff hrender hstore hfacade hlocate, not_not]
    constructor
    · intro hsame
      rw [← hsame place, hfile place, if_pos rfl]
    · intro hsame other
      rw [hfile]
      split_ifs with hother
      · rw [hother, hsame]
      · rfl

lemma generate_blocked : (sample "x" "b").generate sampleFiles =
    (((sample "x" "b").generate sampleFiles).1, .error (.write "b/g/k.py" .notADirectory)) :=
  eq_mk_of_snd (by decide +kernel)

theorem generate_error_files_blocked : (sample "x" "b").HalfWritten sampleFiles .offline := by
  by_contra hhalf
  have hsame := (generate_error_files generate_blocked).mpr hhalf
    [Text.toUtf8 "x", Text.toUtf8 "g", Text.toUtf8 "k.py"]
  exact absurd hsame (by decide +kernel)

/-- The command is written although the facade cannot be. -/
theorem not_forall_file_eq_of_error :
    ¬∀ (r : Request) (t t' : FileTree) (web : Web) (failure : Failure),
      r.generate t web = (t', .error failure) → ∀ place, t'.file? place = t.file? place := by
  intro h
  have hsame := h _ _ _ _ _ generate_blocked [Text.toUtf8 "x", Text.toUtf8 "g", Text.toUtf8 "k.py"]
  exact absurd hsame (by decide +kernel)

/-- **What half a pair is**: a file that changes although generating fails is the one of the
command, and it holds all of its text. -/
theorem generate_error_changed {failure : Failure}
    (h : r.generate t web = (t', .error failure)) {place : Location}
    (hchanged : t'.file? place ≠ t.file? place) :
    ∃ command facade, r.render t web = .ok [command, facade] ∧
      t'.locate (r.route command) = .ok place ∧
      t'.file? place = some (Text.toUtf8 command.content) := by
  rcases generate_error_cases h with
    ⟨hsame, -⟩ | ⟨command, facade, next, fault, written, hrender, hstore, hfacade, hlocate, hfile⟩
  · exact absurd (hsame place) hchanged
  · have hplace : place = written := by
      by_contra hne
      exact hchanged ((hfile place).trans (if_neg hne))
    subst hplace
    exact ⟨command, facade, hrender, (stores hfacade).keeps.locate hlocate,
      (hfile place).trans (if_pos rfl)⟩

end ClickGen.Request
