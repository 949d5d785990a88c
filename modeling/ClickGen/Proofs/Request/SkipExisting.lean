import ClickGen.Proofs.Request.Rerun

/-!
Sessions of requests that leave files alone. Directories stay directories and files stay files; a
file also keeps its content, unless an artifact goes astray to it, which takes a path that goes up
out of a directory that is missing. What a session does to a file is said by the texts that go
astray to it, one step for each artifact and one for each request.
-/

namespace ClickGen

open FileTree (Keeps KeepsFiles WriteResult)

namespace Request

variable {r : Request} {t t' : FileTree} {web : Web}

/-- The texts that go astray to a place, in the order in which they are written. -/
def strayTexts (r : Request) (place : Location) : FileTree → List Artifact → List Bytes
  | _, [] => []
  | t, a :: rest =>
    let own :=
      if t.stray? (Text.toUtf8 (r.path a)) = some place then [Text.toUtf8 a.content] else []
    match r.store t a with
    | (_, .error _) => own
    | (next, .ok _) => own ++ r.strayTexts place next rest

lemma store_wellFormed (ht : t.WellFormed) {a : Artifact} {result : Except FileFault WriteResult}
    (h : r.store t a = (t', result)) : t'.WellFormed :=
  ht.store h

lemma Run.wellFormed {as : List Artifact} {outcome : Except Failure (List Placed)}
    (h : Run r t as t' outcome) (ht : t.WellFormed) : t'.WellFormed := by
  induction h with
  | nil => exact ht
  | failed store => exact store_wellFormed ht store
  | cons store _ ih => exact ih (store_wellFormed ht store)

lemma file?_of_store (hrule : r.overwrite = .ifMissing) (ht : t.WellFormed) {a : Artifact}
    {result : Except FileFault WriteResult} (h : r.store t a = (t', result)) {place : Location}
    {old : Bytes} (hold : t.file? place = some old) :
    t'.file? place = some (if t.stray? (Text.toUtf8 (r.path a)) = some place
      then Text.toUtf8 a.content else old) := by
  rw [store, hrule] at h
  exact FileTree.file?_store ht h hold

lemma Run.file?_eq_getLastD (hrule : r.overwrite = .ifMissing) {as : List Artifact}
    {outcome : Except Failure (List Placed)} (h : Run r t as t' outcome) (ht : t.WellFormed)
    {place : Location} {old : Bytes} (hold : t.file? place = some old) :
    t'.file? place = some ((r.strayTexts place t as).getLastD old) := by
  induction h generalizing old with
  | nil => exact hold
  | @failed t t' a rest fault store =>
    rw [file?_of_store hrule ht store hold, strayTexts, store]
    simp only
    split_ifs <;> rfl
  | @cons t next t' a rest result outcome store run ih =>
    have hnext := ih (store_wellFormed ht store) (file?_of_store hrule ht store hold)
    rw [hnext, strayTexts, store]
    simp only
    split_ifs
    · rw [List.singleton_append, List.getLastD_cons]
    · rw [List.nil_append]

lemma Run.strayTexts_eq_nil {as : List Artifact} {outcome : Except Failure (List Placed)}
    (h : Run r t as t' outcome) (ht : t.WellFormed)
    (hpaths : ∀ a ∈ as, t.Grounded (Text.toUtf8 (r.path a))) (place : Location) :
    r.strayTexts place t as = [] := by
  induction h with
  | nil => rfl
  | @failed t t' a rest fault store =>
    rw [strayTexts, store, FileTree.stray?_eq_none ht (hpaths a (by simp))]
    simp
  | @cons t next t' a rest result outcome store run ih =>
    have hrest := ih (store_wellFormed ht store) fun other hother =>
      (hpaths other (by simp [hother])).of_keeps (stores store).keeps
    rw [strayTexts, store, FileTree.stray?_eq_none ht (hpaths a (by simp))]
    simp [hrest]

end Request

/-! ### Sessions -/

structure Call where
  request : Request
  web : Web

namespace Call

def run (c : Call) (t : FileTree) : FileTree × Except Failure (List Placed) :=
  c.request.generate t c.web

/-- The texts of the request that go astray to a place. -/
def strayTexts (c : Call) (place : Location) (t : FileTree) : List Bytes :=
  match c.request.render t c.web with
  | .error _ => []
  | .ok as => c.request.strayTexts place t as

variable {c : Call} {t : FileTree}

lemma run_cases (c : Call) (t : FileTree) :
    ((c.run t).1 = t ∧ ∀ place, c.strayTexts place t = []) ∨
      ∃ as, c.request.render t c.web = .ok as ∧ Request.Run c.request t as (c.run t).1 (c.run t).2 ∧
        ∀ place, c.strayTexts place t = c.request.strayTexts place t as := by
  unfold run strayTexts Request.generate
  cases hrender : c.request.render t c.web with
  | error failure => exact .inl ⟨rfl, fun _ => rfl⟩
  | ok as => exact .inr ⟨as, rfl, Request.placeAll_run c.request t as, fun _ => rfl⟩

lemma run_wellFormed (ht : t.WellFormed) : (c.run t).1.WellFormed := by
  rcases c.run_cases t with ⟨heq, -⟩ | ⟨as, -, hrun, -⟩
  · rwa [heq]
  · exact hrun.wellFormed ht

lemma run_keeps : Keeps t (c.run t).1 := by
  rcases c.run_cases t with ⟨heq, -⟩ | ⟨as, -, hrun, -⟩
  · rw [heq]
    exact Keeps.refl t
  · exact hrun.keeps

lemma file?_run (hrule : c.request.overwrite = .ifMissing) (ht : t.WellFormed) {place : Location}
    {old : Bytes} (hold : t.file? place = some old) :
    (c.run t).1.file? place = some ((c.strayTexts place t).getLastD old) := by
  rcases c.run_cases t with ⟨heq, htexts⟩ | ⟨as, -, hrun, htexts⟩
  · rw [heq, htexts]
    exact hold
  · rw [htexts]
    exact hrun.file?_eq_getLastD hrule ht hold

lemma strayTexts_eq_nil (ht : t.WellFormed)
    (h : ∀ kind, t.Grounded (Text.toUtf8 (c.request.destination kind))) (place : Location) :
    c.strayTexts place t = [] := by
  rcases c.run_cases t with ⟨-, htexts⟩ | ⟨as, hrender, hrun, htexts⟩
  · exact htexts place
  · rw [htexts]
    refine hrun.strayTexts_eq_nil ht (fun a ha => ?_) place
    obtain ⟨kind, hkind⟩ := Request.path_mem_of_render hrender ha
    rw [hkind]
    exact h kind

end Call

/-- The files after requests that are made one after the other. -/
def session (t : FileTree) : List Call → FileTree
  | [] => t
  | c :: rest => session (c.run t).1 rest

namespace Session

/-- The texts that go astray to a place in a session. -/
def strayTexts (place : Location) (t : FileTree) : List Call → List Bytes
  | [] => []
  | c :: rest => c.strayTexts place t ++ strayTexts place (c.run t).1 rest

/-- Texts go astray to some file, and the last of them is not what the file holds already. -/
def GoesAstray (t : FileTree) (calls : List Call) : Prop :=
  ∃ place old, t.file? place = some old ∧ (strayTexts place t calls).getLastD old ≠ old

variable {t : FileTree} {calls : List Call}

lemma getLastD_append {α : Type} (xs ys : List α) (a : α) :
    (xs ++ ys).getLastD a = ys.getLastD (xs.getLastD a) := by
  induction xs generalizing a with
  | nil => rfl
  | cons x xs ih => rw [List.cons_append, List.getLastD_cons, List.getLastD_cons, ih]

lemma session_wellFormed (ht : t.WellFormed) (calls : List Call) :
    (session t calls).WellFormed := by
  induction calls generalizing t with
  | nil => exact ht
  | cons c rest ih => exact ih (Call.run_wellFormed ht)

lemma session_keeps (t : FileTree) (calls : List Call) : Keeps t (session t calls) := by
  induction calls generalizing t with
  | nil => exact Keeps.refl t
  | cons c rest ih => exact Call.run_keeps.trans (ih _)

lemma file?_session (hcalls : ∀ c ∈ calls, c.request.overwrite = .ifMissing) (ht : t.WellFormed)
    {place : Location} {old : Bytes} (hold : t.file? place = some old) :
    (session t calls).file? place = some ((strayTexts place t calls).getLastD old) := by
  induction calls generalizing t old with
  | nil => exact hold
  | cons c rest ih =>
    have hfirst := Call.file?_run (hcalls c (by simp)) ht hold
    have hrest := ih (fun other hother => hcalls other (by simp [hother]))
      (Call.run_wellFormed ht) hfirst
    rw [session, hrest, strayTexts, getLastD_append]

/-- The files of the beginning are there at the end exactly if nothing goes astray to them. -/
lemma files_kept_iff (hcalls : ∀ c ∈ calls, c.request.overwrite = .ifMissing)
    (ht : t.WellFormed) :
    (∀ place content, t.file? place = some content →
      (session t calls).file? place = some content) ↔ ¬GoesAstray t calls := by
  constructor
  · rintro hkept ⟨place, old, hold, hne⟩
    have hlast := (file?_session hcalls ht hold).symm.trans (hkept place old hold)
    exact hne (Option.some.inj hlast)
  · intro h place content hcontent
    rw [file?_session hcalls ht hcontent]
    by_contra hne
    exact h ⟨place, content, hcontent, fun heq => hne (congrArg some heq)⟩

lemma strayTexts_eq_nil (ht : t.WellFormed)
    (h : ∀ c ∈ calls, ∀ kind, t.Grounded (Text.toUtf8 (c.request.destination kind)))
    (place : Location) : strayTexts place t calls = [] := by
  induction calls generalizing t with
  | nil => rfl
  | cons c rest ih =>
    have hrest := ih (Call.run_wellFormed ht) fun other hother kind =>
      (h other (by simp [hother]) kind).of_keeps (Call.run_keeps (c := c))
    rw [strayTexts, Call.strayTexts_eq_nil ht (h c (by simp)), hrest, List.append_nil]

lemma not_goesAstray (ht : t.WellFormed)
    (h : ∀ c ∈ calls, ∀ kind, t.Grounded (Text.toUtf8 (c.request.destination kind))) :
    ¬GoesAstray t calls := by
  rintro ⟨place, old, -, hne⟩
  rw [strayTexts_eq_nil ht h] at hne
  exact hne rfl

lemma run_again (ht : t.WellFormed) {c : Call} (hrule : c.request.overwrite = .ifMissing)
    (hstray : ¬GoesAstray t [c]) {t' : FileTree} {done : List Placed}
    (h : c.run t = (t', .ok done)) : c.run t' = (t', .ok (done.map Placed.skip)) := by
  have hcalls : ∀ other ∈ [c], other.request.overwrite = .ifMissing := by simpa using hrule
  have hkept := (files_kept_iff hcalls ht).mpr hstray
  have hkeeps := session_keeps t [c]
  rw [session, session, h] at hkept hkeeps
  rcases Request.generate_run h with ⟨failure, -, -, hfail⟩ | ⟨as, hrender, -⟩
  · cases hfail
  · exact (Request.generate_again hrule h).mpr
      ⟨as, Request.render_of_keepsFiles ⟨hkeeps, fun hfile => hkept _ _ hfile⟩ hrender⟩

/-- The sample, and a module that is there already. -/
def sampleFiles : FileTree :=
  { Request.sampleFiles with
    entries := Request.sampleFiles.entries ++
      [([Text.toUtf8 "g"], .directory),
        ([Text.toUtf8 "g", Text.toUtf8 "k.py"], .file (Text.toUtf8 "kept"))] }

lemma sampleFiles_wellFormed : sampleFiles.WellFormed :=
  FileTree.wellFormed_of_entries (by decide +kernel) (by decide +kernel)

def sample (command facade : Text) : Call where
  request := { Request.sample command facade with overwrite := .ifMissing }
  web := .offline

/-- **What is left alone** by requests that leave files alone: directories stay directories, and
the files of the beginning keep their content exactly if nothing goes astray to them, as when no
path goes up out of a directory that is missing. A request that succeeded and is made again skips
everything and changes nothing, exactly if it can still be rendered, as when it left all files
alone itself. -/
theorem session_ifMissing (ht : t.WellFormed)
    (hcalls : ∀ c ∈ calls, c.request.overwrite = .ifMissing) :
    (∀ place, t.isDirectory place → (session t calls).isDirectory place) ∧
      ((∀ place content, t.file? place = some content →
        (session t calls).file? place = some content) ↔ ¬GoesAstray t calls) ∧
      ((∀ c ∈ calls, ∀ kind, t.Grounded (Text.toUtf8 (c.request.destination kind))) →
        ¬GoesAstray t calls) ∧
      ∀ (c : Call) (t' : FileTree) (done : List Placed), c.request.overwrite = .ifMissing →
        c.run (session t calls) = (t', .ok done) →
          (c.run t' = (t', .ok (done.map Placed.skip)) ↔
            ∃ as, c.request.render t' c.web = .ok as) ∧
          (¬GoesAstray (session t calls) [c] → c.run t' = (t', .ok (done.map Placed.skip))) :=
  ⟨fun _ hd => (session_keeps t calls).directory hd, files_kept_iff hcalls ht, not_goesAstray ht,
    fun _ _ _ hrule h => ⟨Request.generate_again hrule h,
      fun hstray => run_again (session_wellFormed ht calls) hrule hstray h⟩⟩

/-- The module is skipped by the first request. The second puts the command somewhere else, finds
the facade there, and is made again. -/
theorem session_ifMissing_sample :
    (session sampleFiles [sample "." "y"]).file? [Text.toUtf8 "g", Text.toUtf8 "k.py"] =
        some (Text.toUtf8 "kept") ∧
      ∃ t', (sample "z" "y").run (session sampleFiles [sample "." "y"]) =
          (t', .ok [⟨.command, "z/g/k.py", .written⟩, ⟨.facade, "y/g/k.py", .skipped⟩]) ∧
        (sample "z" "y").run t' =
          (t', .ok [⟨.command, "z/g/k.py", .skipped⟩, ⟨.facade, "y/g/k.py", .skipped⟩]) := by
  have hcalls : ∀ c ∈ [sample "." "y"], c.request.overwrite = .ifMissing := by decide
  have hgrounded : ∀ c ∈ [sample "." "y"], ∀ kind,
      sampleFiles.Grounded (Text.toUtf8 (c.request.destination kind)) := by
    intro c hc kind
    obtain rfl := List.mem_singleton.mp hc
    cases kind <;> exact FileTree.grounded_of_notMem (by decide +kernel)
  obtain ⟨-, hfiles, hastray, hagain⟩ := session_ifMissing sampleFiles_wellFormed hcalls
  have hrun : (sample "z" "y").run (session sampleFiles [sample "." "y"]) =
      (((sample "z" "y").run (session sampleFiles [sample "." "y"])).1,
        .ok [⟨.command, "z/g/k.py", .written⟩, ⟨.facade, "y/g/k.py", .skipped⟩]) :=
    Request.eq_mk_of_snd (by decide +kernel)
  have hnext : ¬GoesAstray (session sampleFiles [sample "." "y"]) [sample "z" "y"] := by
    refine not_goesAstray (session_wellFormed sampleFiles_wellFormed _) fun c hc kind => ?_
    obtain rfl := List.mem_singleton.mp hc
    cases kind <;> exact FileTree.grounded_of_notMem (by decide +kernel)
  exact ⟨hfiles.mpr (hastray hgrounded) _ _ (by decide +kernel), _, hrun,
    (hagain _ _ _ rfl hrun).2 hnext⟩

/-- A directory that is missing, and left again at once, leads past the question whether the module
is there. -/
theorem not_forall_files_kept :
    ¬∀ (t : FileTree) (calls : List Call), t.WellFormed →
      (∀ c ∈ calls, c.request.overwrite = .ifMissing) →
        ∀ place content, t.file? place = some content →
          (session t calls).file? place = some content := by
  intro h
  have hkept := h sampleFiles [sample "x/.." "y"] sampleFiles_wellFormed (by decide)
    [Text.toUtf8 "g", Text.toUtf8 "k.py"] (Text.toUtf8 "kept") (by decide +kernel)
  exact absurd hkept (by decide +kernel)

end Session

end ClickGen
