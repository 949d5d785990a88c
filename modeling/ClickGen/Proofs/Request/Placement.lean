import ClickGen.Proofs.File.Write
import ClickGen.Request

/-!
Artifacts put in their places one after the other, as a run with one store for each artifact, and
what such a run does to the files that were there and to those that it writes.
-/

namespace ClickGen.Request

open FileTree (Keeps Stores WriteResult)

def path (r : Request) (a : Artifact) : Text := a.path (r.layout a.kind).directory

def route (r : Request) (a : Artifact) : Route := .ofBytes (Text.toUtf8 (r.path a))

def placed (r : Request) (a : Artifact) (result : WriteResult) : Placed :=
  ⟨a.kind, r.path a, result⟩

def store (r : Request) (t : FileTree) (a : Artifact) :
    FileTree × Except FileFault WriteResult :=
  t.store (Text.toUtf8 (r.path a)) (Text.toUtf8 a.content) r.overwrite

lemma stores {r : Request} {t next : FileTree} {a : Artifact}
    {result : Except FileFault WriteResult} (h : r.store t a = (next, result)) :
    Stores t (Text.toUtf8 (r.path a)) (Text.toUtf8 a.content) r.overwrite next result :=
  FileTree.store_stores h

lemma place_eq (r : Request) (t : FileTree) (a : Artifact) :
    a.place t (r.layout a.kind).directory r.overwrite =
      match r.store t a with
      | (next, .ok result) => (next, .ok (r.placed a result))
      | (next, .error fault) => (next, .error (.write (r.path a) fault)) := rfl

/-- A run over artifacts, up to the first one that cannot be stored. -/
inductive Run (r : Request) :
    FileTree → List Artifact → FileTree → Except Failure (List Placed) → Prop where
  | nil {t} : Run r t [] t (.ok [])
  | failed {t t' a rest fault} (store : r.store t a = (t', .error fault)) :
    Run r t (a :: rest) t' (.error (.write (r.path a) fault))
  | cons {t next t' a rest result outcome} (store : r.store t a = (next, .ok result))
    (run : Run r next rest t' outcome) :
    Run r t (a :: rest) t' (outcome.map (r.placed a result :: ·))

lemma placeAll_run (r : Request) (t : FileTree) (as : List Artifact) :
    Run r t as (r.placeAll t as).1 (r.placeAll t as).2 := by
  induction as generalizing t with
  | nil => exact .nil
  | cons a rest ih =>
    rw [placeAll, place_eq]
    cases hstore : r.store t a with
    | mk next result =>
      cases result with
      | error fault => exact .failed hstore
      | ok result =>
        have hrun := ih next
        simp only
        cases hrest : r.placeAll next rest with
        | mk t' outcome =>
          rw [hrest] at hrun
          cases outcome with
          | error failure => exact .cons hstore hrun
          | ok more => exact .cons hstore hrun

lemma Run.of_cons_ok {r : Request} {t t' : FileTree} {a : Artifact} {rest : List Artifact}
    {done : List Placed} (h : Run r t (a :: rest) t' (.ok done)) :
    ∃ next result more, r.store t a = (next, .ok result) ∧ Run r next rest t' (.ok more) ∧
      done = r.placed a result :: more := by
  generalize ho : (Except.ok done : Except Failure (List Placed)) = o at h
  cases h with
  | failed store => cases ho
  | @cons _ next _ _ _ result outcome store run =>
    cases outcome with
    | error failure => cases ho
    | ok more => exact ⟨next, result, more, store, run, Except.ok.inj ho⟩

lemma Run.of_cons_error {r : Request} {t t' : FileTree} {a : Artifact} {rest : List Artifact}
    {failure : Failure} (h : Run r t (a :: rest) t' (.error failure)) :
    (∃ fault, r.store t a = (t', .error fault) ∧ failure = .write (r.path a) fault) ∨
      ∃ next result, r.store t a = (next, .ok result) ∧ Run r next rest t' (.error failure) := by
  generalize ho : (Except.error failure : Except Failure (List Placed)) = o at h
  cases h with
  | failed store => exact .inl ⟨_, store, Except.error.inj ho⟩
  | @cons _ next _ _ _ result outcome store run =>
    cases outcome with
    | error other =>
      obtain rfl : failure = other := Except.error.inj ho
      exact .inr ⟨next, result, store, run⟩
    | ok more => cases ho

lemma file?_of_failed {r : Request} {t t' : FileTree} {a : Artifact} {fault : FileFault}
    (h : r.store t a = (t', .error fault)) (place : Location) :
    t'.file? place = t.file? place := by
  cases stores h with
  | failed adds => exact (adds.settled place).file?

lemma Run.keeps {r : Request} {t t' : FileTree} {as : List Artifact}
    {outcome : Except Failure (List Placed)} (h : Run r t as t' outcome) : Keeps t t' := by
  induction h with
  | nil => exact Keeps.refl _
  | failed store => exact (stores store).keeps
  | cons store _ ih => exact (stores store).keeps.trans ih

lemma Run.file?_eq {r : Request} {t t' : FileTree} {as : List Artifact}
    {outcome : Except Failure (List Placed)} (h : Run r t as t' outcome) {place : Location}
    (hplace : ∀ a ∈ as, t'.locate (r.route a) ≠ .ok place) : t'.file? place = t.file? place := by
  induction h with
  | nil => rfl
  | failed store => exact file?_of_failed store place
  | @cons t next t' a rest result outcome store run ih =>
    have hrest : t'.file? place = next.file? place :=
      ih fun other hother => hplace other (by simp [hother])
    cases stores store with
    | skipped => exact hrest
    | @written _ written _ wrote locate =>
      have hne : place ≠ written := by
        rintro rfl
        exact hplace a (by simp) (run.keeps.locate locate)
      rw [hrest, wrote.file?, if_neg hne]

/-! ### What a run writes -/

lemma exists_of_store {r : Request} (hrule : r.overwrite = .always) {t next : FileTree}
    {a : Artifact} {result : WriteResult} (h : r.store t a = (next, .ok result)) :
    result = .written ∧ ∃ place, next.locate (r.route a) = .ok place ∧
      next.file? place = some (Text.toUtf8 a.content) := by
  cases stores h with
  | skipped missing _ => simp [hrule] at missing
  | @written _ place _ wrote locate =>
    exact ⟨rfl, place, locate, FileTree.file?_eq_some.mpr wrote.self⟩

lemma Run.placed_eq {r : Request} (hrule : r.overwrite = .always) {t t' : FileTree}
    {as : List Artifact} {done : List Placed} (h : Run r t as t' (.ok done)) :
    done = as.map fun a => r.placed a .written := by
  induction as generalizing t done with
  | nil =>
    cases h
    rfl
  | cons a rest ih =>
    obtain ⟨next, result, more, hstore, hrun, rfl⟩ := h.of_cons_ok
    rw [(exists_of_store hrule hstore).1, List.map_cons, ih hrun]

/-- A file that was written holds what was written last to its place. -/
lemma Run.read {r : Request} (hrule : r.overwrite = .always) {t t' : FileTree}
    (before after : List Artifact) {a : Artifact} {done : List Placed}
    (h : Run r t (before ++ a :: after) t' (.ok done))
    (hlast : ∀ later ∈ after, t'.locate (r.route later) ≠ t'.locate (r.route a)) :
    t'.read (Text.toUtf8 (r.path a)) = .ok (Text.toUtf8 a.content) := by
  induction before generalizing t done with
  | nil =>
    obtain ⟨next, result, more, hstore, hrun, -⟩ := h.of_cons_ok
    obtain ⟨-, place, hlocate, hfile⟩ := exists_of_store hrule hstore
    have hlocate' : t'.locate (r.route a) = .ok place := hrun.keeps.locate hlocate
    have hfile' : t'.file? place = next.file? place :=
      hrun.file?_eq fun later hlater => hlocate' ▸ hlast later hlater
    exact FileTree.read_eq_ok.mpr ⟨place, hlocate', hfile'.trans hfile⟩
  | cons other before ih =>
    obtain ⟨next, result, more, -, hrun, -⟩ := h.of_cons_ok
    exact ih hrun

end ClickGen.Request
