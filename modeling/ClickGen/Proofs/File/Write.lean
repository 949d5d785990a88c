import ClickGen.Proofs.File.Follow

/-!
What writing does to a file tree. A write that fails leaves some more directories behind and
nothing else; a write that succeeds changes the one file that its path leads to afterwards.
-/

namespace ClickGen.FileTree

lemma isDirectory_iff {t : FileTree} {place : Location} :
    t.isDirectory place ↔ t.entry? place = some .directory := by
  rw [isDirectory, beq_iff_eq]

/-- A place has what it had, or a directory where there was nothing. -/
def Settled (t t' : FileTree) (place : Location) : Prop :=
  t'.entry? place = t.entry? place ∨ t.entry? place = none ∧ t'.entry? place = some .directory

section Settled

variable {t t' t'' : FileTree} {place : Location}

lemma Settled.trans (h : Settled t t' place) (h' : Settled t' t'' place) :
    Settled t t'' place := by
  rcases h' with heq' | ⟨hnone', hdir'⟩
  · rw [Settled, heq']
    exact h
  · rcases h with heq | ⟨hnone, hdir⟩
    · exact .inr ⟨heq ▸ hnone', hdir'⟩
    · exact .inr ⟨hnone, hdir'⟩

lemma Settled.isDirectory (h : Settled t t' place) (hd : t.isDirectory place) :
    t'.isDirectory place := by
  rw [isDirectory_iff] at hd ⊢
  rcases h with heq | ⟨-, hdir⟩
  · exact heq.trans hd
  · exact hdir

lemma Settled.isSome (h : Settled t t' place) (hs : (t.entry? place).isSome) :
    (t'.entry? place).isSome := by
  rcases h with heq | ⟨-, hdir⟩
  · rw [heq]
    exact hs
  · simp [hdir]

lemma Settled.file? (h : Settled t t' place) : t'.file? place = t.file? place := by
  unfold FileTree.file?
  rcases h with heq | ⟨hnone, hdir⟩
  · rw [heq]
  · rw [hnone, hdir]

end Settled

structure AddsDirectories (t t' : FileTree) : Prop where
  working : t'.working = t.working
  settled : ∀ place, Settled t t' place

lemma AddsDirectories.refl (t : FileTree) : AddsDirectories t t := ⟨rfl, fun _ => .inl rfl⟩

lemma AddsDirectories.trans {t t' t'' : FileTree} (h : AddsDirectories t t')
    (h' : AddsDirectories t' t'') : AddsDirectories t t'' :=
  ⟨h'.working.trans h.working, fun place => (h.settled place).trans (h'.settled place)⟩

lemma AddsDirectories.keeps {t t' : FileTree} (h : AddsDirectories t t') : Keeps t t' :=
  ⟨h.working, fun hd => (h.settled _).isDirectory hd, fun hs => (h.settled _).isSome hs⟩

/-- The content is in the file at the place, which was no directory, and there may be more
directories. -/
structure Wrote (t : FileTree) (place : Location) (content : Bytes) (t' : FileTree) : Prop where
  working : t'.working = t.working
  self : t'.entry? place = some (.file content)
  notDirectory : t.entry? place ≠ some .directory
  settled : ∀ other ≠ place, Settled t t' other

lemma Wrote.keeps {t t' : FileTree} {place : Location} {content : Bytes}
    (h : Wrote t place content t') : Keeps t t' where
  working := h.working
  directory := by
    intro other hd
    have hne : other ≠ place := fun heq => h.notDirectory (heq ▸ isDirectory_iff.mp hd)
    exact (h.settled other hne).isDirectory hd
  isSome := by
    intro other hs
    by_cases hother : other = place
    · simp [hother, h.self]
    · exact (h.settled other hother).isSome hs

lemma Wrote.file? {t t' : FileTree} {place : Location} {content : Bytes}
    (h : Wrote t place content t') (other : Location) :
    t'.file? other = if other = place then some content else t.file? other := by
  by_cases hother : other = place
  · rw [if_pos hother, hother]
    exact file?_eq_some.mpr h.self
  · rw [if_neg hother]
    exact (h.settled other hother).file?

lemma makeDirectory_eq_ok {t made : FileTree} {r : Route} (h : t.makeDirectory r = .ok made) :
    ∃ outer last directory, LeadsTo t r outer last directory ∧
      t.entry? (directory ++ [last]) = none ∧ made = t.set (directory ++ [last]) .directory := by
  unfold makeDirectory at h
  obtain ⟨target, htarget, h⟩ := bind_eq_ok.mp h
  cases target with
  | fixed => cases h
  | named place =>
    obtain ⟨outer, last, directory, hleads, rfl⟩ := exists_leadsTo htarget
    obtain ⟨u, -, h⟩ := bind_eq_ok.mp h
    by_cases he : (t.entry? (directory ++ [last])).isSome
    · rw [if_pos he] at h
      cases h
    · rw [if_neg he] at h
      exact ⟨outer, last, directory, hleads, by simpa using he, (Except.ok.inj h).symm⟩

lemma ensureDirectory_eq_ok {t made : FileTree} {r : Route} (h : t.ensureDirectory r = .ok made) :
    t.makeDirectory r = .ok made ∨ made = t := by
  unfold ensureDirectory at h
  cases hmake : t.makeDirectory r with
  | ok after =>
    rw [hmake] at h
    exact .inl h
  | error fault =>
    rw [hmake] at h
    simp only at h
    split at h
    · split_ifs at h
      exact .inr (Except.ok.inj h).symm
    · cases h

/-- How a directory is made with those around it: at once, or after those around it because these
are missing. -/
inductive Makes (t : FileTree) (path : Bytes) (outer : List Bytes) :
    FileTree → Except FileFault Unit → Prop where
  | ensured {made} (ensure : t.ensureDirectory (.ofBytes path) = .ok made) :
    Makes t path outer made (.ok ())
  | refused {fault} (ensure : t.ensureDirectory (.ofBytes path) = .error fault)
    (found : fault ≠ .notFound) : Makes t path outer t (.error fault)
  | failedAround {around fault} (missing : t.ensureDirectory (.ofBytes path) = .error .notFound)
    (make : t.makeDirectories outer = (around, .error fault)) :
    Makes t path outer around (.error fault)
  | ensuredInside {around made} (missing : t.ensureDirectory (.ofBytes path) = .error .notFound)
    (make : t.makeDirectories outer = (around, .ok ()))
    (ensure : around.ensureDirectory (.ofBytes path) = .ok made) : Makes t path outer made (.ok ())
  | refusedInside {around fault} (missing : t.ensureDirectory (.ofBytes path) = .error .notFound)
    (make : t.makeDirectories outer = (around, .ok ()))
    (ensure : around.ensureDirectory (.ofBytes path) = .error fault) :
    Makes t path outer around (.error fault)

lemma makes_of_cons {t made : FileTree} {path : Bytes} {outer : List Bytes}
    {result : Except FileFault Unit} (h : t.makeDirectories (path :: outer) = (made, result)) :
    Makes t path outer made result := by
  rw [makeDirectories] at h
  split at h
  · next first hfirst =>
    cases h
    exact .ensured hfirst
  · next hmissing =>
    split at h
    · next around fault haround =>
      cases h
      exact .failedAround hmissing haround
    · next around haround =>
      split at h
      · next after hafter =>
        cases h
        exact .ensuredInside hmissing haround hafter
      · next fault hfault =>
        cases h
        exact .refusedInside hmissing haround hfault
  · next fault hfound hfault =>
    cases h
    exact .refused hfault hfound

/-- What making one directory keeps up, making directories keeps up. -/
lemma makeDirectories_induct {motive : FileTree → Prop}
    (step : ∀ {t made r}, motive t → t.makeDirectory r = .ok made → motive made)
    {t made : FileTree} {paths : List Bytes} {result : Except FileFault Unit} (ht : motive t)
    (h : t.makeDirectories paths = (made, result)) : motive made := by
  have hensure : ∀ {t made r}, motive t → t.ensureDirectory r = .ok made → motive made := by
    intro t made r ht h
    rcases ensureDirectory_eq_ok h with hmade | rfl
    · exact step ht hmade
    · exact ht
  induction paths generalizing made result with
  | nil =>
    cases h
    exact ht
  | cons path outer ih =>
    cases makes_of_cons h with
    | ensured ensure => exact hensure ht ensure
    | refused _ _ => exact ht
    | failedAround _ make => exact ih make
    | ensuredInside _ make ensure => exact hensure (ih make) ensure
    | refusedInside _ make _ => exact ih make

lemma makeDirectory_adds {t made : FileTree} {r : Route} (h : t.makeDirectory r = .ok made) :
    AddsDirectories t made := by
  obtain ⟨outer, last, directory, -, hnone, rfl⟩ := makeDirectory_eq_ok h
  refine ⟨rfl, fun other => ?_⟩
  rw [Settled, entry?_set (by simp)]
  by_cases hother : other = directory ++ [last]
  · rw [if_pos hother, hother]
    exact .inr ⟨hnone, rfl⟩
  · rw [if_neg hother]
    exact .inl rfl

lemma makeDirectories_adds {t made : FileTree} {paths : List Bytes}
    {result : Except FileFault Unit} (h : t.makeDirectories paths = (made, result)) :
    AddsDirectories t made :=
  makeDirectories_induct (fun ht h => ht.trans (makeDirectory_adds h)) (AddsDirectories.refl t) h

/-! ### Writing files -/

lemma writeFile_eq_ok {t t' : FileTree} {r : Route} {content : Bytes}
    (h : t.writeFile r content = .ok t') :
    ∃ outer last directory, LeadsTo t r outer last directory ∧ r.slash = false ∧
      checkName last = .ok () ∧ t.entry? (directory ++ [last]) ≠ some .directory ∧
      t' = t.set (directory ++ [last]) (.file content) := by
  unfold writeFile at h
  obtain ⟨target, htarget, h⟩ := bind_eq_ok.mp h
  cases target with
  | fixed => cases h
  | named place =>
    obtain ⟨outer, last, directory, hleads, rfl⟩ := exists_leadsTo htarget
    by_cases hslash : r.slash
    · simp only [if_pos hslash] at h
      cases h
    · simp only [if_neg hslash] at h
      obtain ⟨u, hname, h⟩ := bind_eq_ok.mp h
      by_cases hd : t.isDirectory (directory ++ [last])
      · rw [if_pos hd] at h
        cases h
      · rw [if_neg hd] at h
        exact ⟨outer, last, directory, hleads, by simpa using hslash, by simpa using hname,
          fun hdir => hd (isDirectory_iff.mpr hdir), (Except.ok.inj h).symm⟩

lemma wrote_set {t : FileTree} {place : Location} (hplace : place ≠ [])
    (h : t.entry? place ≠ some .directory) (content : Bytes) :
    Wrote t place content (t.set place (.file content)) := by
  refine ⟨rfl, ?_, h, fun other hother => .inl ?_⟩
  · rw [entry?_set hplace, if_pos rfl]
  · rw [entry?_set hplace, if_neg hother]

lemma writeFile_wrote {t t' : FileTree} {r : Route} {content : Bytes}
    (h : t.writeFile r content = .ok t') :
    ∃ place, Wrote t place content t' ∧ t'.locate r = .ok place := by
  obtain ⟨outer, last, directory, hleads, hslash, hlast, hd, rfl⟩ := writeFile_eq_ok h
  have hwrote := wrote_set (by simp) hd content
  exact ⟨_, hwrote, (hleads.of_keeps hwrote.keeps).locate hslash hlast (by simp [hwrote.self])⟩

lemma AddsDirectories.wrote {t made t' : FileTree} {place : Location} {content : Bytes}
    (h : AddsDirectories t made) (hw : Wrote made place content t') : Wrote t place content t' := by
  refine ⟨hw.working.trans h.working, hw.self, fun hdir => ?_,
    fun other hother => (h.settled other).trans (hw.settled other hother)⟩
  have hmade : made.isDirectory place := (h.settled place).isDirectory (isDirectory_iff.mpr hdir)
  exact hw.notDirectory (isDirectory_iff.mp hmade)

lemma write_eq_ok {t t' : FileTree} {path content : Bytes}
    (h : t.write path content = (t', .ok ())) :
    ∃ made, t.makeDirectories (Route.around path) = (made, .ok ()) ∧
      made.writeFile (.ofBytes path) content = .ok t' := by
  unfold write at h
  split at h
  · simp at h
  · next made hmade =>
    split at h
    · next written hwritten =>
      obtain rfl : written = t' := congrArg Prod.fst h
      exact ⟨made, hmade, hwritten⟩
    · simp at h

lemma write_wrote {t t' : FileTree} {path content : Bytes}
    (h : t.write path content = (t', .ok ())) :
    ∃ place, Wrote t place content t' ∧ t'.locate (.ofBytes path) = .ok place := by
  obtain ⟨made, hmade, hwritten⟩ := write_eq_ok h
  obtain ⟨place, hwrote, hlocate⟩ := writeFile_wrote hwritten
  exact ⟨place, (makeDirectories_adds hmade).wrote hwrote, hlocate⟩

lemma write_error {t t' : FileTree} {path content : Bytes} {fault : FileFault}
    (h : t.write path content = (t', .error fault)) : AddsDirectories t t' := by
  unfold write at h
  split at h
  · next made fault' hmade =>
    obtain rfl : made = t' := congrArg Prod.fst h
    exact makeDirectories_adds hmade
  · next made hmade =>
    split at h
    · simp at h
    · obtain rfl : made = t' := congrArg Prod.fst h
      exact makeDirectories_adds hmade

inductive Stores (t : FileTree) (path content : Bytes) (rule : Overwrite) :
    FileTree → Except FileFault WriteResult → Prop where
  | skipped (missing : rule = .ifMissing) (present : t.exists? path) :
    Stores t path content rule t (.ok .skipped)
  | written {t' place} (absent : rule = .ifMissing → t.exists? path = false)
    (wrote : Wrote t place content t') (locate : t'.locate (.ofBytes path) = .ok place) :
    Stores t path content rule t' (.ok .written)
  | failed {t' fault} (adds : AddsDirectories t t') : Stores t path content rule t' (.error fault)

lemma store_stores {t t' : FileTree} {path content : Bytes} {rule : Overwrite}
    {result : Except FileFault WriteResult} (h : t.store path content rule = (t', result)) :
    Stores t path content rule t' result := by
  unfold store at h
  split_ifs at h with hskip
  · cases h
    exact .skipped hskip.1 hskip.2
  · have habsent : rule = .ifMissing → t.exists? path = false := fun hrule => by
      simpa using fun he => hskip ⟨hrule, he⟩
    split at h
    · next after hwrite =>
      cases h
      obtain ⟨place, hwrote, hlocate⟩ := write_wrote hwrite
      exact .written habsent hwrote hlocate
    · next after fault hwrite =>
      cases h
      exact .failed (write_error hwrite)

lemma Stores.keeps {t t' : FileTree} {path content : Bytes} {rule : Overwrite}
    {result : Except FileFault WriteResult} (h : Stores t path content rule t' result) :
    Keeps t t' := by
  cases h with
  | skipped => exact Keeps.refl t
  | written _ hwrote _ => exact hwrote.keeps
  | failed hadds => exact hadds.keeps

end ClickGen.FileTree
