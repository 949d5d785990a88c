import ClickGen.Proofs.File.WellFormed

/-!
Paths that go astray. Whether a file is there is asked before the directories on its way are made;
but a path that goes up again out of a directory that is missing leads nowhere before and may lead
to a file after, which is then written over although it was to be left alone. These are all the
cases: a path goes astray only if it goes up out of what is not there.
-/

namespace ClickGen.FileTree

/-- The file that a path leads to when the directories on its way are made, if it leads nowhere
before. -/
def stray? (t : FileTree) (path : Bytes) : Option Location :=
  if t.exists? path then none
  else
    match t.makeDirectories (Route.around path) with
    | (_, .error _) => none
    | (made, .ok ()) =>
      match made.locate (.ofBytes path) with
      | .error _ => none
      | .ok place => if (t.file? place).isSome then some place else none

variable {t t' : FileTree} {path content old : Bytes} {place : Location}

lemma stray?_eq_some : t.stray? path = some place ↔
    t.exists? path = false ∧ ∃ made, t.makeDirectories (Route.around path) = (made, .ok ()) ∧
      made.locate (.ofBytes path) = .ok place ∧ (t.file? place).isSome := by
  constructor
  · intro h
    unfold stray? at h
    split_ifs at h with hexists
    split at h
    · cases h
    · next made hmake =>
      split at h
      · cases h
      · next last hlocate =>
        split_ifs at h with hfile
        obtain rfl : last = place := Option.some.inj h
        exact ⟨by simpa using hexists, made, hmake, hlocate, hfile⟩
  · rintro ⟨hexists, made, hmake, hlocate, hfile⟩
    simp [stray?, hexists, hmake, hlocate, hfile]

lemma notDirectory_of_file? (h : (t.file? place).isSome) : t.entry? place ≠ some .directory := by
  intro hd
  simp [file?, hd] at h

lemma AddsDirectories.entry?_eq (h : AddsDirectories t t') (hs : (t.entry? place).isSome) :
    t'.entry? place = t.entry? place := by
  rcases h.settled place with heq | ⟨hnone, -⟩
  · exact heq
  · simp [hnone] at hs

lemma writeFile_of_locate (ht : t.WellFormed) {r : Route} (hl : t.locate r = .ok place)
    (hf : (t.file? place).isSome) (content : Bytes) :
    t.writeFile r content = .ok (t.set place (.file content)) := by
  obtain ⟨hcheck, hall, hslash⟩ := locate_eq_ok.mp hl
  have hfile : ¬t.isDirectory place := fun hd => notDirectory_of_file? hf (isDirectory_iff.mp hd)
  have hnoslash : r.slash = false := by simpa using fun hs => hfile (hslash hs)
  cases hnames : r.names.reverse with
  | nil =>
    obtain rfl : t.start r = place := by
      rw [List.reverse_eq_nil_iff.mp hnames] at hall
      exact Except.ok.inj hall
    exact absurd (ht.isDirectory_start r) hfile
  | cons last outer =>
    have hparts : r.names = outer.reverse ++ [last] := by
      rw [← List.reverse_reverse r.names, hnames, List.reverse_cons]
    rw [hparts, followAll_append] at hall
    obtain ⟨directory, houter, hall⟩ := hall
    obtain ⟨next, hlast, hnext⟩ := followAll_cons.mp hall
    obtain rfl : next = place := Except.ok.inj hnext
    obtain ⟨hd, hcases⟩ := follow_eq_ok.mp hlast
    rcases hcases with ⟨-, rfl⟩ | ⟨-, -, rfl⟩ | ⟨hhere, habove, hname, -, rfl⟩
    · exact absurd hd hfile
    · exact absurd (ht.around (by rw [isDirectory_iff.mp hd]; rfl)) hfile
    · have htarget : t.target r = .ok (.named (directory ++ [last])) := by
        simp [target, hcheck, ok_bind, hnames, houter, hhere, habove, hd]
      simp [writeFile, htarget, ok_bind, hnoslash, hname, hfile]

lemma store_of_stray (ht : t.WellFormed) (h : t.stray? path = some place) (content : Bytes) :
    ∃ t', t.store path content .ifMissing = (t', .ok .written) ∧ Wrote t place content t' := by
  obtain ⟨hexists, made, hmake, hlocate, hfile⟩ := stray?_eq_some.mp h
  have hadds := makeDirectories_adds hmake
  have hfile' : (made.file? place).isSome := by rwa [(hadds.settled place).file?]
  have hwrite := writeFile_of_locate (ht.makeDirectories hmake) hlocate hfile' content
  have hplace : place ≠ [] := by
    rintro rfl
    exact notDirectory_of_file? hfile (if_pos rfl)
  refine ⟨made.set place (.file content), ?_, hadds.wrote (wrote_set hplace
    (notDirectory_of_file? hfile') content)⟩
  simp [store, hexists, write, hmake, hwrite]

lemma file?_write_of_not_stray (h : t.write path content = (t', .ok ()))
    (hexists : t.exists? path = false) (hstray : t.stray? path ≠ some place)
    (hold : t.file? place = some old) : t'.file? place = some old := by
  obtain ⟨made, hmake, hwritten⟩ := write_eq_ok h
  obtain ⟨outer, last, directory, hleads, hslash, hname, hne, rfl⟩ := writeFile_eq_ok hwritten
  have hfile : made.file? place = some old := by
    rw [((makeDirectories_adds hmake).settled place).file?, hold]
  -- A path that leads to the file once its directories are made goes astray to it.
  have hother : place ≠ directory ++ [last] := by
    rintro rfl
    have hentry : (made.entry? (directory ++ [last])).isSome := by
      rw [file?_eq_some.mp hfile]
      rfl
    have hthere : (t.file? (directory ++ [last])).isSome := by
      rw [hold]
      rfl
    exact hstray (stray?_eq_some.mpr
      ⟨hexists, made, hmake, hleads.locate hslash hname hentry, hthere⟩)
  have hplace : directory ++ [last] ≠ [] := by simp
  rw [(wrote_set hplace hne content).file?, if_neg hother, hfile]

/-- When files are to be left alone, a file changes exactly if the path goes astray to it. -/
lemma file?_store (ht : t.WellFormed) {result : Except FileFault WriteResult}
    (h : t.store path content .ifMissing = (t', result)) (hold : t.file? place = some old) :
    t'.file? place = some (if t.stray? path = some place then content else old) := by
  by_cases hstray : t.stray? path = some place
  · obtain ⟨after, hstore, hwrote⟩ := store_of_stray ht hstray content
    obtain rfl : after = t' := congrArg Prod.fst (hstore.symm.trans h)
    rw [if_pos hstray, hwrote.file?, if_pos rfl]
  · rw [if_neg hstray]
    unfold store at h
    split_ifs at h with hskip
    · obtain rfl : t = t' := congrArg Prod.fst h
      exact hold
    · split at h
      · next after hwrite =>
        obtain rfl : after = t' := congrArg Prod.fst h
        exact file?_write_of_not_stray hwrite (by simpa using hskip) hstray hold
      · next after fault hwrite =>
        obtain rfl : after = t' := congrArg Prod.fst h
        rw [((write_error hwrite).settled place).file?, hold]

/-! ### Where paths go up -/

/-- Wherever the path goes up, it does so out of a directory that is there. -/
def Grounded (t : FileTree) (path : Bytes) : Prop :=
  ∀ before after, (Route.ofBytes path).names = before ++ Route.above :: after →
    ∃ place, t.followAll (t.start (.ofBytes path)) (before ++ [Route.above]) = .ok place

lemma grounded_of_notMem (h : Route.above ∉ (Route.ofBytes path).names) : t.Grounded path := by
  intro before after hnames
  rw [hnames] at h
  exact absurd (by simp) h

lemma Grounded.of_keeps (hk : Keeps t t') (h : t.Grounded path) : t'.Grounded path := by
  intro before after hnames
  obtain ⟨place, hplace⟩ := h before after hnames
  rw [hk.start]
  exact ⟨place, hk.followAll hplace⟩

lemma prefix_of_follow {next : Location} {name : Name} (hname : name ≠ Route.above)
    (h : t.follow place name = .ok next) : place <+: next := by
  obtain ⟨-, ⟨-, rfl⟩ | ⟨-, habove, -⟩ | ⟨-, -, -, -, rfl⟩⟩ := follow_eq_ok.mp h
  · exact List.prefix_rfl
  · exact absurd habove hname
  · exact List.prefix_append place [name]

lemma prefix_of_followAll {last : Location} {names : List Name} (hnames : Route.above ∉ names)
    (h : t.followAll place names = .ok last) : place <+: last := by
  induction names generalizing place with
  | nil =>
    obtain rfl : place = last := Except.ok.inj h
    exact List.prefix_rfl
  | cons name rest ih =>
    rw [List.mem_cons, not_or] at hnames
    obtain ⟨next, hname, hrest⟩ := followAll_cons.mp h
    exact (prefix_of_follow (Ne.symm hnames.1) hname).trans (ih hnames.2 hrest)

lemma followAll_of_adds (ht : t.WellFormed) (ha : AddsDirectories t t') {last : Location}
    (hlast : (t.entry? last).isSome) {names : List Name} (hnames : Route.above ∉ names)
    (h : t'.followAll place names = .ok last) : t.followAll place names = .ok last := by
  induction names generalizing place with
  | nil => exact h
  | cons name rest ih =>
    have hplace := ht.isSome_of_prefix (prefix_of_followAll hnames h) hlast
    rw [List.mem_cons, not_or] at hnames
    obtain ⟨next, hname, hrest⟩ := followAll_cons.mp h
    have hnext := ht.isSome_of_prefix (prefix_of_followAll hnames.2 hrest) hlast
    refine followAll_cons.mpr ⟨next, ?_, ih hnames.2 hrest⟩
    rw [follow_eq_ok] at hname ⊢
    rw [isDirectory_iff, ha.entry?_eq hplace, ha.entry?_eq hnext] at hname
    rwa [isDirectory_iff]

/-- On a path that goes up only out of what is there, no directory on the way to what is there
already is new. -/
lemma Grounded.followAll_of_adds (h : t.Grounded path) (ht : t.WellFormed)
    (ha : AddsDirectories t t') (hplace : (t.entry? place).isSome)
    (hall : t'.followAll (t.start (.ofBytes path)) (Route.ofBytes path).names = .ok place) :
    t.followAll (t.start (.ofBytes path)) (Route.ofBytes path).names = .ok place := by
  by_cases hup : Route.above ∈ (Route.ofBytes path).names
  · -- Behind the last place where it goes up, the path only goes down.
    obtain ⟨after, before, hparts, hafter⟩ :=
      List.eq_append_cons_of_mem (List.mem_reverse.mpr hup)
    have hnames : (Route.ofBytes path).names =
        (before.reverse ++ [Route.above]) ++ after.reverse := by
      rw [← List.reverse_reverse (Route.ofBytes path).names, hparts]
      simp
    obtain ⟨middle, hmiddle⟩ := h before.reverse after.reverse (by simpa using hnames)
    rw [hnames, followAll_append] at hall ⊢
    obtain ⟨middle', hmiddle', hrest⟩ := hall
    obtain rfl := Except.ok.inj ((ha.keeps.followAll hmiddle).symm.trans hmiddle')
    exact ⟨middle, hmiddle, FileTree.followAll_of_adds ht ha hplace (by simpa using hafter) hrest⟩
  · exact FileTree.followAll_of_adds ht ha hplace hup hall

lemma Grounded.locate_of_adds (h : t.Grounded path) (ht : t.WellFormed)
    (ha : AddsDirectories t t') (hplace : (t.entry? place).isSome)
    (hl : t'.locate (.ofBytes path) = .ok place) : t.locate (.ofBytes path) = .ok place := by
  obtain ⟨hcheck, hall, hslash⟩ := locate_eq_ok.mp hl
  rw [ha.keeps.start] at hall
  refine locate_eq_ok.mpr ⟨hcheck, h.followAll_of_adds ht ha hplace hall, fun hs => ?_⟩
  have hd := isDirectory_iff.mp (hslash hs)
  rw [ha.entry?_eq hplace] at hd
  exact isDirectory_iff.mpr hd

/-- **What goes astray**: only paths that go up out of a directory that is missing. -/
theorem stray?_eq_none (ht : t.WellFormed) (h : t.Grounded path) : t.stray? path = none := by
  by_contra hstray
  obtain ⟨place, hplace⟩ := Option.ne_none_iff_exists'.mp hstray
  obtain ⟨hexists, made, hmake, hlocate, hfile⟩ := stray?_eq_some.mp hplace
  obtain ⟨old, hold⟩ := Option.isSome_iff_exists.mp hfile
  have hentry : (t.entry? place).isSome := by
    rw [file?_eq_some.mp hold]
    rfl
  have hthere := h.locate_of_adds ht (makeDirectories_adds hmake) hentry hlocate
  have hfound := exists?_iff.mpr ⟨place, hthere⟩
  rw [hexists] at hfound
  cases hfound

end ClickGen.FileTree
