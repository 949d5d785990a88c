import ClickGen.Proofs.File.Direct

/-!
What a write leaves alone. The directories that are missing on the way are made from the outside
inwards, starting at one that is there or can be made; from there on every step succeeds, since
nothing is in the way in a new directory. Main statement: a write that succeeds changes its place
and adds the directories around it, and one that fails has changed nothing, unless a name was too
long; then a file is on the way or a directory is in the place.
-/

namespace ClickGen

namespace FileTree

open Route

variable {t t' : FileTree} {place directory : Location} {fault : FileFault}

section Direct

variable {path : Bytes} {outer : List Name} {name : Name} {made : FileTree}

lemma ensureDirectory_made (hpath : IsDirect path) (hdown : down path = outer ++ [name])
    (h : t.ensureDirectory (ofBytes path) = .ok made) :
    made = t ∧ t.isDirectory (t.placeOf path) ∨
      t.entry? (t.placeOf path) = none ∧ made = t.set (t.placeOf path) .directory := by
  unfold ensureDirectory at h
  cases hmake : t.makeDirectory (ofBytes path) with
  | ok after =>
    rw [hmake] at h
    obtain rfl : after = made := Except.ok.inj h
    obtain ⟨names, last, directory, hleads, hnone, rfl⟩ := makeDirectory_eq_ok hmake
    obtain ⟨rfl, rfl⟩ := hleads.directory_eq hpath hdown
    rw [placeOf_eq t hdown]
    exact .inr ⟨hnone, rfl⟩
  | error fault =>
    rw [hmake] at h
    simp only at h
    split at h
    · next place hlocate =>
      split_ifs at h with hd
      obtain rfl : t = made := Except.ok.inj h
      obtain ⟨-, hall, -⟩ := locate_eq_ok.mp hlocate
      obtain rfl : place = t.placeOf path := followAll_down hpath.above hall
      exact .inl ⟨rfl, hd⟩
    · cases h

lemma ensureDirectory_frame (hpath : IsDirect path) (hdown : down path = outer ++ [name])
    (h : t.ensureDirectory (ofBytes path) = .ok made) :
    made.isDirectory (t.placeOf path) ∧
      (∀ place ≠ t.placeOf path, made.entry? place = t.entry? place) ∧
      (t.isDirectory (t.placeOf path) → made = t) := by
  rcases ensureDirectory_made hpath hdown h with ⟨rfl, hd⟩ | ⟨hnone, rfl⟩
  · exact ⟨hd, fun _ _ => rfl, fun _ => rfl⟩
  · have hset := entry?_set (placeOf_ne_nil t hdown) t .directory
    refine ⟨isDirectory_iff.mpr (by rw [hset, if_pos rfl]), fun place hne => ?_, fun hd => ?_⟩
    · rw [hset, if_neg hne]
    · rw [isDirectory_iff, hnone] at hd
      cases hd

lemma makeDirectory_error (hw : t.WellFormed) (hpath : IsDirect path)
    (hdown : down path = outer ++ [name])
    (h : t.makeDirectory (ofBytes path) = .error fault) :
    Closed t (t.base (ofBytes path).absolute ++ outer) fault ∨
      fault = .alreadyExists ∧ (t.entry? (t.placeOf path)).isSome ∧
        t.locate (ofBytes path) = .ok (t.placeOf path) := by
  unfold makeDirectory at h
  rw [placeOf_eq t hdown]
  rcases target_cases hw hpath hdown with ⟨names, hleads, htarget⟩ | ⟨fault, htarget, hclosed⟩
  · rw [htarget, ok_bind, placeOf_eq t hdown] at h
    simp only [List.getLastD_concat] at h
    cases hname : checkName name with
    | error f =>
      rw [hname] at h
      obtain rfl : f = fault := Except.error.inj h
      rw [checkName_error hname]
      exact .inl .tooLong
    | ok u =>
      rw [hname, ok_bind] at h
      split_ifs at h with hsome
      · obtain rfl : FileFault.alreadyExists = fault := Except.error.inj h
        exact .inr ⟨rfl, hsome, hleads.locate hpath.slash hname hsome⟩
      · cases h
  · rw [htarget] at h
    obtain rfl : fault = _ := Except.error.inj h
    exact .inl hclosed

/-- One directory cannot be made where the one around it cannot be entered, where a file is, or
under a name that is too long. -/
lemma ensureDirectory_error (hw : t.WellFormed) (hpath : IsDirect path)
    (hdown : down path = outer ++ [name])
    (h : t.ensureDirectory (ofBytes path) = .error fault) :
    Closed t (t.base (ofBytes path).absolute ++ outer) fault ∨
      fault = .alreadyExists ∧ ∃ content, t.entry? (t.placeOf path) = some (.file content) := by
  unfold ensureDirectory at h
  cases hmake : t.makeDirectory (ofBytes path) with
  | ok after =>
    rw [hmake] at h
    cases h
  | error fault' =>
    rw [hmake] at h
    simp only at h
    rcases makeDirectory_error hw hpath hdown hmake with hclosed | ⟨rfl, hsome, hlocate⟩
    · obtain rfl : fault' = fault := by
        split at h
        · split_ifs at h
          exact Except.error.inj h
        · exact Except.error.inj h
      exact .inl hclosed
    · rw [hlocate] at h
      simp only at h
      split_ifs at h with hd
      exact .inr ⟨(Except.error.inj h).symm, entry_cases hsome hd⟩

lemma ensureDirectory_notFound (hw : t.WellFormed) (hpath : IsDirect path)
    (hdown : down path = outer ++ [name])
    (h : t.ensureDirectory (ofBytes path) = .error .notFound) :
    t.entry? (t.base (ofBytes path).absolute ++ outer) = none := by
  rcases ensureDirectory_error hw hpath hdown h with hclosed | ⟨hfault, -⟩
  · cases hclosed with
    | missing hnone => exact hnone
  · cases hfault

end Direct

/-! ### Directories inside one another -/

section Nested

variable {absolute : Bool} {names : List Name} {paths : List Bytes} {made : FileTree}

lemma WellFormed.isDirectory_base (hw : t.WellFormed) (absolute : Bool) :
    t.isDirectory (t.base absolute) := by
  cases absolute with
  | true => exact isDirectory_iff.mpr (if_pos rfl)
  | false => exact hw.working

lemma AddsDirectories.base (h : AddsDirectories t t') (absolute : Bool) :
    t'.base absolute = t.base absolute := by
  rw [FileTree.base, FileTree.base, h.working]

lemma AddsDirectories.placeOf (h : AddsDirectories t t') (path : Bytes) :
    t'.placeOf path = t.placeOf path := by
  rw [FileTree.placeOf, FileTree.placeOf, h.base]

lemma Closed.eq_of_isDirectory (hw : t.WellFormed) (hd : t.isDirectory directory)
    (h : Closed t directory fault) : fault = .invalidFilename := by
  cases h with
  | tooLong => rfl
  | missing hnone =>
    rw [isDirectory_iff, hnone] at hd
    cases hd
  | blocked hinside hfile =>
    have houter := hw.isDirectory_of_prefix hinside hd
    rw [isDirectory_iff, hfile] at houter
    cases houter

/-- Directories that have been made are there, and nothing changes anywhere else, nor anything at
all if the innermost one was there before. -/
lemma makeDirectories_made (hw : t.WellFormed) (hpaths : Nested absolute names paths)
    (h : t.makeDirectories paths = (made, .ok ())) :
    made.isDirectory (t.base absolute ++ names.reverse) ∧
      (∀ place, ¬ place <+: t.base absolute ++ names.reverse → made.entry? place = t.entry? place) ∧
      (t.isDirectory (t.base absolute ++ names.reverse) → made = t) := by
  induction hpaths generalizing made with
  | nil =>
    obtain rfl : t = made := congrArg Prod.fst h
    exact ⟨by simpa using hw.isDirectory_base absolute, fun _ _ => rfl, fun _ => rfl⟩
  | @cons path name outer paths direct start down outside ih =>
    subst start
    obtain ⟨hplace, hinside⟩ := placeOf_inside t down
    rw [List.reverse_cons, ← List.append_assoc, ← hplace]
    cases makes_of_cons h with
    | ensured ensure =>
      obtain ⟨hd, hother, hsame⟩ := ensureDirectory_frame direct down ensure
      refine ⟨hd, fun place hplace => hother place ?_, hsame⟩
      rintro rfl
      exact hplace List.prefix_rfl
    | @ensuredInside around _ missing make ensure =>
      obtain ⟨-, haround, -⟩ := ih make
      have hplaceOf := (makeDirectories_adds make).placeOf path
      obtain ⟨hd, hother, -⟩ := ensureDirectory_frame direct down ensure
      rw [hplaceOf] at hd hother
      refine ⟨hd, fun place hplace => ?_, fun hthere => ?_⟩
      · have hne : place ≠ t.placeOf path := by
          rintro rfl
          exact hplace List.prefix_rfl
        rw [hother place hne, haround place fun hwithin => hplace (hwithin.trans hinside)]
      · have hparent := hw.isDirectory_of_prefix hinside hthere
        rw [isDirectory_iff, ensureDirectory_notFound hw direct down missing] at hparent
        cases hparent

lemma makeDirectories_error (hw : t.WellFormed) (hpaths : Nested absolute names paths)
    (h : t.makeDirectories paths = (made, .error fault)) :
    fault = .invalidFilename ∨
      made = t ∧ ∃ outer content, outer <+: t.base absolute ++ names.reverse ∧
        t.entry? outer = some (.file content) := by
  induction hpaths generalizing made with
  | nil => cases congrArg Prod.snd h
  | @cons path name outer paths direct start down outside ih =>
    subst start
    obtain ⟨hplace, hinside⟩ := placeOf_inside t down
    rw [List.reverse_cons, ← List.append_assoc, ← hplace]
    cases makes_of_cons h with
    | refused ensure found =>
      rcases ensureDirectory_error hw direct down ensure with hclosed | ⟨-, content, hfile⟩
      · cases hclosed with
        | tooLong => exact .inl rfl
        | missing _ => exact absurd rfl found
        | blocked hwithin hfile => exact .inr ⟨rfl, _, _, hwithin.trans hinside, hfile⟩
      · exact .inr ⟨rfl, _, content, List.prefix_rfl, hfile⟩
    | failedAround _ make =>
      refine (ih make).imp_right ?_
      rintro ⟨rfl, blocker, content, hwithin, hfile⟩
      exact ⟨rfl, blocker, content, hwithin.trans hinside, hfile⟩
    | refusedInside missing make ensure =>
      -- Nothing can be in the way in a directory that has just been made.
      obtain ⟨hd, hother, -⟩ := makeDirectories_made hw outside make
      have hbase := (makeDirectories_adds make).base (ofBytes path).absolute
      have hw' := hw.makeDirectories make
      rw [← hbase] at hd
      rcases ensureDirectory_error hw' direct down ensure with hclosed | ⟨-, content, hfile⟩
      · exact .inl (hclosed.eq_of_isDirectory hw' hd)
      · have hmissing := ensureDirectory_notFound hw direct down missing
        rw [(makeDirectories_adds make).placeOf, hother _ (placeOf_outside down),
          hw.entry?_eq_none hinside hmissing] at hfile
        cases hfile

end Nested

/-- The content is in a file at the place, there are directories all the way to it, and nothing else
is other than it was. -/
structure PutsFile (t : FileTree) (place : Location) (content : Bytes) (t' : FileTree) : Prop where
  working : t'.working = t.working
  self : t'.entry? place = some (.file content)
  around : ∀ outer, outer <+: place → outer ≠ place → t'.isDirectory outer ∧
    (t.isDirectory outer ∨ t.entry? outer = none)
  other : ∀ other, ¬ other <+: place → t'.entry? other = t.entry? other

/-- A directory is at the place, or a file is where there should be a directory on the way. -/
def Blocked (t : FileTree) (place : Location) : Prop :=
  t.isDirectory place ∨
    ∃ outer content, outer <+: place ∧ outer ≠ place ∧ t.entry? outer = some (.file content)

section Write

variable {path content : Bytes} {outer : List Name} {name : Name}

lemma writeFile_error (hw : t.WellFormed) (hpath : IsDirect path)
    (hdown : down path = outer ++ [name])
    (h : t.writeFile (ofBytes path) content = .error fault) :
    Closed t (t.base (ofBytes path).absolute ++ outer) fault ∨ t.isDirectory (t.placeOf path) := by
  unfold writeFile at h
  rcases target_cases hw hpath hdown with ⟨names, -, htarget⟩ | ⟨fault, htarget, hclosed⟩
  · rw [htarget, ok_bind, placeOf_eq t hdown] at h
    simp only [hpath.slash, List.getLastD_concat, Bool.false_eq_true, if_false] at h
    cases hname : checkName name with
    | error f =>
      rw [hname] at h
      obtain rfl : f = fault := Except.error.inj h
      rw [checkName_error hname]
      exact .inl .tooLong
    | ok u =>
      rw [hname, ok_bind] at h
      rw [placeOf_eq t hdown]
      split_ifs at h with hd
      · exact .inr hd
      · cases h
  · rw [htarget] at h
    obtain rfl : fault = _ := Except.error.inj h
    exact .inl hclosed

lemma write_puts (hw : t.WellFormed) (hpath : IsDirect path)
    (h : t.write path content = (t', .ok ())) : PutsFile t (t.placeOf path) content t' := by
  obtain ⟨outer, name, hdown, hnested⟩ := nested_around hpath
  obtain ⟨made, hmake, hwrite⟩ := write_eq_ok h
  have hadds := makeDirectories_adds hmake
  have hw' := hw.makeDirectories hmake
  obtain ⟨hd, hmade, -⟩ := makeDirectories_made hw hnested hmake
  rw [List.reverse_reverse] at hd hmade
  obtain ⟨names, last, directory, hleads, -, -, -, rfl⟩ := writeFile_eq_ok hwrite
  obtain ⟨rfl, rfl⟩ := hleads.directory_eq hpath hdown
  obtain ⟨hplace, hinside⟩ := placeOf_inside t hdown
  rw [hadds.base, ← hplace]
  have hset := entry?_set (placeOf_ne_nil t hdown) made (.file content)
  refine ⟨hadds.working, by rw [hset, if_pos rfl], fun around hwithin hne => ?_,
    fun other hother => ?_⟩
  · have haround : around <+: t.base (ofBytes path).absolute ++ outer := by
      rw [hplace, List.prefix_concat_iff] at hwithin
      exact hwithin.resolve_left (hplace ▸ hne)
    have hthere := hw'.isDirectory_of_prefix haround hd
    rw [isDirectory_iff, isDirectory_iff, hset, if_neg hne]
    rw [isDirectory_iff] at hthere
    refine ⟨hthere, ?_⟩
    rcases hadds.settled around with heq | ⟨hnone, -⟩
    · exact .inl (heq ▸ hthere)
    · exact .inr hnone
  · have hne : other ≠ t.placeOf path := by
      rintro rfl
      exact hother List.prefix_rfl
    rw [hset, if_neg hne, hmade other fun hwithin => hother (hwithin.trans hinside)]

/-- A write that fails has changed nothing, unless a name is too long. -/
lemma write_blocked (hw : t.WellFormed) (hpath : IsDirect path)
    (h : t.write path content = (t', .error fault)) :
    fault = .invalidFilename ∨ t' = t ∧ t.Blocked (t.placeOf path) := by
  obtain ⟨outer, name, hdown, hnested⟩ := nested_around hpath
  obtain ⟨hplace, hinside⟩ := placeOf_inside t hdown
  unfold write at h
  split at h
  · next made fault' hmake =>
    obtain ⟨rfl, hfault⟩ := Prod.mk.inj h
    obtain rfl : fault' = fault := Except.error.inj hfault
    refine (makeDirectories_error hw hnested hmake).imp_right ?_
    rintro ⟨rfl, blocker, content, hwithin, hfile⟩
    rw [List.reverse_reverse] at hwithin
    refine ⟨rfl, .inr ⟨blocker, content, hwithin.trans hinside, ?_, hfile⟩⟩
    rintro rfl
    exact placeOf_outside hdown hwithin
  · next made hmake =>
    split at h
    · cases congrArg Prod.snd h
    · next fault' hwrite =>
      obtain ⟨rfl, hfault⟩ := Prod.mk.inj h
      obtain rfl : fault' = fault := Except.error.inj hfault
      have hadds := makeDirectories_adds hmake
      have hw' := hw.makeDirectories hmake
      obtain ⟨hd, hmade, hsame⟩ := makeDirectories_made hw hnested hmake
      rw [List.reverse_reverse] at hd hmade hsame
      rcases writeFile_error hw' hpath hdown hwrite with hclosed | hthere
      · rw [hadds.base] at hclosed
        exact .inl (hclosed.eq_of_isDirectory hw' hd)
      · -- A directory in the place was there before, and so were those around it.
        rw [hadds.placeOf, isDirectory_iff, hmade _ (placeOf_outside hdown),
          ← isDirectory_iff] at hthere
        exact .inr ⟨hsame (hw.isDirectory_of_prefix hinside hthere), .inl hthere⟩

/-- **What a write leaves alone.** A file that is written holds the content, the directories around
it are there, and nothing else has changed; a file that is skipped was there and was to be left
alone. A write that fails has changed nothing at all, as long as no name is too long: a file is
where a directory is needed, or a directory where the file goes. -/
theorem store_frame (hw : t.WellFormed) (hpath : IsDirect path) {rule : Overwrite}
    {result : Except FileFault WriteResult} (h : t.store path content rule = (t', result)) :
    (result = .ok .written → (rule = .ifMissing → t.exists? path = false) ∧
      t'.read path = .ok content ∧ PutsFile t (t.placeOf path) content t') ∧
    (result = .ok .skipped → rule = .ifMissing ∧ t.exists? path ∧ t' = t) ∧
    (∀ fault, result = .error fault → fault ≠ .invalidFilename →
      t' = t ∧ t.Blocked (t.placeOf path)) := by
  have hstores := store_stores h
  unfold store at h
  split_ifs at h with hskip
  · cases h
    refine ⟨?_, fun _ => ⟨hskip.1, hskip.2, rfl⟩, ?_⟩
    · rintro ⟨⟩
    · rintro _ ⟨⟩
  · split at h
    · next after hwrite =>
      cases h
      refine ⟨fun _ => ?_, ?_, ?_⟩
      · cases hstores with
        | written absent wrote locate =>
          exact ⟨absent, read_eq_ok.mpr ⟨_, locate, file?_eq_some.mpr wrote.self⟩,
            write_puts hw hpath hwrite⟩
      · rintro ⟨⟩
      · rintro _ ⟨⟩
    · next after fault hwrite =>
      cases h
      refine ⟨?_, ?_, ?_⟩
      · rintro ⟨⟩
      · rintro ⟨⟩
      · rintro _ ⟨⟩ hname
        exact (write_blocked hw hpath hwrite).resolve_left hname

def narrowFiles : FileTree where
  entries := [([[0x71]], .directory), ([[0x71], [0x66]], .file [0x6F])]

/-- The path `./q//r/./s`. -/
def newPath : Bytes := [0x2E, 0x2F, 0x71, 0x2F, 0x2F, 0x72, 0x2F, 0x2E, 0x2F, 0x73]

/-- The path `q/f/r/s`. -/
def blockedPath : Bytes := [0x71, 0x2F, 0x66, 0x2F, 0x72, 0x2F, 0x73]

theorem store_frame_narrow :
    (∃ t', narrowFiles.store newPath [0x6E] .ifMissing = (t', .ok .written) ∧
      t'.read newPath = .ok [0x6E] ∧ t'.isDirectory [[0x71], [0x72]] ∧
      t'.entry? [[0x71], [0x66]] = some (.file [0x6F])) ∧
    narrowFiles.store blockedPath [0x6E] .always = (narrowFiles, .error .notADirectory) := by
  have hw : narrowFiles.WellFormed := wellFormed_of_entries (by decide) (by decide)
  have hnew : IsDirect newPath := ⟨by decide, by decide,
    ⟨[[0x2E], [0x71], [0x72], [0x2E]], [0x73], rfl, by decide⟩, rfl⟩
  have hblocked : IsDirect blockedPath := ⟨by decide, by decide,
    ⟨[[0x71], [0x66], [0x72]], [0x73], rfl, by decide⟩, rfl⟩
  have hwritten : (narrowFiles.store newPath [0x6E] .ifMissing).2 = .ok .written := by decide
  have hfault : (narrowFiles.store blockedPath [0x6E] .always).2 = .error .notADirectory := by
    decide
  obtain ⟨t', hstore⟩ : ∃ t', narrowFiles.store newPath [0x6E] .ifMissing = (t', .ok .written) :=
    ⟨_, Prod.ext rfl hwritten⟩
  obtain ⟨-, hread, hputs⟩ := (store_frame hw hnew hstore).1 rfl
  obtain ⟨hsame, -⟩ := (store_frame hw hblocked (Prod.ext rfl hfault)).2.2 _ rfl (by decide)
  refine ⟨⟨t', hstore, hread, (hputs.around _ (by decide) (by decide)).1, ?_⟩,
    Prod.ext hsame hfault⟩
  rw [hputs.other _ (by decide)]
  rfl

end Write

end FileTree

end ClickGen
