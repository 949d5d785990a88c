import ClickGen.Proofs.File.WellFormed
import ClickGen.Proofs.Text.Parts
import Mathlib.Data.List.Infix

/-!
Paths that go down by names only. Such a path has one place in the tree, whatever there is of it
yet, and the directories around it stand inside one another. Main statement: it leads to its place
unless the directory for it is closed, which is for one of three reasons: a name is too long, a part
of the way is missing, or a file is on the way.
-/

namespace ClickGen

namespace Route

/-- A path that goes down by names only: nowhere up, with no byte that no path has, and with a name
at its end. -/
structure IsDirect (path : Bytes) : Prop where
  above : above ∉ (ofBytes path).names
  zero : ∀ name ∈ (ofBytes path).names, 0 ∉ name
  last : ∃ outer name, (ofBytes path).names = outer ++ [name] ∧ name ≠ here
  slash : (ofBytes path).slash = false

/-- The names that a path goes down by. Those of a directory in itself are none. -/
def down (path : Bytes) : List Name := (ofBytes path).names.filter (· ≠ here)

/-- Paths of directories that stand inside one another, innermost first, and the names of the
directories in the same order. -/
inductive Nested (absolute : Bool) : List Name → List Bytes → Prop where
  | nil : Nested absolute [] []
  | cons {path : Bytes} {name : Name} {outer : List Name} {paths : List Bytes}
    (direct : IsDirect path) (start : (ofBytes path).absolute = absolute)
    (down : down path = outer.reverse ++ [name]) (outside : Nested absolute outer paths) :
    Nested absolute (name :: outer) (path :: paths)

lemma cutSlashes_eq (path : Bytes) : cutSlashes path = path.splitOn 0x2F := by
  induction path with
  | nil => rfl
  | cons b rest ih =>
    rw [cutSlashes, ih, List.splitOn_cons_eq_if_modifyHead]
    cases hs : List.splitOn 0x2F rest with
    | nil => exact absurd hs (List.splitOn_ne_nil 0x2F rest)
    | cons part parts => simp

lemma slash_notMem {path part : Bytes} (h : part ∈ cutSlashes path) : 0x2F ∉ part := by
  rw [cutSlashes_eq] at h
  exact separator_notMem h

lemma absolute_iff {path part : Bytes} (hpart : part ∈ cutSlashes path) (hne : part ≠ []) :
    (ofBytes path).absolute ↔ (cutSlashes path).head? = some [] := by
  cases path with
  | nil => exact absurd (List.mem_singleton.mp hpart) hne
  | cons b rest =>
    obtain ⟨first, parts, hparts⟩ :=
      List.exists_cons_of_ne_nil (cutSlashes_eq rest ▸ List.splitOn_ne_nil 0x2F rest)
    by_cases hb : b = 0x2F
    · simp [ofBytes, cutSlashes, hparts, hb]
    · simp [ofBytes, cutSlashes, hparts, hb]

def isStep (part : Bytes) : Bool := !part.isEmpty && part ≠ here

lemma down_eq (path : Bytes) : down path = (cutSlashes path).filter isStep := by
  rw [down, ofBytes, List.filter_filter]
  exact List.filter_congr fun part _ => by rw [isStep, Bool.and_comm]

/-- The beginning of a path that ends in a part. -/
def beginning (front : List Bytes) (part : Bytes) : Bytes := front.flatMap (· ++ [0x2F]) ++ part

lemma beginnings_cons (front : List Bytes) (part : Bytes) (rest : List Bytes) :
    beginnings (front.flatMap (· ++ [0x2F])) (part :: rest) =
      if isStep part then
        beginning front part :: beginnings ((front ++ [part]).flatMap (· ++ [0x2F])) rest
      else beginnings ((front ++ [part]).flatMap (· ++ [0x2F])) rest := by
  rw [beginnings, List.flatMap_append]
  by_cases hempty : part.isEmpty
  · simp [isStep, hempty]
  · by_cases hhere : part = here
    · simp [isStep, hhere]
    · simp [isStep, hempty, hhere, beginning]

section Beginning

variable {path : Bytes} {front rest : List Bytes} {part : Bytes}

lemma cutSlashes_beginning (h : cutSlashes path = front ++ part :: rest) :
    cutSlashes (beginning front part) = front ++ [part] := by
  have hparts : ∀ p ∈ front ++ part :: rest, 0x2F ∉ p := fun p hp => slash_notMem (h ▸ hp)
  rw [cutSlashes_eq, beginning, splitOn_flatMap_append fun p hp => hparts p (by simp [hp]),
    List.splitOn_eq_singleton (hparts part (by simp))]

lemma absolute_beginning (h : cutSlashes path = front ++ part :: rest) (hne : part ≠ []) :
    (ofBytes (beginning front part)).absolute = (ofBytes path).absolute := by
  have hcut := cutSlashes_beginning h
  rw [Bool.eq_iff_iff, absolute_iff (by rw [hcut]; simp) hne, absolute_iff (by rw [h]; simp) hne,
    hcut, h]
  cases front <;> rfl

lemma isDirect_beginning (hpath : IsDirect path) (h : cutSlashes path = front ++ part :: rest)
    (hpart : isStep part) : IsDirect (beginning front part) := by
  obtain ⟨hne, hhere⟩ : part ≠ [] ∧ part ≠ here := by simpa [isStep] using hpart
  have hnames : (ofBytes (beginning front part)).names = front.filter (!·.isEmpty) ++ [part] := by
    simp [ofBytes, cutSlashes_beginning h, hne]
  have hsub : ∀ name ∈ (ofBytes (beginning front part)).names, name ∈ (ofBytes path).names := by
    intro name hname
    have hwhole : (ofBytes path).names =
        front.filter (!·.isEmpty) ++ [part] ++ rest.filter (!·.isEmpty) := by
      simp [ofBytes, h, hne]
    rw [hwhole, ← hnames]
    exact List.mem_append_left _ hname
  refine ⟨fun hup => hpath.above (hsub _ hup), fun name hname => hpath.zero name (hsub name hname),
    ⟨_, part, hnames, hhere⟩, ?_⟩
  obtain ⟨init, b, rfl⟩ := (List.eq_nil_or_concat' part).resolve_left hne
  have hslash : (0x2F : UInt8) ∉ init ++ [b] := @slash_notMem path _ (by rw [h]; simp)
  have hb : b ≠ 0x2F := by
    rintro rfl
    simp at hslash
  simp [ofBytes, beginning, hb]

lemma nested_beginnings (hpath : IsDirect path) (h : cutSlashes path = front ++ rest)
    {paths : List Bytes}
    (hpaths : Nested (ofBytes path).absolute (front.filter isStep).reverse paths) :
    Nested (ofBytes path).absolute (down path).reverse
      ((beginnings (front.flatMap (· ++ [0x2F])) rest).reverse ++ paths) := by
  induction rest generalizing front paths with
  | nil =>
    rw [down_eq, h, List.append_nil]
    exact hpaths
  | cons part rest ih =>
    have hnext : cutSlashes path = (front ++ [part]) ++ rest := by simp [h]
    rw [beginnings_cons]
    by_cases hpart : isStep part
    · have hne : part ≠ [] := by
        rintro rfl
        cases hpart
      rw [if_pos hpart, List.reverse_cons, List.append_assoc]
      refine ih hnext ?_
      rw [List.filter_append, List.filter_singleton, hpart]
      have hdown : down (beginning front part) =
          (front.filter isStep).reverse.reverse ++ [part] := by
        rw [down_eq, cutSlashes_beginning h, List.filter_append, List.filter_singleton, hpart,
          List.reverse_reverse]
        rfl
      simpa using Nested.cons (isDirect_beginning hpath h hpart) (absolute_beginning h hne) hdown
        hpaths
    · rw [if_neg hpart]
      refine ih hnext ?_
      simpa [hpart] using hpaths

end Beginning

lemma nested_around {path : Bytes} (hpath : IsDirect path) :
    ∃ outer name, down path = outer ++ [name] ∧
      Nested (ofBytes path).absolute outer.reverse (around path) := by
  have hnested : Nested (ofBytes path).absolute (down path).reverse
      (beginnings [] (cutSlashes path)).reverse := by
    simpa using @nested_beginnings path [] _ hpath rfl [] Nested.nil
  obtain ⟨outer, name, hnames, hhere⟩ := hpath.last
  have hdown : down path = outer.filter (· ≠ here) ++ [name] := by
    simp [down, hnames, hhere]
  refine ⟨_, name, hdown, ?_⟩
  rw [hdown, List.reverse_append, List.reverse_singleton, List.singleton_append] at hnested
  rw [around]
  cases hpaths : (beginnings [] (cutSlashes path)).reverse with
  | nil =>
    rw [hpaths] at hnested
    cases hnested
  | cons first paths =>
    rw [hpaths] at hnested
    cases hnested with
    | cons _ _ _ outside => exact outside

end Route

namespace FileTree

open Route

def base (t : FileTree) (absolute : Bool) : Location := if absolute then [] else t.working

/-- The place that a direct path names, whether there is something or not. -/
def placeOf (t : FileTree) (path : Bytes) : Location :=
  t.base (ofBytes path).absolute ++ down path

/-- Why a directory cannot be entered. -/
inductive Closed (t : FileTree) (directory : Location) : FileFault → Prop where
  | tooLong : Closed t directory .invalidFilename
  | missing (none : t.entry? directory = none) : Closed t directory .notFound
  | blocked {outer : Location} {content : Bytes} (inside : outer <+: directory)
    (file : t.entry? outer = some (.file content)) : Closed t directory .notADirectory

variable {t t' : FileTree} {place directory : Location} {fault : FileFault}

lemma entry_cases (hs : (t.entry? place).isSome) (hd : ¬ t.isDirectory place) :
    ∃ content, t.entry? place = some (.file content) := by
  obtain ⟨e, he⟩ := Option.isSome_iff_exists.mp hs
  cases e with
  | file content => exact ⟨content, he⟩
  | directory => exact absurd (isDirectory_iff.mpr he) hd

lemma checkName_error {name : Name} (h : checkName name = .error fault) :
    fault = .invalidFilename := by
  unfold checkName at h
  split_ifs at h
  exact (Except.error.inj h).symm

lemma follow_error {name : Name} (hs : (t.entry? place).isSome)
    (h : t.follow place name = .error fault) :
    (∃ content, fault = .notADirectory ∧ t.entry? place = some (.file content)) ∨
      name ≠ here ∧ (fault = .invalidFilename ∨
        fault = .notFound ∧ t.entry? (place ++ [name]) = none) := by
  unfold follow at h
  by_cases hd : t.isDirectory place
  · rw [if_neg (by simp [hd])] at h
    split_ifs at h with hhere habove
    refine .inr ⟨hhere, ?_⟩
    cases hname : checkName name with
    | error f =>
      rw [hname] at h
      obtain rfl : f = fault := Except.error.inj h
      exact .inl (checkName_error hname)
    | ok u =>
      rw [hname, ok_bind] at h
      simp only at h
      split_ifs at h with he
      exact .inr ⟨(Except.error.inj h).symm, by simpa using he⟩
  · rw [if_pos (by simp [hd])] at h
    obtain ⟨content, hfile⟩ := entry_cases hs hd
    exact .inl ⟨content, (Except.error.inj h).symm, hfile⟩

lemma followAll_down {names : List Name} (hnames : above ∉ names)
    (h : t.followAll place names = .ok directory) :
    directory = place ++ names.filter (· ≠ here) := by
  induction names generalizing place with
  | nil => exact (Except.ok.inj h).symm.trans (List.append_nil place).symm
  | cons name rest ih =>
    obtain ⟨next, hname, hrest⟩ := followAll_cons.mp h
    rw [List.mem_cons, not_or] at hnames
    rw [ih hnames.2 hrest]
    obtain ⟨-, ⟨rfl, rfl⟩ | ⟨-, habove, -⟩ | ⟨hhere, -, -, -, rfl⟩⟩ := follow_eq_ok.mp hname
    · simp
    · exact absurd habove.symm hnames.1
    · simp [hhere]

lemma followAll_isSome {names : List Name} (hnames : above ∉ names)
    (hs : (t.entry? place).isSome) (h : t.followAll place names = .ok directory) :
    (t.entry? directory).isSome := by
  induction names generalizing place with
  | nil =>
    obtain rfl : place = directory := Except.ok.inj h
    exact hs
  | cons name rest ih =>
    obtain ⟨next, hname, hrest⟩ := followAll_cons.mp h
    rw [List.mem_cons, not_or] at hnames
    refine ih hnames.2 ?_ hrest
    obtain ⟨-, ⟨-, rfl⟩ | ⟨-, habove, -⟩ | ⟨-, -, -, hnext, -⟩⟩ := follow_eq_ok.mp hname
    · exact hs
    · exact absurd habove.symm hnames.1
    · exact hnext

lemma followAll_error (hw : t.WellFormed) {names : List Name} (hnames : above ∉ names)
    (hs : (t.entry? place).isSome) (h : t.followAll place names = .error fault) :
    Closed t (place ++ names.filter (· ≠ here)) fault := by
  induction names generalizing place with
  | nil => cases h
  | cons name rest ih =>
    rw [List.mem_cons, not_or] at hnames
    rw [followAll] at h
    cases hname : t.follow place name with
    | error f =>
      rw [hname] at h
      obtain rfl : f = fault := Except.error.inj h
      rcases follow_error hs hname with ⟨content, rfl, hfile⟩ | ⟨hhere, rfl | ⟨rfl, hnone⟩⟩
      · exact .blocked (List.prefix_append _ _) hfile
      · exact .tooLong
      · exact .missing (hw.entry?_eq_none (by simp [hhere]) hnone)
    | ok next =>
      rw [hname, ok_bind] at h
      obtain ⟨-, ⟨rfl, rfl⟩ | ⟨-, habove, -⟩ | ⟨hhere, -, -, hnext, rfl⟩⟩ := follow_eq_ok.mp hname
      · simpa using ih hnames.2 hs h
      · exact absurd habove.symm hnames.1
      · simpa [hhere] using ih hnames.2 hnext h

/-! ### One step of a direct path -/

section Direct

variable {path content : Bytes} {outer : List Name} {name : Name} {made : FileTree}

lemma placeOf_eq (t : FileTree) (hdown : down path = outer ++ [name]) :
    t.placeOf path = t.base (ofBytes path).absolute ++ outer ++ [name] := by
  rw [placeOf, hdown, List.append_assoc]

lemma placeOf_inside (t : FileTree) (hdown : down path = outer ++ [name]) :
    t.placeOf path = t.base (ofBytes path).absolute ++ outer ++ [name] ∧
      t.base (ofBytes path).absolute ++ outer <+: t.placeOf path := by
  rw [placeOf_eq t hdown]
  exact ⟨rfl, List.prefix_append _ _⟩

lemma placeOf_outside (hdown : down path = outer ++ [name]) :
    ¬ t.placeOf path <+: t.base (ofBytes path).absolute ++ outer := by
  intro hwithin
  have hlength := hwithin.length_le
  rw [placeOf_eq t hdown, List.length_append, List.length_singleton] at hlength
  omega

lemma placeOf_ne_nil (t : FileTree) (hdown : down path = outer ++ [name]) :
    t.placeOf path ≠ [] := by
  rw [placeOf_eq t hdown]
  simp

lemma exists_names (hpath : IsDirect path) (hdown : down path = outer ++ [name]) :
    ∃ names, (ofBytes path).names = names ++ [name] ∧ name ≠ here ∧
      names.filter (· ≠ here) = outer := by
  obtain ⟨names, last, hnames, hhere⟩ := hpath.last
  have hparts : names.filter (· ≠ here) ++ [last] = outer ++ [name] := by
    rw [← hdown, down, hnames]
    simp [hhere]
  obtain ⟨houter, hlast⟩ := List.append_inj' hparts rfl
  obtain rfl : last = name := List.head_eq_of_cons_eq hlast
  exact ⟨names, hnames, hhere, houter⟩

lemma check_error (hpath : IsDirect path) (h : (ofBytes path).check = .error fault) :
    fault = .invalidFilename := by
  obtain ⟨names, name, hnames, -⟩ := hpath.last
  have hsize : (ofBytes path).size ≠ 0 := by
    intro hzero
    obtain rfl : path = [] := List.length_eq_zero_iff.mp hzero
    have hnone : (ofBytes []).names = [] := rfl
    rw [hnone] at hnames
    simp at hnames
  have hzero : ¬ (ofBytes path).names.any (·.contains 0) := by
    simpa using hpath.zero
  unfold check at h
  rw [if_neg hzero] at h
  split_ifs at h
  exact (Except.error.inj h).symm

lemma target_eq {r : Route} {names : List Name} (hcheck : r.check = .ok ())
    (hnames : r.names = names ++ [name]) (hhere : name ≠ here) (habove : name ≠ above) :
    t.target r = (t.followAll (t.start r) names >>= fun place =>
      if t.isDirectory place then .ok (.named (place ++ [name])) else .error .notADirectory) := by
  unfold target
  rw [hcheck, ok_bind, hnames, List.reverse_append, List.reverse_singleton, List.singleton_append]
  simp only [List.reverse_reverse]
  cases t.followAll (t.start r) names with
  | error fault => rfl
  | ok place =>
    rw [ok_bind, ok_bind, if_neg (not_or.mpr ⟨hhere, habove⟩)]
    by_cases hd : t.isDirectory place
    · rw [if_neg (by simp [hd]), if_pos hd]
      rfl
    · rw [if_pos (by simp [hd]), if_neg hd]
      rfl

lemma target_cases (hw : t.WellFormed) (hpath : IsDirect path)
    (hdown : down path = outer ++ [name]) :
    (∃ names, LeadsTo t (ofBytes path) names name (t.base (ofBytes path).absolute ++ outer) ∧
      t.target (ofBytes path) = .ok (.named (t.placeOf path))) ∨
    ∃ fault, t.target (ofBytes path) = .error fault ∧
      Closed t (t.base (ofBytes path).absolute ++ outer) fault := by
  obtain ⟨names, hnames, hhere, houter⟩ := exists_names hpath hdown
  obtain ⟨hup, habove⟩ : above ∉ names ∧ name ≠ above := by
    have hup := hpath.above
    rw [hnames, List.mem_append, not_or, List.mem_singleton] at hup
    exact ⟨hup.1, Ne.symm hup.2⟩
  have hstart : (t.entry? (t.start (ofBytes path))).isSome := by
    rw [isDirectory_iff.mp (hw.isDirectory_start (ofBytes path))]
    rfl
  cases hcheck : (ofBytes path).check with
  | error fault =>
    obtain rfl := check_error hpath hcheck
    refine .inr ⟨.invalidFilename, ?_, .tooLong⟩
    rw [target, hcheck, error_bind]
  | ok u =>
    rw [target_eq hcheck hnames hhere habove]
    cases hall : t.followAll (t.start (ofBytes path)) names with
    | error fault =>
      have hclosed := followAll_error hw hup hstart hall
      rw [houter] at hclosed
      exact .inr ⟨fault, rfl, hclosed⟩
    | ok directory =>
      obtain rfl : directory = t.base (ofBytes path).absolute ++ outer :=
        houter ▸ followAll_down hup hall
      rw [ok_bind]
      by_cases hd : t.isDirectory (t.base (ofBytes path).absolute ++ outer)
      · rw [if_pos hd, placeOf_eq t hdown]
        exact .inl ⟨names, ⟨hcheck, hnames, hall, hd, hhere, habove⟩, rfl⟩
      · obtain ⟨content, hfile⟩ := entry_cases (followAll_isSome hup hstart hall) hd
        rw [if_neg hd]
        exact .inr ⟨_, rfl, .blocked List.prefix_rfl hfile⟩

lemma LeadsTo.directory_eq (hpath : IsDirect path) (hdown : down path = outer ++ [name])
    {names : List Name} {last : Name} (h : LeadsTo t (ofBytes path) names last directory) :
    directory = t.base (ofBytes path).absolute ++ outer ∧ last = name := by
  obtain ⟨names', hnames, hhere, houter⟩ := exists_names hpath hdown
  obtain ⟨rfl, hlast⟩ := List.append_inj' (h.names.symm.trans hnames) rfl
  obtain rfl : last = name := List.head_eq_of_cons_eq hlast
  have hup : Route.above ∉ names := fun hmem => hpath.above (by simp [hnames, hmem])
  exact ⟨houter ▸ followAll_down hup h.follows, rfl⟩

end Direct

end FileTree

end ClickGen
