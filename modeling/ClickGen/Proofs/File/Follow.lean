import ClickGen.File.Tree
import ClickGen.Proofs.Except
import Mathlib.Tactic.SplitIfs

/-!
What a file tree says about its places, and how following a route depends on it: a route that
leads somewhere still leads there when entries are added and directories stay directories.
-/

namespace ClickGen.FileTree

lemma lookup_cons (old : Location × Entry) (rest : List (Location × Entry)) (other : Location) :
    (old :: rest).lookup other = if other = old.1 then some old.2 else rest.lookup other := by
  rw [List.lookup_cons]
  by_cases h : other = old.1
  · rw [if_pos h, beq_iff_eq.mpr h]
  · rw [if_neg h, beq_eq_false_iff_ne.mpr h]

lemma lookup_put (place : Location) (e : Entry) (entries : List (Location × Entry))
    (other : Location) :
    (put place e entries).lookup other =
      if other = place then some e else entries.lookup other := by
  induction entries with
  | nil => rw [put, lookup_cons]
  | cons old rest ih =>
    rw [put]
    by_cases hold : old.1 = place
    · rw [if_pos hold, lookup_cons, lookup_cons, hold]
      split_ifs <;> rfl
    · rw [if_neg hold, lookup_cons, lookup_cons, ih]
      by_cases h : other = place
      · have hne : other ≠ old.1 := fun heq => hold (heq.symm.trans h)
        rw [if_neg hne, if_pos h, if_pos h]
      · rw [if_neg h, if_neg h]

lemma entry?_set {place : Location} (hplace : place ≠ []) (t : FileTree) (e : Entry)
    (other : Location) :
    FileTree.entry? (t.set place e) other = if other = place then some e else t.entry? other := by
  unfold entry? set
  by_cases hroot : other = []
  · rw [if_pos hroot, if_pos hroot, if_neg fun heq => hplace (heq.symm.trans hroot)]
  · rw [if_neg hroot, if_neg hroot, lookup_put]

def file? (t : FileTree) (place : Location) : Option Bytes :=
  match t.entry? place with
  | some (.file content) => some content
  | _ => none

lemma file?_eq_some {t : FileTree} {place : Location} {content : Bytes} :
    t.file? place = some content ↔ t.entry? place = some (.file content) := by
  unfold file?
  split <;> simp_all

structure Keeps (t t' : FileTree) : Prop where
  working : t'.working = t.working
  directory : ∀ {place}, t.isDirectory place → t'.isDirectory place
  isSome : ∀ {place}, (t.entry? place).isSome → (t'.entry? place).isSome

lemma Keeps.refl (t : FileTree) : Keeps t t := ⟨rfl, id, id⟩

lemma Keeps.trans {t t' t'' : FileTree} (h : Keeps t t') (h' : Keeps t' t'') : Keeps t t'' :=
  ⟨h'.working.trans h.working, fun hd => h'.directory (h.directory hd),
    fun hs => h'.isSome (h.isSome hs)⟩

lemma followAll_cons {t : FileTree} {place last : Location} {name : Name} {rest : List Name} :
    t.followAll place (name :: rest) = .ok last ↔
      ∃ next, t.follow place name = .ok next ∧ t.followAll next rest = .ok last := by
  rw [followAll]
  exact bind_eq_ok

lemma followAll_append {t : FileTree} {place last : Location} {names more : List Name} :
    t.followAll place (names ++ more) = .ok last ↔
      ∃ next, t.followAll place names = .ok next ∧ t.followAll next more = .ok last := by
  induction names generalizing place with
  | nil => simp [followAll]
  | cons name rest ih =>
    simp only [List.cons_append, followAll_cons, ih]
    constructor
    · rintro ⟨next, hname, last', hrest, hmore⟩
      exact ⟨last', ⟨next, hname, hrest⟩, hmore⟩
    · rintro ⟨last', ⟨next, hname, hrest⟩, hmore⟩
      exact ⟨next, hname, last', hrest, hmore⟩

lemma follow_eq_ok {t : FileTree} {place next : Location} {name : Name} :
    t.follow place name = .ok next ↔ t.isDirectory place ∧
      (name = Route.here ∧ next = place ∨
        name ≠ Route.here ∧ name = Route.above ∧ next = place.dropLast ∨
        name ≠ Route.here ∧ name ≠ Route.above ∧ checkName name = .ok () ∧
          (t.entry? next).isSome ∧ next = place ++ [name]) := by
  unfold follow
  by_cases hd : t.isDirectory place
  · rw [if_neg (by simp [hd])]
    split_ifs with hhere habove
    · constructor
      · intro h
        exact ⟨hd, .inl ⟨hhere, (Except.ok.inj h).symm⟩⟩
      · rintro ⟨-, ⟨-, rfl⟩ | ⟨hne, -⟩ | ⟨hne, -⟩⟩
        · rfl
        · exact absurd hhere hne
        · exact absurd hhere hne
    · constructor
      · intro h
        exact ⟨hd, .inr (.inl ⟨hhere, habove, (Except.ok.inj h).symm⟩)⟩
      · rintro ⟨-, ⟨heq, -⟩ | ⟨-, -, rfl⟩ | ⟨-, hne, -⟩⟩
        · exact absurd heq hhere
        · rfl
        · exact absurd habove hne
    · constructor
      · intro h
        obtain ⟨u, hname, hnext⟩ := bind_eq_ok.mp h
        by_cases he : (t.entry? (place ++ [name])).isSome
        · obtain rfl : place ++ [name] = next := by simpa [he] using hnext
          exact ⟨hd, .inr (.inr ⟨hhere, habove, hname, he, rfl⟩)⟩
        · simp [he] at hnext
      · rintro ⟨-, ⟨heq, -⟩ | ⟨-, heq, -⟩ | ⟨-, -, hname, he, rfl⟩⟩
        · exact absurd heq hhere
        · exact absurd heq habove
        · rw [hname, ok_bind, if_pos he]
  · simp [hd]

lemma Keeps.follow {t t' : FileTree} (h : Keeps t t') {place next : Location} {name : Name}
    (hf : t.follow place name = .ok next) : t'.follow place name = .ok next := by
  rw [follow_eq_ok] at hf ⊢
  obtain ⟨hd, hnext⟩ := hf
  refine ⟨h.directory hd, ?_⟩
  rcases hnext with hhere | habove | ⟨hhere, habove, hname, he, heq⟩
  · exact .inl hhere
  · exact .inr (.inl habove)
  · exact .inr (.inr ⟨hhere, habove, hname, h.isSome he, heq⟩)

lemma Keeps.followAll {t t' : FileTree} (h : Keeps t t') {place last : Location}
    {names : List Name} (hf : t.followAll place names = .ok last) :
    t'.followAll place names = .ok last := by
  induction names generalizing place with
  | nil => exact hf
  | cons name rest ih =>
    rw [followAll_cons] at hf ⊢
    obtain ⟨next, hname, hrest⟩ := hf
    exact ⟨next, h.follow hname, ih hrest⟩

/-! ### Routes -/

lemma locate_eq_ok {t : FileTree} {r : Route} {place : Location} :
    t.locate r = .ok place ↔ r.check = .ok () ∧ t.followAll (t.start r) r.names = .ok place ∧
      (r.slash → t.isDirectory place) := by
  unfold locate
  constructor
  · intro h
    obtain ⟨u, hcheck, h⟩ := bind_eq_ok.mp h
    obtain ⟨last, hlast, h⟩ := bind_eq_ok.mp h
    by_cases hslash : r.slash && !t.isDirectory last
    · rw [if_pos hslash] at h
      cases h
    · rw [if_neg hslash] at h
      obtain rfl : last = place := Except.ok.inj h
      exact ⟨hcheck, hlast, fun hs => by simpa [hs] using hslash⟩
  · rintro ⟨hcheck, hlast, hslash⟩
    have hno : ¬(r.slash && !t.isDirectory place) := by
      intro h
      rw [Bool.and_eq_true, Bool.not_eq_true'] at h
      rw [hslash h.1] at h
      exact Bool.noConfusion h.2
    rw [hcheck, ok_bind, hlast, ok_bind, if_neg hno]
    rfl

lemma exists?_iff {t : FileTree} {path : Bytes} :
    t.exists? path ↔ ∃ place, t.locate (.ofBytes path) = .ok place := by
  rw [exists?]
  cases t.locate (.ofBytes path) <;> simp [Except.isOk, Except.toBool]

lemma read_eq_ok {t : FileTree} {path content : Bytes} : t.read path = .ok content ↔
    ∃ place, t.locate (.ofBytes path) = .ok place ∧ t.file? place = some content := by
  rw [read, bind_eq_ok]
  refine exists_congr fun place => and_congr_right fun _ => ?_
  rw [file?]
  cases t.entry? place with
  | none => simp
  | some e => cases e <;> simp [pure, Except.pure]

lemma Keeps.start {t t' : FileTree} (h : Keeps t t') (r : Route) : t'.start r = t.start r := by
  rw [FileTree.start, FileTree.start, h.working]

lemma Keeps.locate {t t' : FileTree} (h : Keeps t t') {r : Route} {place : Location}
    (hl : t.locate r = .ok place) : t'.locate r = .ok place := by
  rw [locate_eq_ok] at hl ⊢
  obtain ⟨hcheck, hf, hslash⟩ := hl
  rw [h.start]
  exact ⟨hcheck, h.followAll hf, fun hs => h.directory (hslash hs)⟩

lemma Keeps.exists? {t t' : FileTree} (h : Keeps t t') {path : Bytes} (he : t.exists? path) :
    t'.exists? path := by
  rw [exists?_iff] at he ⊢
  obtain ⟨place, hlocate⟩ := he
  exact ⟨place, h.locate hlocate⟩

structure LeadsTo (t : FileTree) (r : Route) (outer : List Name) (last : Name)
    (directory : Location) : Prop where
  check : r.check = .ok ()
  names : r.names = outer ++ [last]
  follows : t.followAll (t.start r) outer = .ok directory
  isDirectory : t.isDirectory directory
  here : last ≠ Route.here
  above : last ≠ Route.above

lemma exists_leadsTo {t : FileTree} {r : Route} {place : Location}
    (h : t.target r = .ok (.named place)) :
    ∃ outer last directory, LeadsTo t r outer last directory ∧ place = directory ++ [last] := by
  unfold target at h
  obtain ⟨u, hcheck, h⟩ := bind_eq_ok.mp h
  cases hnames : r.names.reverse with
  | nil =>
    rw [hnames] at h
    cases (show Except.ok Target.fixed = Except.ok (Target.named place) from h)
  | cons last outer =>
    rw [hnames] at h
    obtain ⟨directory, hfollows, h⟩ := bind_eq_ok.mp h
    have hparts : r.names = outer.reverse ++ [last] := by
      rw [← List.reverse_reverse r.names, hnames, List.reverse_cons]
    by_cases hdots : last = Route.here ∨ last = Route.above
    · rw [if_pos hdots] at h
      obtain ⟨next, -, h⟩ := bind_eq_ok.mp h
      cases h
    · rw [if_neg hdots] at h
      rw [not_or] at hdots
      by_cases hd : t.isDirectory directory
      · rw [if_neg (by simp [hd])] at h
        obtain rfl : directory ++ [last] = place := by
          cases h
          rfl
        exact ⟨outer.reverse, last, directory,
          ⟨hcheck, hparts, hfollows, hd, hdots.1, hdots.2⟩, rfl⟩
      · rw [if_pos (by simp [hd])] at h
        cases h

lemma LeadsTo.of_keeps {t t' : FileTree} (h : Keeps t t') {r : Route} {outer : List Name}
    {last : Name} {directory : Location} (hr : LeadsTo t r outer last directory) :
    LeadsTo t' r outer last directory := by
  have hfollows := h.followAll hr.follows
  rw [← h.start] at hfollows
  exact ⟨hr.check, hr.names, hfollows, h.directory hr.isDirectory, hr.here, hr.above⟩

lemma LeadsTo.locate {t : FileTree} {r : Route} {outer : List Name} {last : Name}
    {directory : Location} (hr : LeadsTo t r outer last directory) (hslash : r.slash = false)
    (hname : checkName last = .ok ()) (he : (t.entry? (directory ++ [last])).isSome) :
    t.locate r = .ok (directory ++ [last]) := by
  have hlast : t.follow directory last = .ok (directory ++ [last]) :=
    follow_eq_ok.mpr ⟨hr.isDirectory, .inr (.inr ⟨hr.here, hr.above, hname, he, rfl⟩)⟩
  have hall : t.followAll (t.start r) (outer ++ [last]) = .ok (directory ++ [last]) :=
    followAll_append.mpr ⟨directory, hr.follows, followAll_cons.mpr ⟨_, hlast, rfl⟩⟩
  rw [locate_eq_ok, hr.names, hslash]
  exact ⟨hr.check, hall, fun hs => Bool.noConfusion hs⟩

end ClickGen.FileTree
