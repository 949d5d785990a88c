import ClickGen.Proofs.File.Write
import Mathlib.Data.List.Induction

/-!
File trees in which all that is there stands in a directory, as in a file system. Writing keeps a
tree so: it adds entries to directories only, and no directory becomes a file.
-/

namespace ClickGen.FileTree

/-- What is there stands in a directory, and relative paths start from one. -/
structure WellFormed (t : FileTree) : Prop where
  around : ∀ {place}, (t.entry? place).isSome → t.isDirectory place.dropLast
  working : t.isDirectory t.working

lemma mem_of_lookup {entries : List (Location × Entry)} {place : Location} {e : Entry}
    (h : entries.lookup place = some e) : (place, e) ∈ entries := by
  induction entries with
  | nil => cases h
  | cons old rest ih =>
    rw [lookup_cons] at h
    split_ifs at h with hplace
    · obtain rfl : old.2 = e := Option.some.inj h
      rw [hplace]
      exact List.mem_cons_self
    · exact List.mem_cons_of_mem _ (ih h)

lemma wellFormed_of_entries {t : FileTree}
    (hentries : ∀ entry ∈ t.entries, t.isDirectory entry.1.dropLast)
    (hworking : t.isDirectory t.working) : t.WellFormed := by
  refine ⟨fun {place} hs => ?_, hworking⟩
  obtain ⟨e, he⟩ := Option.isSome_iff_exists.mp hs
  unfold entry? at he
  split_ifs at he with hroot
  · rw [hroot]
    exact isDirectory_iff.mpr (if_pos rfl)
  · exact hentries _ (mem_of_lookup he)

namespace WellFormed

variable {t t' : FileTree}

lemma isSome_of_prefix (h : t.WellFormed) {place outer : Location} (hp : outer <+: place)
    (hs : (t.entry? place).isSome) : (t.entry? outer).isSome := by
  obtain ⟨names, rfl⟩ := hp
  induction names using List.reverseRecOn with
  | nil => simpa using hs
  | append_singleton names last ih =>
    have hd := h.around hs
    rw [← List.append_assoc, List.dropLast_concat] at hd
    exact ih (by rw [isDirectory_iff.mp hd]; rfl)

lemma isDirectory_of_prefix (h : t.WellFormed) {place outer : Location} (hp : outer <+: place)
    (hd : t.isDirectory place) : t.isDirectory outer := by
  obtain ⟨names, rfl⟩ := hp
  induction names using List.reverseRecOn with
  | nil => simpa using hd
  | append_singleton names last ih =>
    have hsome : (t.entry? (outer ++ (names ++ [last]))).isSome := by
      rw [isDirectory_iff.mp hd]
      rfl
    have haround := h.around hsome
    rw [← List.append_assoc, List.dropLast_concat] at haround
    exact ih haround

lemma entry?_eq_none (h : t.WellFormed) {place outer : Location} (hp : outer <+: place)
    (hnone : t.entry? outer = none) : t.entry? place = none := by
  by_contra hsome
  have hthere := h.isSome_of_prefix hp (Option.isSome_iff_ne_none.mpr hsome)
  rw [hnone] at hthere
  cases hthere

lemma isDirectory_start (h : t.WellFormed) (r : Route) : t.isDirectory (t.start r) := by
  unfold start
  split_ifs
  · exact isDirectory_iff.mpr (if_pos rfl)
  · exact h.working

lemma set (h : t.WellFormed) {directory : Location} (hd : t.isDirectory directory) (last : Name)
    {e : Entry} (he : e = .directory ∨ t.entry? (directory ++ [last]) ≠ some .directory) :
    (t.set (directory ++ [last]) e).WellFormed := by
  have hset := entry?_set (show directory ++ [last] ≠ [] by simp) t e
  have hkeep : ∀ {other}, t.isDirectory other →
      (t.set (directory ++ [last]) e).isDirectory other := by
    intro other hother
    rw [isDirectory_iff] at hother ⊢
    rw [hset]
    split_ifs with hplace
    -- a directory stays one, since no file is put in its place
    · rcases he with rfl | hne
      · rfl
      · exact absurd (hplace ▸ hother) hne
    · exact hother
  refine ⟨fun {other} hs => ?_, hkeep h.working⟩
  rw [hset] at hs
  split_ifs at hs with hplace
  · rw [hplace, List.dropLast_concat]
    exact hkeep hd
  · exact hkeep (h.around hs)

lemma makeDirectory (h : t.WellFormed) {r : Route} (hmake : t.makeDirectory r = .ok t') :
    t'.WellFormed := by
  obtain ⟨outer, last, directory, hleads, -, rfl⟩ := makeDirectory_eq_ok hmake
  exact h.set hleads.isDirectory last (.inl rfl)

lemma makeDirectories (h : t.WellFormed) {paths : List Bytes} {result : Except FileFault Unit}
    (hmake : t.makeDirectories paths = (t', result)) : t'.WellFormed :=
  makeDirectories_induct (fun ht hmake => ht.makeDirectory hmake) h hmake

lemma writeFile (h : t.WellFormed) {r : Route} {content : Bytes}
    (hwrite : t.writeFile r content = .ok t') : t'.WellFormed := by
  obtain ⟨outer, last, directory, hleads, -, -, hne, rfl⟩ := writeFile_eq_ok hwrite
  exact h.set hleads.isDirectory last (.inr hne)

lemma write (h : t.WellFormed) {path content : Bytes} {result : Except FileFault Unit}
    (hwrite : t.write path content = (t', result)) : t'.WellFormed := by
  unfold FileTree.write at hwrite
  split at hwrite
  · next made fault hmake =>
    obtain rfl : made = t' := congrArg Prod.fst hwrite
    exact h.makeDirectories hmake
  · next made hmake =>
    split at hwrite
    · next written hwritten =>
      obtain rfl : written = t' := congrArg Prod.fst hwrite
      exact (h.makeDirectories hmake).writeFile hwritten
    · obtain rfl : made = t' := congrArg Prod.fst hwrite
      exact h.makeDirectories hmake

lemma store (h : t.WellFormed) {path content : Bytes} {rule : Overwrite}
    {result : Except FileFault WriteResult} (hstore : t.store path content rule = (t', result)) :
    t'.WellFormed := by
  unfold FileTree.store at hstore
  split_ifs at hstore
  · obtain rfl : t = t' := congrArg Prod.fst hstore
    exact h
  · split at hstore
    · next after hwrite =>
      obtain rfl : after = t' := congrArg Prod.fst hstore
      exact h.write hwrite
    · next after fault hwrite =>
      obtain rfl : after = t' := congrArg Prod.fst hstore
      exact h.write hwrite

end WellFormed

end ClickGen.FileTree
