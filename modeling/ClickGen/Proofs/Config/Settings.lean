import ClickGen.Config
import ClickGen.Proofs.Except
import ClickGen.Proofs.Toml.Distinct

/-!
Settings that are taken over from a table, one after the other.

Each setting looks at its own value alone, both for whether it can be used and for what comes of
it, and leaves what the other settings are about as it is. With distinct names this makes a table
the sum of its entries: all of them have to be usable, and in the result every setting is what its
own entry says, or what it was before.
-/

namespace ClickGen.Config

/-- The entries have a key of the name with the value, wherever. -/
def Given (entries : Toml.Entries) (name : Text) (v : Toml.Value) : Prop :=
  ∃ key span, (key, span, v) ∈ entries ∧ key.name = name

/-- The value is what it is given as, if it is given at all, and else the default. -/
def Takes {β : Type} (reads : Toml.Value → β → Prop) (given : Toml.Value → Prop)
    (default value : β) : Prop :=
  (∀ v, given v → reads v value) ∧ ((∀ v, ¬given v) → value = default)

variable {α β γ : Type} {settings : List (Setting α)} {a b : α} {entry : Toml.Key × Item}
  {entries : Toml.Entries} {name : Text}

lemma of_find?_name {setting : Setting α}
    (h : (settings.find? fun setting => setting.name = name) = some setting) :
    setting ∈ settings ∧ setting.name = name :=
  ⟨List.mem_of_find?_eq_some h, by simpa using List.find?_some h⟩

lemma applyEntry_eq_ok (h : applyEntry settings a entry = .ok b) :
    ∃ setting ∈ settings, setting.name = entry.1.name ∧ setting.apply entry.2 a = .ok b := by
  unfold applyEntry at h
  split at h
  · next setting hfind =>
    obtain ⟨hmem, hname⟩ := of_find?_name hfind
    exact ⟨setting, hmem, hname, h⟩
  · cases h

/-- The setting can use the value exactly if `p` holds, whatever was there before. -/
def Setting.Accepts (setting : Setting α) (item : Item) (p : Prop) : Prop :=
  ∀ a, (∃ b, setting.apply item a = .ok b) ↔ p

lemma exists_applyEntry {accepts : Text → Item → Prop}
    (h : ∀ setting ∈ settings, setting.name = entry.1.name →
      setting.Accepts entry.2 (accepts setting.name entry.2)) (a : α) :
    (∃ b, applyEntry settings a entry = .ok b) ↔
      entry.1.name ∈ namesOf settings ∧ accepts entry.1.name entry.2 := by
  unfold applyEntry
  cases hfind : settings.find? fun setting => setting.name = entry.1.name with
  | none =>
    have hunknown : entry.1.name ∉ namesOf settings := by
      intro hmem
      obtain ⟨setting, hsetting, hname⟩ := List.mem_map.mp hmem
      exact List.find?_eq_none.mp hfind setting hsetting (decide_eq_true hname)
    simp [hunknown]
  | some setting =>
    obtain ⟨hmem, hname⟩ := of_find?_name hfind
    have hknown : entry.1.name ∈ namesOf settings := List.mem_map.mpr ⟨setting, hmem, hname⟩
    have haccepts := h setting hmem hname a
    rw [hname] at haccepts
    simpa [hknown] using haccepts

/-- The setting puts what it reads in the place that `get` shows. What it reads can depend on what
is there before. -/
def Setting.Sets (setting : Setting α) (get : α → β) (reads : β → Toml.Value → β → Prop) : Prop :=
  ∀ ⦃item a b⦄, setting.apply item a = .ok b → reads (get a) item.2 (get b)

/-- The setting leaves the place that `get` shows as it is. -/
def Setting.Keeps (setting : Setting α) (get : α → β) : Prop :=
  ∀ ⦃item a b⦄, setting.apply item a = .ok b → get b = get a

/-- Of the settings, those of the name set the place that `get` shows, and all others keep it. -/
def Governs (settings : List (Setting α)) (name : Text) (get : α → β)
    (reads : β → Toml.Value → β → Prop) : Prop :=
  ∀ setting ∈ settings, setting.name = name ∧ setting.Sets get reads ∨
    setting.name ≠ name ∧ setting.Keeps get

section Governs

variable {setting : Setting α} {get : α → β} {reads : β → Toml.Value → β → Prop}

lemma Governs.nil : Governs [] name get reads := fun _ hmem => (List.not_mem_nil hmem).elim

lemma Governs.own (hname : setting.name = name) (hsets : setting.Sets get reads)
    (h : Governs settings name get reads) : Governs (setting :: settings) name get reads :=
  List.forall_mem_cons.mpr ⟨.inl ⟨hname, hsets⟩, h⟩

lemma Governs.other (hname : setting.name ≠ name) (hkeeps : setting.Keeps get)
    (h : Governs settings name get reads) : Governs (setting :: settings) name get reads :=
  List.forall_mem_cons.mpr ⟨.inr ⟨hname, hkeeps⟩, h⟩

end Governs

lemma keeps_of_read {read : Item → α → Except Complaint γ} {put : α → γ → α} {get : α → β}
    (h : ∀ a c, get (put a c) = get a) :
    Setting.Keeps ⟨name, fun item a => read item a >>= fun c => pure (put a c)⟩ get := by
  intro item a b happly
  obtain ⟨c, -, hb⟩ := bind_eq_ok.mp happly
  obtain rfl := Except.ok.inj hb
  exact h a c

lemma sets_of_read {read : Item → α → Except Complaint β} {put : α → β → α} {get : α → β}
    {reads : β → Toml.Value → β → Prop} (hget : ∀ a c, get (put a c) = c)
    (hread : ∀ ⦃item a c⦄, read item a = .ok c → reads (get a) item.2 c) :
    Setting.Sets ⟨name, fun item a => read item a >>= fun c => pure (put a c)⟩ get reads := by
  intro item a b happly
  obtain ⟨c, hc, hb⟩ := bind_eq_ok.mp happly
  obtain rfl := Except.ok.inj hb
  rw [hget]
  exact hread hc

lemma accepts_of_read {read : Item → α → Except Complaint γ} {put : α → γ → α} {item : Item}
    {p : Prop} (h : ∀ a, (∃ c, read item a = .ok c) ↔ p) :
    Setting.Accepts ⟨name, fun item a => read item a >>= fun c => pure (put a c)⟩ item p :=
  fun a => (exists_ok_bind fun _ => exists_ok_pure _).trans ((iff_of_eq (and_true _)).trans (h a))

/-! ### All settings of a table -/

lemma perm_sorted (entries : Toml.Entries) : (sorted entries).Perm entries :=
  List.mergeSort_perm _ _

lemma exists_applyEntries (accepts : Text → Item → Prop)
    (h : ∀ entry ∈ entries, ∀ setting ∈ settings, setting.name = entry.1.name →
      setting.Accepts entry.2 (accepts setting.name entry.2)) (a : α) :
    (∃ b, applyEntries settings a entries = .ok b) ↔
      ∀ entry ∈ entries, entry.1.name ∈ namesOf settings ∧ accepts entry.1.name entry.2 := by
  have hmem (entry : Toml.Key × Item) : entry ∈ sorted entries ↔ entry ∈ entries :=
    (perm_sorted entries).mem_iff
  rw [applyEntries, ← forall_congr' fun entry => imp_congr_left (hmem entry)]
  replace h := fun entry hentry => h entry ((hmem entry).mp hentry)
  generalize sorted entries = l at h
  -- whether an entry is usable does not depend on those before it, so `a` may be anything
  induction l generalizing a with
  | nil => simpa using exists_ok_pure a
  | cons entry rest ih =>
    obtain ⟨hfirst, hrest⟩ := List.forall_mem_cons.mp h
    rw [List.foldlM_cons, exists_ok_bind fun b => ih b hrest, exists_applyEntry hfirst,
      List.forall_mem_cons]

variable {get : α → β} {reads : β → Toml.Value → β → Prop}

lemma Governs.of_applyEntry (h : Governs settings name get reads)
    (happly : applyEntry settings a entry = .ok b) :
    entry.1.name = name ∧ reads (get a) entry.2.2 (get b) ∨
      entry.1.name ≠ name ∧ get b = get a := by
  obtain ⟨setting, hmem, hname, hsetting⟩ := applyEntry_eq_ok happly
  rw [← hname]
  exact (h setting hmem).imp (And.imp_right fun hsets => hsets hsetting)
    (And.imp_right fun hkeeps => hkeeps hsetting)

/-- The entries are taken over one after the other: before the own one the place is as it was, and
after it there is no other of the name. -/
lemma Governs.takes_foldlM (h : Governs settings name get reads) {l : Toml.Entries}
    (hnames : (l.map (·.1.name)).Nodup) (hfold : l.foldlM (applyEntry settings) a = .ok b) :
    Takes (reads (get a)) (Given l name) (get a) (get b) := by
  induction l generalizing a with
  | nil =>
    obtain rfl := Except.ok.inj hfold
    refine ⟨?_, fun _ => rfl⟩
    rintro v ⟨_, _, hmem, -⟩
    cases hmem
  | cons entry rest ih =>
    obtain ⟨key, span, v⟩ := entry
    rw [List.foldlM_cons] at hfold
    obtain ⟨next, hfirst, hrest⟩ := bind_eq_ok.mp hfold
    rw [List.map_cons, List.nodup_cons] at hnames
    obtain ⟨hset, hdefault⟩ := ih hnames.2 hrest
    rcases h.of_applyEntry hfirst with ⟨hname, hreads⟩ | ⟨hname, hkeep⟩
    · have hnone : ∀ v, ¬Given rest name v := by
        rintro v ⟨other, span, hmem, hother⟩
        exact hnames.1 (List.mem_map.mpr ⟨_, hmem, hother.trans hname.symm⟩)
      refine ⟨?_, fun hno => absurd ⟨key, span, List.mem_cons_self, hname⟩ (hno v)⟩
      rintro v' ⟨other, span', hmem, hother⟩
      rcases List.mem_cons.mp hmem with heq | hmem
      · obtain ⟨rfl, rfl, rfl⟩ : other = key ∧ span' = span ∧ v' = v := by simpa using heq
        exact hdefault hnone ▸ hreads
      · exact absurd ⟨other, span', hmem, hother⟩ (hnone v')
    · have hgiven (v' : Toml.Value) :
          Given ((key, span, v) :: rest) name v' ↔ Given rest name v' := by
        constructor
        · rintro ⟨other, span', hmem, hother⟩
          rcases List.mem_cons.mp hmem with heq | hmem
          · obtain ⟨rfl, -, -⟩ : other = key ∧ span' = span ∧ v' = v := by simpa using heq
            exact absurd hother hname
          · exact ⟨other, span', hmem, hother⟩
        · rintro ⟨other, span', hmem, hother⟩
          exact ⟨other, span', List.mem_cons_of_mem _ hmem, hother⟩
      rw [hkeep] at hset hdefault
      exact ⟨fun v' hv' => hset v' ((hgiven v').mp hv'),
        fun hno => hdefault fun v' hv' => hno v' ((hgiven v').mpr hv')⟩

lemma Governs.takes (h : Governs settings name get reads)
    (hnames : (entries.map (·.1.name)).Nodup) (happly : applyEntries settings a entries = .ok b) :
    Takes (reads (get a)) (Given entries name) (get a) (get b) := by
  have hperm := perm_sorted entries
  obtain ⟨hset, hdefault⟩ :=
    h.takes_foldlM ((hperm.map _).nodup_iff.mpr hnames) happly
  have hgiven (v : Toml.Value) : Given (sorted entries) name v ↔ Given entries name v :=
    exists₂_congr fun _ _ => and_congr_left' hperm.mem_iff
  exact ⟨fun v hv => hset v ((hgiven v).mpr hv),
    fun hno => hdefault fun v hv => hno v ((hgiven v).mp hv)⟩

end ClickGen.Config
