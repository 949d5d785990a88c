import ClickGen.Proofs.Except
import ClickGen.Xml.Tag
import Mathlib.Tactic.SplitIfs

/-!
References in a text that is read in parts. Where no reference is open, a text can be cut in two,
and each part is read on its own: positions in a text only show in faults.
-/

namespace ClickGen.Xml

/-- Whether a reference is open after one more character. -/
def referenceStep (isOpen : Bool) (c : Char) : Bool :=
  if c = '&' then true else if c = ';' then false else isOpen

/-- Whether a text ends inside of a reference: at its end, some `&` waits for its `;`. -/
def insideReference (s : Text) : Bool := s.foldl referenceStep false

lemma foldl_referenceStep {t : Text} (h : ∀ c ∈ t, c ≠ '&' ∧ c ≠ ';') (isOpen : Bool) :
    t.foldl referenceStep isOpen = isOpen := by
  induction t with
  | nil => rfl
  | cons c t ih =>
    obtain ⟨⟨hampersand, hsemicolon⟩, hrest⟩ := List.forall_mem_cons.mp h
    rw [List.foldl_cons, referenceStep, if_neg hampersand, if_neg hsemicolon, ih hrest]

lemma insideReference_append {s t : Text} (h : ∀ c ∈ t, c ≠ '&' ∧ c ≠ ';') :
    insideReference (s ++ t) = insideReference s := by
  rw [insideReference, List.foldl_append, foldl_referenceStep h, insideReference]

lemma resolve_congr {start stop : Nat} {name : Text} {c : Char}
    (h : resolve start stop name = .ok c) (start' stop' : Nat) : resolve start' stop' name = .ok c := by
  unfold resolve at h ⊢
  split at h
  · obtain ⟨code, hcode, h⟩ := bind_eq_ok.mp h
    rw [hcode, ok_bind]
    split_ifs at h ⊢
    exact h
  · next hname =>
    split at h
    · exact h
    · cases h

lemma expandFrom_congr (name? : Option Text) (start start' : Nat) {size position : Nat} {s x : Text}
    (h : expandFrom size position (name?.map (start, ·)) s = .ok x) (size' position' : Nat) :
    expandFrom size' position' (name?.map (start', ·)) s = .ok x := by
  induction s generalizing position position' start start' name? x with
  | nil =>
    cases name? with
    | none => exact h
    | some name => cases h
  | cons c s ih =>
    cases name? with
    | none =>
      simp only [Option.map_none, expandFrom] at h ⊢
      split_ifs at h ⊢
      · exact ih (some []) position position' h _
      · obtain ⟨rest, hrest, h⟩ := bind_eq_ok.mp h
        exact bind_eq_ok.mpr ⟨rest, ih none 0 0 hrest _, h⟩
    | some name =>
      simp only [Option.map_some, expandFrom] at h ⊢
      split_ifs at h ⊢
      · obtain ⟨found, hfound, h⟩ := bind_eq_ok.mp h
        obtain ⟨rest, hrest, h⟩ := bind_eq_ok.mp h
        exact bind_eq_ok.mpr
          ⟨found, resolve_congr hfound _ _, bind_eq_ok.mpr ⟨rest, ih none 0 0 hrest _, h⟩⟩
      · exact ih (some (c :: name)) start start' h _

lemma expandFrom_append {size position : Nat} {pending : Option (Nat × Text)} {s t x : Text}
    (h : expandFrom size position pending (s ++ t) = .ok x)
    (hclosed : s.foldl referenceStep pending.isSome = false) :
    ∃ a b between, expandFrom size position pending s = .ok a ∧
      expandFrom size between none t = .ok b ∧ x = a ++ b := by
  induction s generalizing position pending x with
  | nil =>
    obtain rfl : pending = none := by simpa using hclosed
    exact ⟨[], x, position, rfl, h, rfl⟩
  | cons c s ih =>
    rw [List.foldl_cons] at hclosed
    cases pending with
    | none =>
      simp only [List.cons_append, expandFrom] at h ⊢
      split_ifs at h ⊢ with hc
      · exact ih h (by simpa [referenceStep, hc] using hclosed)
      · obtain ⟨rest, hrest, h⟩ := bind_eq_ok.mp h
        obtain rfl := Except.ok.inj h
        have hstep : referenceStep false c = false := by
          rw [referenceStep, if_neg hc, ite_self]
        obtain ⟨a, b, between, ha, hb, rfl⟩ := ih hrest (by simpa [hstep] using hclosed)
        exact ⟨c :: a, b, between, bind_eq_ok.mpr ⟨a, ha, rfl⟩, hb, rfl⟩
    | some opened =>
      obtain ⟨start, name⟩ := opened
      simp only [List.cons_append, expandFrom] at h ⊢
      split_ifs at h ⊢ with hsemicolon hampersand
      · obtain ⟨found, hfound, h⟩ := bind_eq_ok.mp h
        obtain ⟨rest, hrest, h⟩ := bind_eq_ok.mp h
        obtain rfl := Except.ok.inj h
        obtain ⟨a, b, between, ha, hb, rfl⟩ :=
          ih hrest (by simpa [referenceStep, hsemicolon] using hclosed)
        exact ⟨found :: a, b, between,
          bind_eq_ok.mpr ⟨found, hfound, bind_eq_ok.mpr ⟨a, ha, rfl⟩⟩, hb, rfl⟩
      · exact ih h (by simpa [referenceStep, hsemicolon, hampersand] using hclosed)

/-- Cut in two where no reference is open, a text is read part by part. -/
lemma expand_append {s t x : Text} (h : expand (s ++ t) = .ok x)
    (hclosed : insideReference s = false) :
    ∃ a b, expand s = .ok a ∧ expand t = .ok b ∧ x = a ++ b := by
  obtain ⟨a, b, between, ha, hb, rfl⟩ := expandFrom_append h hclosed
  exact ⟨a, b, expandFrom_congr none 0 0 ha _ _, expandFrom_congr none 0 0 hb _ _, rfl⟩

lemma expand_of_notMem {s : Text} (h : '&' ∉ s) : expand s = .ok s := by
  suffices hfrom : ∀ size position, expandFrom size position none s = .ok s from hfrom _ _
  intro size position
  induction s generalizing position with
  | nil => rfl
  | cons c s ih =>
    rw [List.mem_cons, not_or] at h
    simp only [expandFrom, if_neg (Ne.symm h.1), ih h.2]
    rfl

end ClickGen.Xml
