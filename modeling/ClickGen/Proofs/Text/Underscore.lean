import ClickGen.Proofs.Text.Snake
import Mathlib.Data.List.Chain

/-!
Where snake case puts underscores.

But for them, the snake case of a text is its lower case without the separators, character by
character. A new underscore is never put behind another one. In ASCII a snake case is small
letters, digits and marks, and there is nothing left that would make it change a second time.
-/

namespace ClickGen.Text

lemma isSeparator_iff {c : Char} : isSeparator c ↔ c ∈ "-. ".toList := by
  simp [isSeparator, or_assoc]

lemma underscore_notMem_lowerChar {c : Char} (h : c ≠ '_') : '_' ∉ lowerChar c := fun hmem =>
  h (eq_of_mem_lowerChar hmem (by decide))

lemma filter_snakePiece (before : Text) (gap : Bool) (c : Char) (rest : Text) :
    (snakePiece before gap c rest).filter (· ≠ '_') =
      if c ∈ "-. _".toList then [] else lowerChar c := by
  have hmarks : c ∈ "-. _".toList ↔ isSeparator c ∨ c = '_' := by
    simp [isSeparator, or_assoc]
  by_cases hc : isSeparator c
  · rw [if_pos (hmarks.mpr (.inl hc)), snakePiece, if_pos hc]
    cases gap <;> rfl
  · rw [snakePiece, if_neg hc]
    by_cases hunderscore : c = '_'
    · subst hunderscore
      rw [if_pos (hmarks.mpr (.inr rfl))]
      split <;> rfl
    · have hlow : (lowerChar c).filter (· ≠ '_') = lowerChar c := by
        refine List.filter_eq_self.mpr fun d hd => ?_
        have hne : d ≠ '_' := fun heq => underscore_notMem_lowerChar hunderscore (heq ▸ hd)
        simpa using hne
      rw [if_neg fun hmem => (hmarks.mp hmem).elim hc hunderscore]
      split
      · rw [List.filter_cons_of_neg (by simp), hlow]
      · exact hlow

lemma filter_snakeFrom (before : Text) (gap : Bool) (s : Text) :
    (snakeFrom before gap s).filter (· ≠ '_') = lowerEach (s.filter (· ∉ "-. _".toList)) := by
  induction s generalizing before gap with
  | nil => rfl
  | cons c rest ih =>
    rw [snakeFrom_cons, List.filter_append, filter_snakePiece, ih]
    by_cases hc : c ∈ "-. _".toList
    · rw [if_pos hc, List.filter_cons_of_neg (by rwa [decide_eq_true_eq, not_not]),
        List.nil_append]
    · rw [if_neg hc, List.filter_cons_of_pos (by rwa [decide_eq_true_eq])]
      rfl

/-! ### Adjacent underscores -/

/-- No underscore follows another one. -/
def IsSpaced (s : Text) : Prop := s.IsChain fun c d => c ≠ '_' ∨ d ≠ '_'

lemma IsSpaced.not_doubled {s : Text} (h : IsSpaced s) : ¬ "__".toList <:+: s := by
  intro hdouble
  have hpair : IsSpaced "__".toList := List.IsChain.infix h hdouble
  simp [IsSpaced] at hpair

lemma isSpaced_append {s t : Text} (hs : '_' ∉ s) (ht : IsSpaced t) : IsSpaced (s ++ t) := by
  induction s with
  | nil => exact ht
  | cons c s ih =>
    have hc : c ≠ '_' := fun heq => hs (heq ▸ List.mem_cons_self)
    have hrest := ih fun hmem => hs (List.mem_cons_of_mem c hmem)
    exact List.isChain_cons.mpr ⟨fun _ _ => .inl hc, hrest⟩

lemma isSpaced_underscore_append {s t : Text} (hs : '_' ∉ s) (hne : s ≠ []) (ht : IsSpaced t) :
    IsSpaced ('_' :: (s ++ t)) := by
  obtain ⟨c, rest, rfl⟩ := List.exists_cons_of_ne_nil hne
  have hc : c ≠ '_' := fun heq => hs (heq ▸ List.mem_cons_self)
  refine List.isChain_cons.mpr ⟨fun d hd => .inr ?_, isSpaced_append hs ht⟩
  obtain rfl : c = d := by simpa using hd
  exact hc

/-- The end of what is written so far, as far as the next piece goes by it. -/
def gapText (gap : Bool) : Text := if gap then ['_'] else []

lemma isSpaced_snakePiece {c : Char} (hc : c ≠ '_') {before rest more : Text} {gap : Bool}
    (h : IsSpaced (gapText (endsInGap c) ++ more)) :
    IsSpaced (gapText gap ++ (snakePiece before gap c rest ++ more)) := by
  unfold snakePiece
  by_cases hsep : isSeparator c
  · have hgap : endsInGap c = true := by simp [endsInGap, hsep]
    rw [hgap] at h
    rw [if_pos hsep]
    cases gap <;> simpa [gapText] using h
  · have hgap : endsInGap c = false := by simp [endsInGap, hsep, hc]
    have hmore : IsSpaced more := by
      rw [hgap] at h
      exact h
    have hlow := underscore_notMem_lowerChar hc
    have hput := isSpaced_underscore_append hlow (lowerChar_ne_nil c) hmore
    rw [if_neg hsep]
    cases gap with
    | true => simpa [gapText] using hput
    | false =>
      split
      · simpa [gapText] using hput
      · simpa [gapText] using isSpaced_append hlow hmore

lemma isSpaced_snakeFrom {s : Text} (h : '_' ∉ s) (before : Text) (gap : Bool) :
    IsSpaced (gapText gap ++ snakeFrom before gap s) := by
  induction s generalizing before gap with
  | nil => cases gap <;> simp [gapText, snakeFrom, IsSpaced]
  | cons c rest ih =>
    have hc : c ≠ '_' := fun heq => h (heq ▸ List.mem_cons_self)
    rw [snakeFrom_cons]
    exact isSpaced_snakePiece hc (ih (fun hmem => h (List.mem_cons_of_mem c hmem)) _ _)

/-! ### A second time -/

lemma isUpper_of_lt {c : Char} (h : c.toNat < 128) : isUpper c ↔ 'A' ≤ c ∧ c ≤ 'Z' := by
  rw [isUpper, if_pos h]
  simp

lemma not_isUpper_of_mem_lowerChar {c d : Char} (h : d ∈ lowerChar c) (hd : d.toNat < 128) :
    ¬ isUpper d := by
  rw [isUpper_of_lt hd]
  intro hupper
  have hsmall : d.toNat < 'a'.toNat :=
    Nat.lt_of_le_of_lt (UInt32.le_iff_toNat_le.mp hupper.2) (by decide)
  obtain rfl := eq_of_mem_lowerChar h hsmall
  rw [lowerChar_of_lt hd, List.mem_singleton] at h
  exact toLower_eq_self_iff.mp h.symm hupper

lemma toNat_lt_of_mem_snakeFrom {s : Text} (h : ∀ c ∈ s, c.toNat < 128) {before : Text}
    {gap : Bool} {d : Char} (hd : d ∈ snakeFrom before gap s) : d.toNat < 128 := by
  rcases mem_snakeFrom hd with rfl | ⟨c, hc, -, hlow⟩
  · decide
  · rw [lowerChar_of_lt (h c hc), List.mem_singleton] at hlow
    subst hlow
    rcases toLower_cases c with hsame | ⟨-, hhigh, hsum⟩
    · rw [hsame]
      exact h c hc
    · have hZ : 'Z'.toNat = 90 := rfl
      omega

lemma not_isUpper_of_mem_snakeFrom {s before : Text} {gap : Bool} {d : Char}
    (h : d ∈ snakeFrom before gap s) (hd : d.toNat < 128) : ¬ isUpper d := by
  rcases mem_snakeFrom h with rfl | ⟨c, -, -, hlow⟩
  · decide
  · exact not_isUpper_of_mem_lowerChar hlow hd

lemma snakePiece_eq_self {c : Char} (h : c.toNat < 128) (hsep : ¬ isSeparator c)
    (hupper : ¬ isUpper c) (before : Text) (gap : Bool) (rest : Text) :
    snakePiece before gap c rest = [c] := by
  have hword : opensWord before c rest = false := by
    cases before <;> simp [opensWord, hupper]
  have hlow : c.toLower = c := toLower_eq_self_iff.mpr ((isUpper_of_lt h).not.mp hupper)
  rw [snakePiece, if_neg hsep, hword, lowerChar_of_lt h, hlow]
  rfl

lemma snakeFrom_eq_self {s : Text} (h : ∀ c ∈ s, c.toNat < 128 ∧ ¬ isSeparator c ∧ ¬ isUpper c)
    (before : Text) (gap : Bool) : snakeFrom before gap s = s := by
  induction s generalizing before gap with
  | nil => rfl
  | cons c rest ih =>
    obtain ⟨hsmall, hsep, hupper⟩ := h c List.mem_cons_self
    rw [snakeFrom_cons, snakePiece_eq_self hsmall hsep hupper,
      ih fun d hd => h d (List.mem_cons_of_mem c hd)]
    rfl

/-- **What snake case changes.** It holds no dash, dot or space, and but for underscores it is the
lower case of the text without these. It has no two underscores in a row unless the text has
one, and of a text in ASCII it has no capital letters and is its own snake case. -/
theorem snake_moves_separators (s : Text) :
    (∀ c ∈ snake s, c ∉ "-. ".toList) ∧
      (snake s).filter (· ≠ '_') = lowerEach (s.filter (· ∉ "-. _".toList)) ∧
      ('_' ∉ s → ¬ "__".toList <:+: snake s) ∧
      ((∀ c ∈ s, c.toNat < 128) → (∀ c ∈ snake s, ¬ isUpper c) ∧ snake (snake s) = snake s) := by
  have hseparator : ∀ c ∈ snake s, ¬ isSeparator c := fun c hc hsep =>
    separator_notMem_snake hsep s hc
  refine ⟨?_, filter_snakeFrom [] false s, ?_, fun hascii => ?_⟩
  · intro c hc
    rw [← isSeparator_iff]
    exact hseparator c hc
  · intro h
    exact (isSpaced_snakeFrom h [] false).not_doubled
  · have hsmall : ∀ c ∈ snake s, c.toNat < 128 := fun c hc => toNat_lt_of_mem_snakeFrom hascii hc
    have hupper : ∀ c ∈ snake s, ¬ isUpper c := fun c hc =>
      not_isUpper_of_mem_snakeFrom hc (hsmall c hc)
    exact ⟨hupper, snakeFrom_eq_self (fun c hc => ⟨hsmall c hc, hseparator c hc, hupper c hc⟩) _ _⟩

/-- An acronym, a capital letter behind a digit, and separators in a row. -/
def mixedName : Text := "HAProxy2Go-. linkedX"

theorem snake_moves_separators_sample :
    '_' ∉ mixedName ∧ (∀ c ∈ mixedName, c.toNat < 128) ∧
      snake mixedName = "ha_proxy2_go_linked_x" ∧ ¬ "__".toList <:+: snake mixedName ∧
      snake (snake mixedName) = snake mixedName := by
  have hnone : '_' ∉ mixedName := by decide
  have hall : mixedName.all (fun c => c.toNat < 128) := by decide
  have hascii : ∀ c ∈ mixedName, c.toNat < 128 := by simpa using hall
  obtain ⟨-, -, hspaced, hstable⟩ := snake_moves_separators mixedName
  exact ⟨hnone, hascii, by decide, hspaced hnone, (hstable hascii).2⟩

end ClickGen.Text
