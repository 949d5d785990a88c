import ClickGen.Text.Snake
import Mathlib.Data.List.Basic
import Mathlib.Tactic.Lemma

/-!
What lower case and snake case can hold.

Lower case of a character outside ASCII is outside ASCII again, but for the dotted capital `İ` and
the sign of the kelvin, which are written with ASCII letters. So no punctuation comes out of a
letter: a snake case holds no separator, begins with a slash only where the text does, and is the
lower case of the text, character by character, wherever no underscore has come in.
-/

namespace ClickGen.Text

open CaseData

lemma lowerShifts_image {s : Shift} (h : s ∈ lowerShifts) :
    128 ≤ s.image ∨ s.image = 'k'.toNat ∧ s.span.lo = s.span.hi := by
  have hall : lowerShifts.all (fun s =>
      128 ≤ s.image || (s.image == 'k'.toNat && s.span.lo == s.span.hi)) := by decide +kernel
  simpa using List.all_eq_true.mp hall s h

lemma lowerShifts_isValidChar {s : Shift} (h : s ∈ lowerShifts) {n : Nat}
    (hn : n ≤ s.span.hi - s.span.lo) : (s.image + n).isValidChar := by
  have hall : lowerShifts.all (fun s =>
      s.image + (s.span.hi - s.span.lo) < 0xD800 ||
        (0xDFFF < s.image && s.image + (s.span.hi - s.span.lo) < 0x110000)) := by decide +kernel
  have hs := List.all_eq_true.mp hall s h
  simp only [Bool.or_eq_true, Bool.and_eq_true, decide_eq_true_eq] at hs
  unfold Nat.isValidChar
  omega

lemma toNat_ofNat {n : Nat} (h : n.isValidChar) : (Char.ofNat n).toNat = n := by
  rw [Char.ofNat, dif_pos h]
  rfl

lemma shifted_lowerShifts (c : Char) :
    shifted lowerShifts c = c ∨ shifted lowerShifts c = 'k' ∨
      128 ≤ (shifted lowerShifts c).toNat := by
  unfold shifted
  split
  · next s hfind =>
    have hmem := List.mem_of_find?_eq_some hfind
    have hholds := List.find?_some hfind
    simp only [Span.holds, Bool.and_eq_true, decide_eq_true_eq] at hholds
    obtain ⟨⟨hlo, hhi⟩, -⟩ := hholds
    have hvalid : (s.apply c.toNat).isValidChar := lowerShifts_isValidChar hmem (by omega)
    rcases lowerShifts_image hmem with himage | ⟨himage, hone⟩
    · refine .inr (.inr ?_)
      rw [toNat_ofNat hvalid, Shift.apply]
      omega
    · have hk : s.apply c.toNat = 'k'.toNat := by
        rw [Shift.apply]
        omega
      rw [hk]
      exact .inr (.inl rfl)
  · exact .inl rfl

lemma lowerChar_of_lt {c : Char} (h : c.toNat < 128) : lowerChar c = [c.toLower] := by
  rw [lowerChar, if_pos h]

lemma lowerChar_of_le {c : Char} (h : 128 ≤ c.toNat) :
    lowerChar c = ['i', '\u0307'] ∨ lowerChar c = ['k'] ∨
      ∃ d, lowerChar c = [d] ∧ 128 ≤ d.toNat := by
  rw [lowerChar, if_neg (by omega)]
  split
  · exact .inl rfl
  · rcases shifted_lowerShifts c with hc | hc | hc
    · exact .inr (.inr ⟨c, by rw [hc], h⟩)
    · exact .inr (.inl (by rw [hc]))
    · exact .inr (.inr ⟨_, rfl, hc⟩)

lemma toLower_cases (c : Char) :
    c.toLower = c ∨ 'A'.toNat ≤ c.toNat ∧ c.toNat ≤ 'Z'.toNat ∧
      c.toLower.toNat = c.toNat + 32 := by
  unfold Char.toLower
  split
  · next h =>
    simp only [ge_iff_le, UInt32.le_iff_toNat_le] at h
    refine .inr ⟨h.1, h.2, ?_⟩
    have hsmall : c.val.toNat ≤ 90 := h.2
    change (c.val + 32).toNat = c.val.toNat + 32
    rw [UInt32.toNat_add]
    have h32 : (32 : UInt32).toNat = 32 := rfl
    omega
  · exact .inl rfl

lemma toLower_eq_self_iff {c : Char} : c.toLower = c ↔ ¬ ('A' ≤ c ∧ c ≤ 'Z') := by
  unfold Char.toLower
  split
  · next h =>
    refine iff_of_false (fun heq => ?_) (not_not_intro h)
    have hval : c.val + 32 = c.val := congrArg Char.val heq
    simp at hval
  · next h => exact iff_of_true rfl h

lemma eq_of_mem_lowerChar {c d : Char} (h : d ∈ lowerChar c) (hd : d.toNat < 'a'.toNat) :
    c = d := by
  have hA : 'A'.toNat = 65 := rfl
  have ha : 'a'.toNat = 97 := rfl
  by_cases hc : c.toNat < 128
  · rw [lowerChar_of_lt hc, List.mem_singleton] at h
    rcases toLower_cases c with hsame | ⟨hlow, -, hsum⟩
    · rw [h, hsame]
    · rw [h] at hd
      omega
  · rcases lowerChar_of_le (by omega : 128 ≤ c.toNat) with hi | hk | ⟨e, he, hle⟩
    · rw [hi] at h
      simp only [List.mem_cons, List.not_mem_nil, or_false] at h
      rcases h with rfl | rfl <;> exact absurd hd (by decide)
    · rw [hk, List.mem_singleton] at h
      subst h
      exact absurd hd (by decide)
    · rw [he, List.mem_singleton] at h
      subst h
      omega

lemma lowerChar_ne_nil (c : Char) : lowerChar c ≠ [] := by
  by_cases hc : c.toNat < 128
  · simp [lowerChar_of_lt hc]
  · rcases lowerChar_of_le (by omega : 128 ≤ c.toNat) with hi | hk | ⟨e, he, -⟩
    · simp [hi]
    · simp [hk]
    · simp [he]

lemma eq_map_toLower_of_lowerEach {s t : Text} (h : lowerEach s = t)
    (ht : ∀ d ∈ t, d.toNat < 128 ∧ d ≠ 'k') :
    (∀ c ∈ s, c.toNat < 128) ∧ s.map Char.toLower = t := by
  have hascii : ∀ c ∈ s, c.toNat < 128 := by
    intro c hc
    have hsub : ∀ d ∈ lowerChar c, d.toNat < 128 ∧ d ≠ 'k' := fun d hd =>
      ht d (h ▸ List.mem_flatMap.mpr ⟨c, hc, hd⟩)
    by_contra hle
    rcases lowerChar_of_le (by omega : 128 ≤ c.toNat) with hi | hk | ⟨d, hd, hd'⟩
    · exact absurd (hsub '\u0307' (by simp [hi])).1 (by decide)
    · exact (hsub 'k' (by simp [hk])).2 rfl
    · have hlt := (hsub d (by simp [hd])).1
      omega
  refine ⟨hascii, ?_⟩
  have hlower : ∀ s : Text, (∀ c ∈ s, c.toNat < 128) → lowerEach s = s.map Char.toLower := by
    intro s hs
    induction s with
    | nil => rfl
    | cons c s ih =>
      have hc := lowerChar_of_lt (hs c List.mem_cons_self)
      have hrest := ih fun d hd => hs d (List.mem_cons_of_mem c hd)
      rw [lowerEach] at hrest ⊢
      rw [List.flatMap_cons, hc, hrest]
      rfl
  rw [← hlower s hascii, h]

/-! ### Snake case -/

/-- What snake case writes for one character, given what stands around it. -/
def snakePiece (before : Text) (gap : Bool) (c : Char) (rest : Text) : Text :=
  if isSeparator c then
    if gap then [] else ['_']
  else if opensWord before c rest && !gap then '_' :: lowerChar c
  else lowerChar c

/-- Whether what is written up to a character ends in an underscore. -/
def endsInGap (c : Char) : Bool := isSeparator c || c == '_'

lemma getLast?_lowerChar (c : Char) : ((lowerChar c).getLast? == some '_') = (c == '_') := by
  rw [Bool.eq_iff_iff, beq_iff_eq, beq_iff_eq]
  constructor
  · intro hlast
    exact eq_of_mem_lowerChar (List.mem_of_getLast? hlast) (by decide)
  · rintro rfl
    rfl

/-- Snake case goes on after each piece with the characters passed and the gap behind it. -/
lemma snakeFrom_cons (before : Text) (gap : Bool) (c : Char) (rest : Text) :
    snakeFrom before gap (c :: rest) =
      snakePiece before gap c rest ++ snakeFrom (c :: before) (endsInGap c) rest := by
  rw [snakeFrom, snakePiece, endsInGap]
  by_cases hc : isSeparator c
  · cases gap <;> simp [hc]
  · simp only [hc, getLast?_lowerChar, Bool.false_eq_true, if_false, Bool.false_or]
    split
    · rw [List.cons_append]
    · rfl

lemma mem_snakePiece {d : Char} {before : Text} {gap : Bool} {c : Char} {rest : Text}
    (h : d ∈ snakePiece before gap c rest) : d = '_' ∨ ¬ isSeparator c ∧ d ∈ lowerChar c := by
  unfold snakePiece at h
  split at h
  · split at h
    · cases h
    · exact .inl (List.mem_singleton.mp h)
  · next hc =>
    split at h
    · exact (List.mem_cons.mp h).imp_right fun hlow => ⟨hc, hlow⟩
    · exact .inr ⟨hc, h⟩

lemma mem_snakeFrom {d : Char} {before s : Text} {gap : Bool} (h : d ∈ snakeFrom before gap s) :
    d = '_' ∨ ∃ c ∈ s, ¬ isSeparator c ∧ d ∈ lowerChar c := by
  induction s generalizing before gap with
  | nil => simp [snakeFrom] at h
  | cons c rest ih =>
    rw [snakeFrom_cons] at h
    rcases List.mem_append.mp h with hpiece | hmore
    · exact (mem_snakePiece hpiece).imp_right fun hlow => ⟨c, List.mem_cons_self, hlow⟩
    · exact (ih hmore).imp_right fun ⟨e, he, hlow⟩ => ⟨e, List.mem_cons_of_mem c he, hlow⟩

lemma separator_notMem_snake {d : Char} (hd : isSeparator d) (s : Text) : d ∉ snake s := by
  have hsmall : d.toNat < 'a'.toNat ∧ d ≠ '_' := by
    simp only [isSeparator, Bool.or_eq_true, beq_iff_eq] at hd
    rcases hd with (rfl | rfl) | rfl <;> decide
  intro hmem
  rcases mem_snakeFrom hmem with rfl | ⟨c, -, hc, hlow⟩
  · exact hsmall.2 rfl
  · obtain rfl := eq_of_mem_lowerChar hlow hsmall.1
    exact hc hd

lemma mem_of_mem_snakeFrom {d : Char} (hd : d.toNat < 'a'.toNat) (hd' : d ≠ '_')
    {before s : Text} {gap : Bool} (h : d ∈ snakeFrom before gap s) : d ∈ s := by
  rcases mem_snakeFrom h with rfl | ⟨c, hc, -, hlow⟩
  · exact absurd rfl hd'
  · rwa [← eq_of_mem_lowerChar hlow hd]

lemma slash_notMem_snake {s : Text} (h : '/' ∉ s) : '/' ∉ snake s := fun hmem =>
  h (mem_of_mem_snakeFrom (by decide) (by decide) hmem)

lemma snakePiece_ne_nil (before : Text) (c : Char) (rest : Text) :
    snakePiece before false c rest ≠ [] := by
  unfold snakePiece
  split
  · simp
  · split
    · simp
    · exact lowerChar_ne_nil c

lemma snake_ne_nil {s : Text} (h : s ≠ []) : snake s ≠ [] := by
  obtain ⟨c, rest, rfl⟩ := List.exists_cons_of_ne_nil h
  rw [snake, snakeFrom_cons]
  exact List.append_ne_nil_of_left_ne_nil (snakePiece_ne_nil [] c rest) _

lemma head?_snake_eq_slash (s : Text) : (snake s).head? = some '/' ↔ s.head? = some '/' := by
  cases s with
  | nil => rfl
  | cons c rest =>
    obtain ⟨d, more, hlow⟩ := List.exists_cons_of_ne_nil (lowerChar_ne_nil c)
    have hd : d = '/' ↔ c = '/' := by
      constructor
      · rintro rfl
        exact eq_of_mem_lowerChar (by simp [hlow]) (by decide)
      · rintro rfl
        have hslash : lowerChar '/' = ['/'] := rfl
        rw [hslash] at hlow
        exact (List.cons.inj hlow).1.symm
    by_cases hc : isSeparator c
    · have hne : c ≠ '/' := by
        rintro rfl
        exact absurd hc (by decide)
      simp [snake, snakeFrom, hc, hne]
    · simp [snake, snakeFrom, hc, opensWord, hlow, hd]

lemma snakePiece_eq_lowerChar {before : Text} {c : Char} {rest : Text}
    (h : '_' ∉ snakePiece before false c rest) :
    snakePiece before false c rest = lowerChar c ∧ endsInGap c = false := by
  unfold snakePiece at h ⊢
  split at h
  · simp at h
  · next hc =>
    split at h
    · simp at h
    · next hword =>
      have hne : c ≠ '_' := by
        rintro rfl
        exact h List.mem_cons_self
      rw [if_neg hc, if_neg hword]
      simp [endsInGap, hc, hne]

lemma snakeFrom_eq_lowerEach {before s : Text} (h : '_' ∉ snakeFrom before false s) :
    snakeFrom before false s = lowerEach s := by
  induction s generalizing before with
  | nil => rfl
  | cons c rest ih =>
    rw [snakeFrom_cons] at h ⊢
    obtain ⟨hpiece, hgap⟩ := snakePiece_eq_lowerChar fun hmem => h (List.mem_append_left _ hmem)
    rw [hgap] at h ⊢
    rw [hpiece, ih fun hmem => h (List.mem_append_right _ hmem), lowerEach, lowerEach,
      List.flatMap_cons]

end ClickGen.Text
