import ClickGen.Proofs.Url.Name
import ClickGen.Url.Host
import Mathlib.Data.List.Basic
import Mathlib.Data.List.Induction
import Mathlib.Data.Nat.Digits.Defs

/-!
Addresses of eight groups, written and read again.

Groups are written in hexadecimal with colons between them, and the longest run of zeros is left
out. Reading puts in as many zeros as are missing of eight. Main statements: what is read are eight
groups of 16 bits, and such groups are read again from what they are written as.
-/

namespace ClickGen.Url.Host

lemma hexValue?_digitChar : ∀ d < 16, Text.hexValue? (Nat.digitChar d) = some d := by decide

lemma readDigits_concat (base : Nat) (s : Text) (c : Char) :
    readDigits base (s ++ [c]) = (readDigits base s).bind fun n =>
      (Text.hexValue? c).bind fun d => if d < base then some (n * base + d) else none := by
  rw [readDigits, List.foldlM_append]
  simp only [List.foldlM_cons, List.foldlM_nil, bind_pure]
  rfl

lemma readDigits_toDigits {base : Nat} (hbase : 1 < base) (h16 : base ≤ 16) (n : Nat) :
    readDigits base (Nat.toDigits base n) = some n := by
  induction n using Nat.strong_induction_on with
  | h n ih =>
    have hlast (m d : Nat) (hd : d < base) :
        ((Text.hexValue? (Nat.digitChar d)).bind fun d =>
          if d < base then some (m * base + d) else none) = some (m * base + d) := by
      rw [hexValue?_digitChar d (by omega), Option.bind_some, if_pos hd]
    rw [Nat.toDigits_eq_if hbase]
    split
    · next hlt => simpa [readDigits] using hlast 0 n hlt
    · next hge =>
      have hquotient : n / base < n := Nat.div_lt_self (by omega) hbase
      rw [readDigits_concat, ih _ hquotient, Option.bind_some,
        hlast _ _ (Nat.mod_lt _ (by omega)), Nat.div_add_mod']

lemma isHex_of_mem_toDigits {n : Nat} {c : Char} (h : c ∈ Nat.toDigits 16 n) : isHex c := by
  have hdigit (d : Nat) (hd : d < 16) : isHex (Nat.digitChar d) := by
    rw [isHex, hexValue?_digitChar d hd, Option.isSome_some]
  induction n using Nat.strong_induction_on with
  | h n ih =>
    rw [Nat.toDigits_eq_if (by decide)] at h
    split at h
    · next hlt =>
      obtain rfl := List.mem_singleton.mp h
      exact hdigit n hlt
    · next hge =>
      rcases List.mem_append.mp h with h | h
      · exact ih _ (Nat.div_lt_self (by omega) (by decide)) h
      · obtain rfl := List.mem_singleton.mp h
        exact hdigit _ (Nat.mod_lt _ (by decide))

lemma readDigits_lt {base n : Nat} {s : Text} (h : readDigits base s = some n) :
    n < base ^ s.length := by
  induction s using List.reverseRecOn generalizing n with
  | nil =>
    obtain rfl : 0 = n := Option.some.inj h
    exact Nat.one_pos
  | append_singleton s c ih =>
    rw [readDigits_concat] at h
    obtain ⟨m, hm, h⟩ := Option.bind_eq_some_iff.mp h
    obtain ⟨d, -, h⟩ := Option.bind_eq_some_iff.mp h
    split_ifs at h with hd
    obtain rfl := Option.some.inj h
    have hmul : (m + 1) * base ≤ base ^ s.length * base := Nat.mul_le_mul_right base (ih hm)
    rw [List.length_append, List.length_singleton, Nat.pow_succ]
    rw [Nat.add_mul, Nat.one_mul] at hmul
    omega

/-! ### What is read -/

/-- At most eight groups of 16 bits, with the place for the zeros that are left out among them. -/
structure AreGroups (groups : List Nat) (gap : Option Nat) : Prop where
  length : groups.length ≤ 8
  bound : ∀ group ∈ groups, group < 65536
  gap : ∀ before ∈ gap, before ≤ groups.length

lemma AreGroups.append {groups : List Nat} {gap : Option Nat} (h : AreGroups groups gap)
    (more : List Nat) (hlength : groups.length + more.length ≤ 8)
    (hmore : ∀ group ∈ more, group < 65536) : AreGroups (groups ++ more) gap where
  length := by rwa [List.length_append]
  bound := List.forall_mem_append.mpr ⟨h.bound, hmore⟩
  gap before hbefore := by
    rw [List.length_append]
    exact Nat.le_add_right_of_le (h.gap before hbefore)

lemma AreGroups.concat {groups : List Nat} {gap : Option Nat} (h : AreGroups groups gap)
    (hfull : groups.length ≠ 8) {group : Nat} (hgroup : group < 65536) :
    AreGroups (groups ++ [group]) gap := by
  have hlength := h.length
  exact h.append [group] (by rw [List.length_singleton]; omega)
    (List.forall_mem_singleton.mpr hgroup)

lemma readByte?_le {s : Text} {n : Nat} (h : readByte? s = some n) : n ≤ 255 := by
  unfold readByte? at h
  simp only at h
  split_ifs at h with _ hlarge
  obtain rfl := Option.some.inj h
  exact Nat.le_of_not_gt hlarge

lemma readEmbedded?_bound {s : Text} {groups : List Nat} (h : readEmbedded? s = some groups) :
    groups.length = 2 ∧ ∀ group ∈ groups, group < 65536 := by
  unfold readEmbedded? at h
  split at h
  · next a b c d hbytes =>
    obtain rfl := Option.some.inj h
    have hall : ∀ n ∈ [a, b, c, d], n ≤ 255 := by
      intro n hn
      obtain ⟨part, -, hpart⟩ := exists_of_mem_mapM hbytes n hn
      exact readByte?_le hpart
    simp only [List.forall_mem_cons, List.not_mem_nil, false_imp_iff, implies_true, and_true]
      at hall ⊢
    exact ⟨rfl, by omega, by omega⟩
  · cases h

lemma group_lt (s : Text) : (readDigits 16 ((s.take 4).takeWhile isHex)).getD 0 < 65536 := by
  cases hread : readDigits 16 ((s.take 4).takeWhile isHex) with
  | none => decide
  | some n =>
    have hlength : ((s.take 4).takeWhile isHex).length ≤ 4 :=
      (List.takeWhile_sublist _).length_le.trans (List.length_take_le 4 s)
    calc
      n < 16 ^ ((s.take 4).takeWhile isHex).length := readDigits_lt hread
      _ ≤ 16 ^ 4 := Nat.pow_le_pow_right (by decide) hlength
      _ = 65536 := by decide

lemma areGroups_readGroups {groups groups' : List Nat} {gap gap' : Option Nat} {rounds : Nat}
    {s : Text} (h : AreGroups groups gap)
    (hread : readGroups groups gap rounds s = some (groups', gap')) : AreGroups groups' gap' := by
  induction rounds generalizing groups gap s with
  | zero =>
    cases s with
    | nil =>
      obtain ⟨rfl, rfl⟩ := Prod.mk.inj (Option.some.inj hread)
      exact h
    | cons c rest => cases hread
  | succ rounds ih =>
    cases s with
    | nil =>
      obtain ⟨rfl, rfl⟩ := Prod.mk.inj (Option.some.inj hread)
      exact h
    | cons c rest =>
      rw [readGroups] at hread
      split_ifs at hread with hfull hcolon hgap
      · have hzero : 0 < 65536 := by decide
        obtain ⟨hlength, hbound, -⟩ := h.concat hfull hzero
        refine ih ⟨hlength, hbound, fun before hbefore => ?_⟩ hread
        obtain rfl := Option.some.inj hbefore
        rw [List.length_append, List.length_singleton]
      · have hnext := h.concat hfull (group_lt (c :: rest))
        simp only at hread
        split at hread
        · obtain ⟨rfl, rfl⟩ := Prod.mk.inj (Option.some.inj hread)
          exact hnext
        · split_ifs at hread with hshort
          obtain ⟨embedded, hembedded, heq⟩ := Option.map_eq_some_iff.mp hread
          obtain ⟨rfl, rfl⟩ := Prod.mk.inj heq
          obtain ⟨htwo, hbound⟩ := readEmbedded?_bound hembedded
          have hroom : groups.length ≤ 6 := by
            simp only [Bool.or_eq_true, decide_eq_true_eq, not_or] at hshort
            omega
          -- four numbers fill two groups and are only read where both have room
          exact h.append embedded (by omega) hbound
        · split_ifs at hread
          exact ih hnext hread
        · cases hread

/-- Puts in as many zeros as are missing. -/
def fill? (read : List Nat × Option Nat) : Option (List Nat) :=
  match read.2 with
  | none => if read.1.length = 8 then some read.1 else none
  | some before =>
    some (read.1.take before ++ List.replicate (8 - read.1.length) 0 ++ read.1.drop before)

lemma readV6?_colons (rest : Text) : readV6? (':' :: ':' :: rest) =
    (readGroups [0] (some 1) rest.length rest).bind fill? := rfl

lemma readV6?_of_ne {s : Text} (h : s.head? ≠ some ':') :
    readV6? s = (readGroups [] none s.length s).bind fill? := by
  unfold readV6?
  split
  · exact absurd rfl h
  · exact absurd rfl h
  · rfl

/-- **Eight groups of 16 bits** are what is read. -/
lemma readV6?_bound {s : Text} {groups : List Nat} (h : readV6? s = some groups) :
    groups.length = 8 ∧ ∀ group ∈ groups, group < 65536 := by
  have hread : ∃ read gap, AreGroups read gap ∧ fill? (read, gap) = some groups := by
    have hstart {first : List Nat} {place : Option Nat} {rest : Text}
        (hfirst : AreGroups first place)
        (h : (readGroups first place rest.length rest).bind fill? = some groups) :
        ∃ read gap, AreGroups read gap ∧ fill? (read, gap) = some groups := by
      obtain ⟨⟨read, gap⟩, hread, hfill⟩ := Option.bind_eq_some_iff.mp h
      exact ⟨read, gap, areGroups_readGroups hfirst hread, hfill⟩
    unfold readV6? at h
    split at h
    · exact hstart ⟨by decide, by decide, by simp⟩ h
    · cases h
    · exact hstart ⟨by decide, by simp, by simp⟩ h
  obtain ⟨read, gap, hgroups, h⟩ := hread
  obtain ⟨hlength, hbound, hgap⟩ := hgroups
  unfold fill? at h
  cases gap with
  | none =>
    simp only at h
    split_ifs at h with height
    obtain rfl := Option.some.inj h
    exact ⟨height, hbound⟩
  | some before =>
    obtain rfl := Option.some.inj h
    have hbefore := hgap before rfl
    constructor
    · simp only [List.length_append, List.length_take, List.length_replicate, List.length_drop]
      omega
    · intro group hmem
      simp only [List.mem_append, List.mem_replicate] at hmem
      rcases hmem with (hmem | ⟨-, rfl⟩) | hmem
      · exact hbound group (List.mem_of_mem_take hmem)
      · decide
      · exact hbound group (List.mem_of_mem_drop hmem)

/-! ### What is written -/

lemma takeWhile_isHex_toDigits {group : Nat} (hgroup : group < 65536) {rest : Text}
    (hrest : ∀ c ∈ rest.head?, isHex c = false) :
    ((Nat.toDigits 16 group ++ rest).take 4).takeWhile isHex = Nat.toDigits 16 group := by
  have hlength : (Nat.toDigits 16 group).length ≤ 4 :=
    Nat.toDigits_length 16 group 4 (by decide) hgroup
  have hhex : ∀ c ∈ Nat.toDigits 16 group, isHex c := fun c hc => isHex_of_mem_toDigits hc
  have hend : ∀ c ∈ (rest.take (4 - (Nat.toDigits 16 group).length)).head?, isHex c = false := by
    intro c hc
    rw [List.head?_take] at hc
    split_ifs at hc
    · cases hc
    · exact hrest c hc
  rw [List.take_append, List.take_of_length_le hlength, takeWhile_append_eq hhex hend]

lemma exists_cons_toDigits {group : Nat} (hgroup : group < 65536) {rest : Text}
    (hrest : ∀ c ∈ rest.head?, isHex c = false) :
    ∃ c tail, Nat.toDigits 16 group ++ rest = c :: tail ∧ c ≠ ':' ∧
      ((c :: tail).take 4).takeWhile isHex = Nat.toDigits 16 group ∧
      (c :: tail).drop (Nat.toDigits 16 group).length = rest := by
  obtain ⟨c, digits, hdigits⟩ := List.exists_cons_of_ne_nil (@Nat.toDigits_ne_nil group 16)
  have htext : Nat.toDigits 16 group ++ rest = c :: (digits ++ rest) := by
    rw [hdigits, List.cons_append]
  refine ⟨c, digits ++ rest, htext, ?_, ?_, ?_⟩
  · rintro rfl
    have hhex : isHex ':' := isHex_of_mem_toDigits (hdigits ▸ List.mem_cons_self)
    exact absurd hhex (by decide)
  · rw [← htext, takeWhile_isHex_toDigits hgroup hrest]
  · rw [← htext, List.drop_left]

section Written

variable {group rounds : Nat} {groups : List Nat} {gap : Option Nat}

lemma group_toDigits (group : Nat) :
    (readDigits 16 (Nat.toDigits 16 group)).getD 0 = group := by
  rw [readDigits_toDigits (by decide) (by decide), Option.getD_some]

lemma readGroups_last (hgroup : group < 65536) (hroom : groups.length < 8) :
    readGroups groups gap (rounds + 1) (Nat.toDigits 16 group) = some (groups ++ [group], gap) := by
  obtain ⟨c, tail, htext, hc, htake, hdrop⟩ := @exists_cons_toDigits group hgroup [] (by simp)
  rw [List.append_nil] at htext
  rw [htext, readGroups, if_neg (by omega), if_neg hc]
  simp only [htake, hdrop, group_toDigits]

lemma readGroups_next (hgroup : group < 65536) (hroom : groups.length < 8) {after : Text}
    (hafter : after ≠ []) :
    readGroups groups gap (rounds + 1) (Nat.toDigits 16 group ++ ':' :: after) =
      readGroups (groups ++ [group]) gap rounds after := by
  obtain ⟨c, tail, htext, hc, htake, hdrop⟩ :=
    @exists_cons_toDigits group hgroup (':' :: after) (by simp; decide)
  rw [htext, readGroups, if_neg (by omega), if_neg hc]
  simp only [htake, hdrop, group_toDigits]
  rw [if_neg (by simpa using hafter)]

def closedGroups (more : List Nat) : Text :=
  more.flatMap fun group => Nat.toDigits 16 group ++ [':']

lemma exists_readGroups_closed {more : List Nat} (hmore : ∀ group ∈ more, group < 65536)
    (hroom : groups.length + more.length ≤ 8) {after : Text} (hafter : after ≠ [])
    (hrounds : (closedGroups more ++ after).length ≤ rounds) :
    ∃ left, after.length ≤ left ∧ readGroups groups gap rounds (closedGroups more ++ after) =
      readGroups (groups ++ more) gap left after := by
  induction more generalizing groups rounds with
  | nil => exact ⟨rounds, hrounds, by rw [List.append_nil]; rfl⟩
  | cons group more ih =>
    obtain ⟨hgroup, hmore⟩ := List.forall_mem_cons.mp hmore
    have htext : closedGroups (group :: more) ++ after =
        Nat.toDigits 16 group ++ ':' :: (closedGroups more ++ after) := by
      simp [closedGroups]
    rw [htext, List.length_append, List.length_cons] at hrounds
    obtain ⟨rounds, rfl⟩ : ∃ n, rounds = n + 1 := ⟨rounds - 1, by omega⟩
    rw [List.length_cons] at hroom
    have hne : closedGroups more ++ after ≠ [] := List.append_ne_nil_of_right_ne_nil _ hafter
    obtain ⟨left, hleft, hread⟩ := @ih rounds (groups ++ [group]) hmore
      (by rw [List.length_append, List.length_singleton]; omega) (by omega)
    refine ⟨left, hleft, ?_⟩
    rw [htext, readGroups_next hgroup (by omega) hne, hread, List.append_assoc,
      List.singleton_append]

lemma renderGroups_concat (more : List Nat) (group : Nat) :
    renderGroups (more ++ [group]) = closedGroups more ++ Nat.toDigits 16 group := by
  have hne : [Nat.toDigits 16 group] ≠ [] := List.cons_ne_nil _ _
  have hjoin : (more.map (Nat.toDigits 16)).flatMap (· ++ [':']) ++
      List.intercalate [':'] [Nat.toDigits 16 group] =
      List.intercalate [':'] (more.map (Nat.toDigits 16) ++ [Nat.toDigits 16 group]) :=
    Text.flatMap_append_intercalate _ hne
  rw [List.flatMap_map, List.intercalate_singleton] at hjoin
  rw [renderGroups, List.map_append]
  exact hjoin.symm

lemma closedGroups_eq {more : List Nat} (hne : more ≠ []) :
    closedGroups more = renderGroups more ++ [':'] := by
  obtain ⟨more, group, rfl⟩ := (List.eq_nil_or_concat' more).resolve_left hne
  rw [renderGroups_concat]
  simp [closedGroups]

lemma readGroups_renderGroups {more : List Nat} (hmore : ∀ group ∈ more, group < 65536)
    (hroom : groups.length + more.length ≤ 8) (hrounds : (renderGroups more).length ≤ rounds) :
    readGroups groups gap rounds (renderGroups more) = some (groups ++ more, gap) := by
  rcases List.eq_nil_or_concat' more with rfl | ⟨more, group, rfl⟩
  · rw [List.append_nil]
    cases rounds <;> rfl
  · obtain ⟨hmore, hgroup⟩ := List.forall_mem_append.mp hmore
    rw [renderGroups_concat] at hrounds ⊢
    rw [List.length_append, List.length_singleton] at hroom
    have hdigits : Nat.toDigits 16 group ≠ [] := Nat.toDigits_ne_nil
    obtain ⟨left, hleft, hread⟩ := @exists_readGroups_closed rounds groups gap more hmore
      (by omega) _ hdigits hrounds
    have hpos : 0 < (Nat.toDigits 16 group).length := List.length_pos_iff.mpr hdigits
    obtain ⟨left, rfl⟩ : ∃ n, left = n + 1 := ⟨left - 1, by omega⟩
    rw [hread, readGroups_last (hgroup group (List.mem_singleton_self group))
      (by rw [List.length_append]; omega), List.append_assoc]

end Written

lemma head?_renderGroups {more : List Nat} (hne : more ≠ []) (rest : Text) :
    (renderGroups more ++ rest).head? ≠ some ':' := by
  obtain ⟨group, more, rfl⟩ := List.exists_cons_of_ne_nil hne
  obtain ⟨c, digits, hdigits⟩ := List.exists_cons_of_ne_nil (@Nat.toDigits_ne_nil group 16)
  have hhead : (renderGroups (group :: more) ++ rest).head? = some c := by
    cases more with
    | nil => simp [renderGroups, hdigits]
    | cons next more => simp [renderGroups, hdigits]
  have hc : isHex c := isHex_of_mem_toDigits (hdigits ▸ List.mem_cons_self)
  rw [hhead]
  rintro heq
  rw [Option.some.inj heq] at hc
  exact absurd hc (by decide)

lemma mem_renderGroups {more : List Nat} {c : Char} (h : c ∈ renderGroups more) :
    isHex c ∨ c = ':' := by
  rcases Text.mem_intercalate h with rfl | ⟨digits, hdigits, hc⟩
  · exact .inr rfl
  · obtain ⟨group, -, rfl⟩ := List.mem_map.mp hdigits
    exact .inl (isHex_of_mem_toDigits hc)

lemma eq_replicate_zeros (groups : List Nat) :
    groups = List.replicate (zeros groups) 0 ++ groups.drop (zeros groups) := by
  have hparts := List.takeWhile_append_dropWhile (p := (· = 0)) (l := groups)
  have htake : groups.takeWhile (· = 0) = List.replicate (zeros groups) 0 := by
    refine List.eq_replicate_iff.mpr ⟨rfl, fun group hmem => ?_⟩
    simpa using List.all_eq_true.mp List.all_takeWhile group hmem
  have hdrop : groups.drop (zeros groups) = groups.dropWhile (· = 0) := by
    calc
      groups.drop (zeros groups) =
          (groups.takeWhile (· = 0) ++ groups.dropWhile (· = 0)).drop (zeros groups) := by
        rw [hparts]
      _ = groups.dropWhile (· = 0) := List.drop_left
  rw [← htake, hdrop, hparts]

lemma of_longestRun {groups : List Nat} {start length : Nat}
    (h : longestRun groups = some (start, length)) :
    1 < length ∧ length = zeros (groups.drop start) := by
  have hfold (indices : List Nat) (best : Option (Nat × Nat))
      (hbest : ∀ found ∈ best, 1 < found.2 ∧ found.2 = zeros (groups.drop found.1)) :
      ∀ found ∈ indices.foldl (fun best i =>
        let length := zeros (groups.drop i)
        if length > 1 && best.all (fun found => length > found.2) then some (i, length)
        else best) best, 1 < found.2 ∧ found.2 = zeros (groups.drop found.1) := by
    induction indices generalizing best with
    | nil => exact hbest
    | cons i indices ih =>
      refine ih _ fun found hfound => ?_
      simp only at hfound
      split_ifs at hfound with hlonger
      · obtain rfl := Option.some.inj hfound
        simp only [Bool.and_eq_true, decide_eq_true_eq] at hlonger
        exact ⟨hlonger.1, rfl⟩
      · exact hbest found hfound
  exact hfold _ none (by simp) (start, length) h

lemma exists_parts {groups : List Nat} {start length : Nat}
    (h : longestRun groups = some (start, length)) :
    ∃ front back, groups.take start = front ∧ groups.drop (start + length) = back ∧ 1 < length ∧
      groups = front ++ List.replicate length 0 ++ back := by
  obtain ⟨hlength, hzeros⟩ := of_longestRun h
  refine ⟨_, _, rfl, rfl, hlength, ?_⟩
  rw [List.append_assoc, ← List.drop_drop]
  conv_lhs => rw [← List.take_append_drop start groups, eq_replicate_zeros (groups.drop start)]
  rw [hzeros]

lemma fill?_append {front back : List Nat} (hroom : front.length + back.length < 8) :
    fill? (front ++ [0] ++ back, some (front.length + 1)) =
      some (front ++ List.replicate (8 - front.length - back.length) 0 ++ back) := by
  have hplace : (front ++ [0]).length = front.length + 1 := by simp
  have hmissing : 8 - (front ++ [0] ++ back).length + 1 = 8 - front.length - back.length := by
    simp only [List.length_append, List.length_singleton]
    omega
  unfold fill?
  simp only
  rw [← hplace, List.take_left, List.drop_left, ← hmissing, List.replicate_succ]
  simp

section Rendered

variable {groups : List Nat} (hlength : groups.length = 8)
  (hbound : ∀ group ∈ groups, group < 65536)
include hlength hbound

lemma readV6?_renderGroups : readV6? (renderGroups groups) = some groups := by
  have hne : groups ≠ [] := by
    rintro rfl
    cases hlength
  have hhead := head?_renderGroups hne []
  rw [List.append_nil] at hhead
  rw [readV6?_of_ne hhead, readGroups_renderGroups hbound (by simp [hlength]) le_rfl,
    Option.bind_some, List.nil_append]
  simp [fill?, hlength]

lemma readV6?_colon {front back : List Nat} {run : Nat} (hrun : 1 < run)
    (hgroups : groups = front ++ List.replicate run 0 ++ back) :
    readV6? (renderGroups front ++ ':' :: ':' :: renderGroups back) = some groups := by
  have hparts : front.length + run + back.length = 8 := by
    rw [hgroups] at hlength
    simpa [Nat.add_assoc] using hlength
  have hfill : fill? (front ++ [0] ++ back, some (front.length + 1)) = some groups := by
    rw [fill?_append (by omega), hgroups]
    congr
    omega
  have hfront : ∀ group ∈ front, group < 65536 := fun group hmem =>
    hbound group (by simp [hgroups, hmem])
  have hback : ∀ group ∈ back, group < 65536 := fun group hmem =>
    hbound group (by simp [hgroups, hmem])
  -- behind the double colon, with the zero that it stands for at least
  have hrest {rounds : Nat} (hrounds : (renderGroups back).length ≤ rounds) :
      readGroups (front ++ [0]) (some (front.length + 1)) rounds (renderGroups back) =
        some (front ++ [0] ++ back, some (front.length + 1)) :=
    readGroups_renderGroups hback
      (by rw [List.length_append, List.length_singleton]; omega) hrounds
  by_cases hne : front = []
  · subst hne
    have hread := hrest le_rfl
    rw [List.nil_append] at hread
    rw [← hfill]
    change readV6? (':' :: ':' :: renderGroups back) = _
    rw [readV6?_colons]
    exact (congrArg (·.bind fill?) hread)
  · have htext : renderGroups front ++ ':' :: ':' :: renderGroups back =
        closedGroups front ++ ':' :: renderGroups back := by
      rw [closedGroups_eq hne, List.append_assoc, List.singleton_append]
    obtain ⟨left, hleft, hread⟩ := @exists_readGroups_closed
      (closedGroups front ++ ':' :: renderGroups back).length [] none front hfront
      (by rw [List.length_nil]; omega) (':' :: renderGroups back) (List.cons_ne_nil _ _) le_rfl
    rw [List.length_cons] at hleft
    obtain ⟨left, rfl⟩ : ∃ n, left = n + 1 := ⟨left - 1, by omega⟩
    have hcolon : readGroups front none (left + 1) (':' :: renderGroups back) =
        readGroups (front ++ [0]) (some (front.length + 1)) left (renderGroups back) := by
      rw [readGroups, if_neg (by omega), if_pos rfl, Option.isSome_none,
        if_neg Bool.false_ne_true]
    rw [readV6?_of_ne (head?_renderGroups hne _), htext, hread, List.nil_append, hcolon,
      hrest (by omega), Option.bind_some, hfill]

/-- **Eight groups are read again** from what they are written as. -/
lemma exists_render_v6 : ∃ shown, render (.v6 groups) = '[' :: (shown ++ [']']) ∧
    readV6? shown = some groups ∧ ∀ c ∈ shown, isHex c ∨ c = ':' := by
  cases hrun : longestRun groups with
  | none =>
    refine ⟨renderGroups groups, ?_, readV6?_renderGroups hlength hbound,
      fun c hc => mem_renderGroups hc⟩
    simp [render, hrun]
  | some run =>
    obtain ⟨start, length⟩ := run
    obtain ⟨front, back, hfront, hback, hlong, hgroups⟩ := exists_parts hrun
    refine ⟨renderGroups front ++ ':' :: ':' :: renderGroups back, ?_,
      readV6?_colon hlength hbound hlong hgroups, fun c hc => ?_⟩
    · simp [render, hrun, hfront, hback]
    · simp only [List.mem_append, List.mem_cons] at hc
      rcases hc with hc | rfl | rfl | hc
      · exact mem_renderGroups hc
      · exact .inr rfl
      · exact .inr rfl
      · exact mem_renderGroups hc

end Rendered

end ClickGen.Url.Host
