import ClickGen.Proofs.Text.Digits
import ClickGen.Proofs.Url.Groups
import ClickGen.Proofs.Url.Name

/-!
Hosts in normal form.

A name is kept in ASCII, in lower case and without anything encoded, an address as the number or the
groups that it says. Main statements: whatever names outside ASCII are mapped by, what is read as a
host is in normal form, and a host in normal form is read again from what it is written as.
-/

namespace ClickGen

namespace Url

lemma percentDecode_eq {s : Text} (h : '%' ∉ s) : percentDecode s = Text.toUtf8 s := by
  induction s with
  | nil => rfl
  | cons c s ih =>
    rw [List.mem_cons, not_or] at h
    rw [percentDecode, ih h.2]
    · rfl
    · rintro high low rest rfl
      exact absurd rfl h.1

lemma ofUtf8_percentDecode {s : Text} (hplain : '%' ∉ s) (h : ∀ c ∈ s, c.toNat < 0x80) :
    Text.ofUtf8 (percentDecode s) = .ok s := by
  rw [percentDecode_eq hplain]
  exact Text.ofUtf8_ascii h

namespace Host

variable {c : Char} {toAscii? : Mapping}

lemma of_ascii {p : Char → Bool} (h : (List.range 128).all fun n => p (Char.ofNat n))
    (hc : c.toNat < 128) : p c := by
  simpa using List.all_eq_true.mp h c.toNat (List.mem_range.mpr hc)

lemma isNameChar_of_isHex (h : isHex c) : isNameChar c := by
  have hall : (List.range 128).all fun n =>
      !isHex (Char.ofNat n) || isNameChar (Char.ofNat n) := by rfl
  have hlow : c.toNat < 128 := by
    unfold isHex Text.hexValue? at h
    simp only [Text.isDigit, Bool.and_eq_true, decide_eq_true_eq, Char.le_def,
      UInt32.le_iff_toNat_le] at h
    split_ifs at h with hdigit hlower hupper
    · exact hdigit.2.trans_lt (by decide)
    · exact hlower.2.trans_lt (by decide)
    · exact hupper.2.trans_lt (by decide)
    · cases h
  have hc := @of_ascii c (fun c => !isHex c || isNameChar c) hall hlow
  simpa [h] using hc

lemma isKept_of_isDigit (h : Text.isDigit c) : isKept c := by
  have hall : (List.range 128).all fun n =>
      !Text.isDigit (Char.ofNat n) || (Char.ofNat n).toLower == Char.ofNat n := by rfl
  have hname : isNameChar c := isNameChar_of_isHex (by simp [isHex, Text.hexValue?, h])
  have hvisible := (isVisible_of_isNameChar hname).2
  have hc := @of_ascii c (fun c => !Text.isDigit c || c.toLower == c) hall (by omega)
  exact isKept_iff.mpr ⟨hname, by simpa [h] using hc⟩

/-! ### Four numbers -/

lemma readNumber?_ofNat (n : Nat) : readNumber? (Text.ofNat n) = some n := by
  by_cases hn : n = 0
  · subst hn
    rfl
  · have hhead := Text.head?_ofNat hn
    have hread : readDigits 10 (Text.ofNat n) = some n :=
      readDigits_toDigits (by decide) (by decide) n
    unfold readNumber?
    split
    · next hnil => exact absurd hnil (Text.ofNat_ne_nil n)
    · next heq => exact absurd (congrArg List.head? heq) hhead
    · next heq => exact absurd (congrArg List.head? heq) hhead
    · next heq => exact absurd (congrArg List.head? heq) hhead
    · exact hread

/-- What a number counts for in an address, unless it is the last one. -/
def weight (i : Nat) : Nat := Nat.pow 256 (3 - i)

lemma weight_eq : weight 0 = 16777216 ∧ weight 1 = 65536 ∧ weight 2 = 256 := by decide

lemma pow_256 : Nat.pow 256 0 = 1 ∧ Nat.pow 256 1 = 256 ∧ Nat.pow 256 2 = 65536 ∧
    Nat.pow 256 3 = 16777216 ∧ Nat.pow 256 4 = 4294967296 := by decide

/-- Numbers with their weights, and a last one. -/
def weigh (weight : Nat → Nat) (front : List Nat) (last : Nat) : Nat :=
  front.zipIdx.foldl (fun sum x => sum + x.1 * weight x.2) last

section Weigh

variable (w : Nat → Nat) (a b c last : Nat)

lemma weigh_nil : weigh w [] last = last := rfl

lemma weigh_one : weigh w [a] last = last + a * w 0 := rfl

lemma weigh_two : weigh w [a, b] last = last + a * w 0 + b * w 1 := rfl

lemma weigh_three : weigh w [a, b, c] last = last + a * w 0 + b * w 1 + c * w 2 := rfl

end Weigh

lemma address?_concat (front : List Nat) (last : Nat) : address? (front ++ [last]) =
    if front.length > 3 || last ≥ Nat.pow 256 (4 - front.length) || front.any (· > 255) then none
    else some (weigh weight front last) := by
  unfold address?
  simp only [List.getLast?_concat, List.dropLast_concat]
  rfl

lemma address?_lt {numbers : List Nat} {address : Nat} (h : address? numbers = some address) :
    address < 4294967296 := by
  obtain ⟨-, hone, htwo, hthree, hfour⟩ := pow_256
  obtain ⟨hzeroth, hfirst, hsecond⟩ := weight_eq
  rcases List.eq_nil_or_concat' numbers with rfl | ⟨front, last, rfl⟩
  · cases h
  · rw [address?_concat] at h
    split_ifs at h with hrefused
    replace h := Option.some.inj h
    simp only [Bool.or_eq_true, decide_eq_true_eq, List.any_eq_true, not_or, not_exists, not_and,
      Nat.not_lt, Nat.not_le] at hrefused
    obtain ⟨⟨hlength, hlast⟩, hfront⟩ := hrefused
    rcases front with _ | ⟨a, _ | ⟨b, _ | ⟨c, _ | ⟨d, rest⟩⟩⟩⟩
    · rw [weigh_nil] at h
      have hlast : last < Nat.pow 256 4 := hlast
      omega
    · rw [weigh_one, hzeroth] at h
      have hlast : last < Nat.pow 256 3 := hlast
      have ha := hfront a (by simp)
      omega
    · rw [weigh_two, hzeroth, hfirst] at h
      have hlast : last < Nat.pow 256 2 := hlast
      have ha := hfront a (by simp)
      have hb := hfront b (by simp)
      omega
    · rw [weigh_three, hzeroth, hfirst, hsecond] at h
      have hlast : last < Nat.pow 256 1 := hlast
      have ha := hfront a (by simp)
      have hb := hfront b (by simp)
      have hc := hfront c (by simp)
      omega
    · simp only [List.length_cons] at hlength
      omega

def bytes (address : Nat) : List Nat :=
  [address / 16777216 % 256, address / 65536 % 256, address / 256 % 256, address % 256]

lemma address?_bytes {address : Nat} (h : address < 4294967296) :
    address? (bytes address) = some address := by
  obtain ⟨-, hone, -⟩ := pow_256
  obtain ⟨hzeroth, hfirst, hsecond⟩ := weight_eq
  have hread := address?_concat
    [address / 16777216 % 256, address / 65536 % 256, address / 256 % 256] (address % 256)
  rw [weigh_three, hzeroth, hfirst, hsecond] at hread
  have hvalue : address % 256 + address / 16777216 % 256 * 16777216 +
      address / 65536 % 256 * 65536 + address / 256 % 256 * 256 = address := by omega
  rw [if_neg, hvalue] at hread
  · exact hread
  · have hroom : Nat.pow 256 (4 - (0 + 1 + 1 + 1)) = 256 := hone
    simp only [List.length_cons, List.length_nil, List.any_cons, List.any_nil, Bool.or_eq_true,
      decide_eq_true_eq, Bool.or_false]
    rw [hroom]
    omega

lemma render_v4 (address : Nat) :
    render (.v4 address) = List.intercalate ['.'] ((bytes address).map Text.ofNat) := by
  obtain ⟨hzero, hone, htwo, hthree, -⟩ := pow_256
  unfold render bytes
  simp only [List.map_cons, List.map_nil]
  rw [hzero, hone, htwo, hthree, Nat.div_one]
  rfl

lemma of_mem_render_v4 {address : Nat} (hc : c ∈ render (.v4 address)) :
    c = '.' ∨ Text.isDigit c := by
  rw [render_v4] at hc
  rcases Text.mem_intercalate hc with rfl | ⟨digits, hdigits, hc⟩
  · exact .inl rfl
  · obtain ⟨n, -, rfl⟩ := List.mem_map.mp hdigits
    exact .inr (Text.isDigit_of_mem_ofNat hc)

lemma isKept_of_mem_render_v4 {address : Nat} (hc : c ∈ render (.v4 address)) : isKept c := by
  rcases of_mem_render_v4 hc with rfl | hc
  · decide
  · exact isKept_of_isDigit hc

lemma labels_render_v4 (address : Nat) :
    labels (render (.v4 address)) = (bytes address).map Text.ofNat := by
  have hdot : ∀ part ∈ (bytes address).map Text.ofNat, '.' ∉ part := by
    intro part hpart hmem
    obtain ⟨n, -, rfl⟩ := List.mem_map.mp hpart
    exact absurd (Text.isDigit_of_mem_ofNat hmem) (by decide)
  have hsplit : Text.splitOn '.' (render (.v4 address)) = (bytes address).map Text.ofNat := by
    rw [render_v4]
    exact Text.splitOn_intercalate (by simp [bytes]) hdot
  unfold labels
  simp only [hsplit]
  rw [if_neg]
  simp [bytes, Text.ofNat_ne_nil]

lemma endsInNumber_render_v4 (address : Nat) : endsInNumber (render (.v4 address)) := by
  have hlast : ((bytes address).map Text.ofNat).getLast? = some (Text.ofNat (address % 256)) := rfl
  have hdigits : (Text.ofNat (address % 256)).all Text.isDigit :=
    List.all_eq_true.mpr fun c hc => Text.isDigit_of_mem_ofNat hc
  unfold endsInNumber
  rw [labels_render_v4, hlast]
  simp [hdigits, Text.ofNat_ne_nil]

/-! ### Hosts -/

inductive IsNormal (toAscii? : Mapping) : Host → Prop where
  | domain {name : Text} (hne : name ≠ []) (hchars : ∀ c ∈ name, isKept c)
    (hname : keptName? toAscii? name = some name) (hnumber : endsInNumber name = false) :
    IsNormal toAscii? (.domain name)
  | v4 {address : Nat} (h : address < 4294967296) : IsNormal toAscii? (.v4 address)
  | v6 {groups : List Nat} (hlength : groups.length = 8)
    (hbound : ∀ group ∈ groups, group < 65536) : IsNormal toAscii? (.v6 groups)

lemma bracketed?_eq_none {s : Text} (h : '[' ∉ s) : bracketed? s = none := by
  unfold bracketed?
  split
  · exact absurd List.mem_cons_self h
  · rfl

lemma read?_of_isKept {name : Text} (h : ∀ c ∈ name, isKept c) :
    read? name toAscii? = (keptName? toAscii? name).bind ofName? := by
  have hname : ∀ c ∈ name, isNameChar c := fun c hc => (isKept_iff.mp (h c hc)).1
  have hbracket : '[' ∉ name := fun hmem => isNameChar_ne (hname _ hmem) (by decide) rfl
  have hpercent : '%' ∉ name := fun hmem => isNameChar_ne (hname _ hmem) (by decide) rfl
  have hascii : ∀ c ∈ name, c.toNat < 0x80 := by simpa [isAscii] using isAscii_of_isKept h
  unfold read?
  rw [bracketed?_eq_none hbracket, ofUtf8_percentDecode hpercent hascii]

lemma ofName?_eq {name : Text} (hne : name ≠ []) : ofName? name =
    if endsInNumber name then (((labels name).mapM readNumber?).bind address?).map .v4
    else some (.domain name) := by
  rw [ofName?, List.isEmpty_eq_false_iff.mpr hne, if_neg Bool.false_ne_true]

/-- **What is read is in normal form.** -/
lemma isNormal_of_read? (hmap : IsMapping toAscii?) {s : Text} {host : Host}
    (h : read? s toAscii? = some host) : host.IsNormal toAscii? := by
  unfold read? at h
  split at h
  · obtain ⟨groups, hgroups, rfl⟩ := Option.map_eq_some_iff.mp h
    obtain ⟨inner, -, hread⟩ := Option.bind_eq_some_iff.mp hgroups
    obtain ⟨hlength, hbound⟩ := readV6?_bound hread
    exact .v6 hlength hbound
  · split at h
    · cases h
    · obtain ⟨name, hname, h⟩ := Option.bind_eq_some_iff.mp h
      obtain ⟨hchars, hstays⟩ := hmap.keptName?_eq_some hname
      have hne : name ≠ [] := by
        rintro rfl
        cases h
      rw [ofName?_eq hne] at h
      split_ifs at h with hnumber
      · obtain ⟨address, haddress, rfl⟩ := Option.map_eq_some_iff.mp h
        obtain ⟨numbers, -, hnumbers⟩ := Option.bind_eq_some_iff.mp haddress
        exact .v4 (address?_lt hnumbers)
      · obtain rfl := Option.some.inj h
        exact .domain hne hchars hstays (by simpa using hnumber)

/-- **Normal form is stable**: a host is read again from what it is written as. -/
lemma IsNormal.read?_render {host : Host} (h : host.IsNormal toAscii?) :
    read? host.render toAscii? = some host := by
  cases h with
  | @domain name hne hchars hname hnumber =>
    change read? name toAscii? = _
    rw [read?_of_isKept hchars, hname, Option.bind_some, ofName?_eq hne, hnumber]
    rfl
  | @v4 address h =>
    have hchars : ∀ c ∈ render (.v4 address), isKept c := fun c hc => isKept_of_mem_render_v4 hc
    have hmark : '-' ∉ render (.v4 address) := by
      intro hmem
      rcases of_mem_render_v4 hmem with heq | hdigit
      · exact absurd heq (by decide)
      · exact absurd hdigit (by decide)
    have hne : render (.v4 address) ≠ [] := by
      intro hnil
      have hnumber := endsInNumber_render_v4 address
      rw [hnil] at hnumber
      cases hnumber
    rw [read?_of_isKept hchars, keptName?_of_notMem hchars hmark, Option.bind_some, ofName?_eq hne,
      if_pos (endsInNumber_render_v4 address), labels_render_v4,
      mapM_map_eq_some fun n _ => readNumber?_ofNat n, Option.bind_some, address?_bytes h]
    rfl
  | @v6 groups hlength hbound =>
    obtain ⟨shown, hshown, hread, -⟩ := exists_render_v6 hlength hbound
    have hinner : bracketed? (render (.v6 groups)) = some (some shown) := by
      rw [hshown, bracketed?, List.getLast?_concat, if_pos rfl, List.dropLast_concat]
    unfold read?
    rw [hinner]
    simp [hread]

variable {host : Host}

lemma IsNormal.render_ne_nil (h : host.IsNormal toAscii?) : host.render ≠ [] := by
  intro hnil
  have hread := h.read?_render
  rw [hnil] at hread
  cases hread

lemma IsNormal.of_mem_render (h : host.IsNormal toAscii?) (hc : c ∈ host.render) :
    isNameChar c ∨ c = '[' ∨ c = ']' ∨ c = ':' := by
  cases h with
  | domain hne hchars => exact .inl (isKept_iff.mp (hchars c hc)).1
  | v4 h => exact .inl (isKept_iff.mp (isKept_of_mem_render_v4 hc)).1
  | v6 hlength hbound =>
    obtain ⟨shown, hshown, -, hchars⟩ := exists_render_v6 hlength hbound
    rw [hshown, List.mem_cons, List.mem_append, List.mem_singleton] at hc
    rcases hc with rfl | hc | rfl
    · exact .inr (.inl rfl)
    · exact (hchars c hc).imp isNameChar_of_isHex fun hcolon => .inr (.inr hcolon)
    · exact .inr (.inr (.inl rfl))

end Host

end Url

end ClickGen
