import ClickGen.Proofs.Url.Host
import ClickGen.Url.Basic

/-!
What stands between the slashes in front of a web URL and its path: user and password, a host and
a port.

Each part is written in normal form with characters that end none of the others, so that they are
told apart again. Main statements: the parts that are read are in normal form, and such parts are
read again from the text that they are written as.
-/

namespace ClickGen.Url

variable {toAscii? : Host.Mapping}

section Userinfo

variable {encodes : Char → Bool} {s : Text}

lemma percentEncode_eq_nil_iff : percentEncode encodes s = [] ↔ s = [] := by
  constructor
  · intro h
    cases s with
    | nil => rfl
    | cons c s =>
      rw [percentEncode, List.flatMap_cons, List.append_eq_nil_iff] at h
      have hfirst := h.1
      split at hfirst
      · obtain ⟨b, bytes, hbytes⟩ := List.exists_cons_of_ne_nil (@String.utf8EncodeChar_ne_nil c)
        rw [hbytes] at hfirst
        cases hfirst
      · cases hfirst
  · rintro rfl
    rfl

/-- User and password as they are kept: nothing is left to encode but a colon between the two. -/
structure IsUserinfo (s : Text) : Prop where
  chars : ∀ c ∈ s, encodesInUserinfo c = false ∨ c = ':'
  normal : normalUserinfo s = s

lemma isUserinfo_nil : IsUserinfo [] := ⟨by simp, rfl⟩

lemma normalUserinfo_of_notMem (h : ':' ∉ s) :
    normalUserinfo s = percentEncode encodesInUserinfo s := by
  have hcolon : ∀ c ∈ s, (c != ':') = true := fun c hc => bne_iff_ne.mpr (by rintro rfl; exact h hc)
  unfold normalUserinfo
  simp only
  rw [List.takeWhile_eq_self_iff.mpr hcolon, List.dropWhile_eq_nil_iff.mpr hcolon, List.drop_nil,
    List.isEmpty_nil, if_pos rfl, List.append_nil]

lemma normalUserinfo_append {user password : Text} (h : ':' ∉ user) (hne : password ≠ []) :
    normalUserinfo (user ++ ':' :: password) =
      percentEncode encodesInUserinfo user ++ ':' :: percentEncode encodesInUserinfo password := by
  have hcolon : ∀ c ∈ user, (c != ':') = true :=
    fun c hc => bne_iff_ne.mpr (by rintro rfl; exact h hc)
  have hmark : ∀ c ∈ (':' :: password).head?, (c != ':') = false := by simp
  have htake : (user ++ ':' :: password).takeWhile (· != ':') = user :=
    takeWhile_append_eq hcolon hmark
  have hdrop : (user ++ ':' :: password).dropWhile (· != ':') = ':' :: password :=
    dropWhile_append_eq hcolon hmark
  unfold normalUserinfo
  simp only
  rw [htake, hdrop, List.drop_one, List.tail_cons, List.isEmpty_eq_false_iff.mpr hne,
    if_neg Bool.false_ne_true]

lemma isUserinfo_normalUserinfo (s : Text) : IsUserinfo (normalUserinfo s) := by
  have hcode : codeCharacters.all (!encodesInUserinfo ·) := by decide
  have hkept {t : Text} : ∀ c ∈ percentEncode encodesInUserinfo t, encodesInUserinfo c = false :=
    fun c hc => kept_of_mem_percentEncode hcode hc
  have hcolon {t : Text} : ':' ∉ percentEncode encodesInUserinfo t :=
    fun hc => absurd (hkept _ hc) (by decide)
  unfold normalUserinfo
  simp only
  generalize s.takeWhile (· != ':') = user
  generalize (s.dropWhile (· != ':')).drop 1 = password
  by_cases hpassword : password = []
  · rw [hpassword, List.isEmpty_nil, if_pos rfl, List.append_nil]
    refine ⟨fun c hc => .inl (hkept c hc), ?_⟩
    rw [normalUserinfo_of_notMem hcolon, percentEncode_percentEncode hcode]
  · rw [List.isEmpty_eq_false_iff.mpr hpassword, if_neg Bool.false_ne_true]
    refine ⟨fun c hc => ?_, ?_⟩
    · rcases List.mem_append.mp hc with hc | hc
      · exact .inl (hkept c hc)
      · exact (List.mem_cons.mp hc).symm.imp (hkept c) id
    · rw [normalUserinfo_append hcolon (mt percentEncode_eq_nil_iff.mp hpassword),
        percentEncode_percentEncode hcode, percentEncode_percentEncode hcode]

lemma isUserinfo_of_readUserinfo? {authority userinfo place : Text} {followed : Bool}
    (h : readUserinfo? authority followed = some (userinfo, place)) : IsUserinfo userinfo := by
  unfold readUserinfo? at h
  split at h
  · obtain ⟨rfl, -⟩ := Prod.mk.inj (Option.some.inj h)
    exact isUserinfo_nil
  · split_ifs at h
    obtain ⟨rfl, -⟩ := Prod.mk.inj (Option.some.inj h)
    exact isUserinfo_normalUserinfo _

lemma cutAtLast?_append {place : Text} (h : '@' ∉ place) :
    cutAtLast? (s ++ '@' :: place) = some (s, place) := by
  have hrest : ∀ c ∈ place.reverse, (c != '@') = true := fun c hc =>
    bne_iff_ne.mpr (by rintro rfl; exact h (List.mem_reverse.mp hc))
  have hafter : ((s ++ '@' :: place).reverse.takeWhile (· != '@')).reverse = place := by
    rw [List.reverse_append, List.reverse_cons, List.append_assoc,
      takeWhile_append_eq hrest (by simp), List.reverse_reverse]
  have hlength : (s ++ '@' :: place).length - place.length - 1 = s.length := by
    rw [List.length_append, List.length_cons]
    omega
  unfold cutAtLast?
  rw [if_pos (by simp)]
  simp only [hafter, hlength, List.take_left]

/-- User and password in front of a host, with the mark behind them. -/
def userinfoText (userinfo : Text) : Text := if userinfo.isEmpty then [] else userinfo ++ ['@']

lemma readUserinfo?_append {userinfo place : Text} (h : IsUserinfo userinfo) (hplace : '@' ∉ place)
    (followed : Bool) :
    readUserinfo? (userinfoText userinfo ++ place) followed = some (userinfo, place) := by
  unfold readUserinfo? userinfoText
  cases hempty : userinfo.isEmpty
  · rw [if_neg Bool.false_ne_true, List.append_assoc, List.singleton_append,
      cutAtLast?_append hplace]
    simp [hempty, h.normal]
  · obtain rfl := List.isEmpty_iff.mp hempty
    have hnone : cutAtLast? place = none := if_neg (by simpa using hplace)
    rw [if_pos rfl, List.nil_append, hnone]

end Userinfo

section HostLength

variable {inBrackets : Bool} {s rest : Text}

lemma hostLength_append
    (h : ∀ c ∈ s, c ≠ '[' ∧ c ≠ ']' ∧ (c = ':' → inBrackets)) :
    hostLength inBrackets (s ++ rest) = s.length + hostLength inBrackets rest := by
  induction s with
  | nil => simp
  | cons c s ih =>
    obtain ⟨⟨hopen, hclose, hcolon⟩, hs⟩ := List.forall_mem_cons.mp h
    have hgoes : ¬ (decide (c = ':') && !inBrackets) = true := by
      simpa using hcolon
    rw [List.cons_append, hostLength, if_neg hgoes, if_neg hopen, if_neg hclose, ih hs,
      List.length_cons]
    omega

lemma hostLength_of_head? (h : ∀ c ∈ rest.head?, c = ':') : hostLength false rest = 0 := by
  cases rest with
  | nil => rfl
  | cons c rest =>
    obtain rfl := h c rfl
    rfl

lemma Host.IsNormal.hostLength_eq {host : Host} (h : host.IsNormal toAscii?)
    (hrest : ∀ c ∈ rest.head?, c = ':') :
    hostLength false (host.render ++ rest) = host.render.length := by
  have hname {c : Char} (hc : Host.isNameChar c) :
      c ≠ '[' ∧ c ≠ ']' ∧ (c = ':' → false = true) :=
    ⟨Host.isNameChar_ne hc (by decide), Host.isNameChar_ne hc (by decide),
      fun heq => absurd heq (Host.isNameChar_ne hc (by decide))⟩
  have hplain (hchars : ∀ c ∈ host.render, Host.isNameChar c) :
      hostLength false (host.render ++ rest) = host.render.length := by
    rw [hostLength_append fun c hc => hname (hchars c hc), hostLength_of_head? hrest, Nat.add_zero]
  cases h with
  | domain hne hchars => exact hplain fun c hc => (Host.isKept_iff.mp (hchars c hc)).1
  | v4 h => exact hplain fun c hc => (Host.isKept_iff.mp (Host.isKept_of_mem_render_v4 hc)).1
  | v6 hlength hbound =>
    obtain ⟨shown, hshown, -, hchars⟩ := Host.exists_render_v6 hlength hbound
    have hinside : ∀ c ∈ shown, c ≠ '[' ∧ c ≠ ']' ∧ (c = ':' → true = true) := by
      intro c hc
      rcases hchars c hc with hc | rfl
      · obtain ⟨hopen, hclose, -⟩ := hname (Host.isNameChar_of_isHex hc)
        exact ⟨hopen, hclose, fun _ => rfl⟩
      · decide
    have hopen : hostLength false ('[' :: (shown ++ ([']'] ++ rest))) =
        hostLength true (shown ++ ([']'] ++ rest)) + 1 := rfl
    have hclose : hostLength true ([']'] ++ rest) = hostLength false rest + 1 := rfl
    rw [hshown, List.cons_append, List.append_assoc, hopen, hostLength_append hinside, hclose,
      hostLength_of_head? hrest]
    simp

end HostLength

section Port

variable {standard : Nat} {port : Option Nat}

/-- A port as it is kept: it has 16 bits and does not go without saying. -/
def IsPort (standard : Nat) (port : Option Nat) : Prop := ∀ n ∈ port, n ≤ 65535 ∧ n ≠ standard

lemma isPort_of_readPort? {s : Text} (h : readPort? (some standard) s = some port) :
    IsPort standard port := by
  unfold readPort? at h
  split at h
  · obtain rfl := Option.some.inj h
    rintro n ⟨⟩
  · simp only at h
    split_ifs at h with hrefused hunsaid
    · obtain rfl := Option.some.inj h
      rintro n ⟨⟩
    · obtain rfl := Option.some.inj h
      rintro n hn
      obtain rfl := Option.some.inj hn
      simp only [Bool.or_eq_true, not_or, decide_eq_true_eq] at hrefused hunsaid
      exact ⟨Nat.le_of_not_gt hrefused.1, fun heq => hunsaid.2 (congrArg some heq)⟩

def portText : Option Nat → Text
  | some n => ':' :: Text.ofNat n
  | none => []

lemma head?_portText : ∀ c ∈ (portText port).head?, c = ':' := by
  cases port with
  | none => rintro c ⟨⟩
  | some n => exact fun c hc => (Option.some.inj hc).symm

lemma of_mem_portText {c : Char} (h : c ∈ portText port) : Text.isDigit c ∨ c = ':' := by
  cases port with
  | none => cases h
  | some n => exact (List.mem_cons.mp h).symm.imp_left Text.isDigit_of_mem_ofNat

lemma readPort?_portText (h : IsPort standard port) :
    readPort? (some standard) (portText port) = some port := by
  cases port with
  | none => rfl
  | some n =>
    obtain ⟨hbound, hstandard⟩ := h n rfl
    have hdigits : ∀ c ∈ Text.ofNat n, Text.isDigit c := fun c hc => Text.isDigit_of_mem_ofNat hc
    unfold readPort? portText
    simp only
    rw [List.takeWhile_eq_self_iff.mpr hdigits, List.dropWhile_eq_nil_iff.mpr hdigits,
      Text.digitsValue_ofNat]
    simp [hbound, hstandard, Text.ofNat_ne_nil]

end Port

/-! ### The whole -/

section Authority

variable {standard : Nat} {userinfo : Text} {host : Host} {port : Option Nat} {c : Char}

structure IsAuthority (toAscii? : Host.Mapping) (standard : Nat) (userinfo : Text) (host : Host)
    (port : Option Nat) : Prop where
  userinfo : IsUserinfo userinfo
  host : host.IsNormal toAscii?
  port : IsPort standard port

def place (host : Host) (port : Option Nat) : Text := host.render ++ portText port

def authority (userinfo : Text) (host : Host) (port : Option Nat) : Text :=
  userinfoText userinfo ++ place host port

lemma of_mem_place (hhost : host.IsNormal toAscii?) (h : c ∈ place host port) :
    Host.isNameChar c ∨ c = '[' ∨ c = ']' ∨ c = ':' := by
  rcases List.mem_append.mp h with h | h
  · exact hhost.of_mem_render h
  · rcases of_mem_portText h with h | rfl
    · exact .inl (Host.isKept_iff.mp (Host.isKept_of_isDigit h)).1
    · exact .inr (.inr (.inr rfl))

lemma IsAuthority.of_mem (h : IsAuthority toAscii? standard userinfo host port)
    (hc : c ∈ authority userinfo host port) : IsVisible c ∧ endsAuthority true c = false := by
  have hends {p : Char → Bool} (hp : p c = false) (hmarks : ['/', '?', '#', '\\'].all p) :
      endsAuthority true c = false := by
    have hmark : c ∉ ['/', '?', '#', '\\'] := by
      intro hmem
      rw [List.all_eq_true.mp hmarks c hmem] at hp
      cases hp
    simpa [endsAuthority, and_assoc] using hmark
  rcases List.mem_append.mp hc with hc | hc
  · unfold userinfoText at hc
    split_ifs at hc
    · cases hc
    rcases List.mem_append.mp hc with hc | hc
    · rcases h.userinfo.chars c hc with hkept | rfl
      · have halways : ∀ d, encodesAlways d → encodesInUserinfo d :=
          fun d hd => by simp [encodesInUserinfo, encodesInPath, encodesInFragment, hd]
        exact ⟨isVisible_of_kept halways (by decide) hkept, hends hkept (by decide)⟩
      · exact ⟨⟨by decide, by decide⟩, by decide⟩
    · obtain rfl := List.mem_singleton.mp hc
      exact ⟨⟨by decide, by decide⟩, by decide⟩
  · rcases of_mem_place h.host hc with hname | rfl | rfl | rfl
    · exact ⟨Host.isVisible_of_isNameChar hname,
        @hends (!Host.isNameChar ·) (by simp [hname]) (by decide)⟩
    all_goals exact ⟨⟨by decide, by decide⟩, by decide⟩

lemma IsAuthority.isSlash_of_head? {rest : Text} (h : IsAuthority toAscii? standard userinfo host port)
    (hc : c ∈ (authority userinfo host port ++ rest).head?) : isSlash c = false := by
  have hne : authority userinfo host port ≠ [] :=
    List.append_ne_nil_of_right_ne_nil _ (List.append_ne_nil_of_left_ne_nil h.host.render_ne_nil _)
  rw [List.head?_append_of_ne_nil _ hne] at hc
  have hends := (h.of_mem (List.mem_of_mem_head? hc)).2
  simp only [endsAuthority, Bool.true_and, Bool.or_eq_false_iff] at hends
  rw [isSlash, hends.1.1.1, hends.2]
  rfl

lemma at_notMem_place (hhost : host.IsNormal toAscii?) : '@' ∉ place host port := by
  intro h
  rcases of_mem_place hhost h with h | h | h | h <;> exact absurd h (by decide)

end Authority

end ClickGen.Url
