import ClickGen.Proofs.Text.Trim
import ClickGen.Proofs.Url.Authority
import ClickGen.Proofs.Url.Path
import ClickGen.Text.Blank

/-!
Web URLs in normal form.

A URL is kept part by part, each part in its own normal form, and the parts are told apart again by
the marks between them: no part holds the mark that it ends at, and none of them holds a character
that is dropped before anything is read. Main statements: what is read as a web URL is in normal
form, and a URL in normal form is read again from its text, with any mapping of names of hosts.
-/

namespace ClickGen.Url

section Visible

variable {s : Text} (h : ∀ c ∈ s, IsVisible c)
include h

lemma trimmed_eq_self : trimmed s = s :=
  Text.trim_eq_self fun c hc => decide_eq_false (Nat.not_le.mpr (h c hc).1)

lemma dropIgnored_eq_self : dropIgnored s = s :=
  List.filter_eq_self.mpr fun c hc => by simp [isIgnored_of_isVisible (h c hc)]

lemma trimBlank_eq_self : Text.trimBlank s = s := by
  refine Text.trim_eq_self fun c hc => ?_
  obtain ⟨hlow, hhigh⟩ := h c hc
  simp only [Text.isBlank, Bool.or_eq_false_iff, Bool.and_eq_false_iff, decide_eq_false_iff_not,
    beq_eq_false_iff_ne]
  omega

end Visible

section Suffix

variable {suffix : Suffix} {c : Char}

structure Suffix.IsNormal (suffix : Suffix) : Prop where
  query : ∀ query ∈ suffix.query, ∀ c ∈ query, encodesInQuery c = false
  fragment : ∀ fragment ∈ suffix.fragment, ∀ c ∈ fragment, encodesInFragment c = false

lemma isNormal_readSuffix (s : Text) : (readSuffix s).IsNormal := by
  have hquery : codeCharacters.all (!encodesInQuery ·) := by decide
  have hfragment : codeCharacters.all (!encodesInFragment ·) := by decide
  constructor
  · intro query hmem c hc
    simp only [readSuffix, Option.mem_def, Option.ite_none_left_eq_some, Option.some.injEq] at hmem
    obtain ⟨-, rfl⟩ := hmem
    exact kept_of_mem_percentEncode hquery hc
  · intro fragment hmem c hc
    simp only [readSuffix, Option.mem_def, Option.ite_none_left_eq_some, Option.some.injEq] at hmem
    obtain ⟨-, rfl⟩ := hmem
    exact kept_of_mem_percentEncode hfragment hc

def queryText : Option Text → Text
  | some query => '?' :: query
  | none => []

def fragmentText : Option Text → Text
  | some fragment => '#' :: fragment
  | none => []

/-- A query and a fragment behind a path, with their marks. -/
def suffixText (suffix : Suffix) : Text := queryText suffix.query ++ fragmentText suffix.fragment

lemma Suffix.IsNormal.readSuffix_suffixText (h : suffix.IsNormal) :
    readSuffix (suffixText suffix) = suffix := by
  obtain ⟨query?, fragment?⟩ := suffix
  obtain ⟨hquery, hfragment⟩ := h
  have hmark : ∀ c ∈ queryText query?, (c != '#') = true := by
    intro c hc
    rw [bne_iff_ne]
    rintro rfl
    cases query? with
    | none => cases hc
    | some query =>
      rcases List.mem_cons.mp hc with heq | hc
      · exact absurd heq (by decide)
      · exact absurd (hquery query rfl _ hc) (by decide)
  have hend : ∀ c ∈ (fragmentText fragment?).head?, (c != '#') = false := by
    cases fragment? <;> simp [fragmentText]
  have htake : (suffixText ⟨query?, fragment?⟩).takeWhile (· != '#') = queryText query? :=
    takeWhile_append_eq hmark hend
  have hdrop : (suffixText ⟨query?, fragment?⟩).dropWhile (· != '#') = fragmentText fragment? :=
    dropWhile_append_eq hmark hend
  unfold readSuffix
  simp only [htake, hdrop, Suffix.mk.injEq]
  constructor
  · cases query? with
    | none => rfl
    | some query => simp [queryText, percentEncode_eq_self (hquery query rfl)]
  · cases fragment? with
    | none => rfl
    | some fragment => simp [fragmentText, percentEncode_eq_self (hfragment fragment rfl)]

lemma Suffix.IsNormal.isVisible (h : suffix.IsNormal) (hc : c ∈ suffixText suffix) :
    IsVisible c := by
  obtain ⟨query?, fragment?⟩ := suffix
  obtain ⟨hquery, hfragment⟩ := h
  rcases List.mem_append.mp hc with hc | hc
  · cases query? with
    | none => cases hc
    | some query =>
      rcases List.mem_cons.mp hc with rfl | hc
      · exact ⟨by decide, by decide⟩
      · have halways : ∀ d, encodesAlways d → encodesInQuery d :=
          fun d hd => by simp [encodesInQuery, hd]
        exact isVisible_of_kept halways (by decide) (hquery query rfl c hc)
  · cases fragment? with
    | none => cases hc
    | some fragment =>
      rcases List.mem_cons.mp hc with rfl | hc
      · exact ⟨by decide, by decide⟩
      · have halways : ∀ d, encodesAlways d → encodesInFragment d :=
          fun d hd => by simp [encodesInFragment, hd]
        exact isVisible_of_kept halways (by decide) (hfragment fragment rfl c hc)

lemma head?_suffixText : ∀ c ∈ (suffixText suffix).head?, startsSuffix c := by
  obtain ⟨query?, fragment?⟩ := suffix
  intro c hc
  cases query? with
  | some query =>
    obtain rfl := Option.some.inj hc
    rfl
  | none =>
    cases fragment? with
    | some fragment =>
      obtain rfl := Option.some.inj hc
      rfl
    | none => cases hc

end Suffix

lemma mem_webPorts_of_lookup {scheme : Text} {standard : Nat}
    (h : webPorts.lookup scheme = some standard) : (scheme, standard) ∈ webPorts := by
  obtain ⟨before, after, hports, -⟩ := List.lookup_eq_some_iff.mp h
  rw [hports]
  simp

lemma of_mem_webPorts {scheme : Text} {standard : Nat} (h : (scheme, standard) ∈ webPorts) :
    scheme ≠ "file".toList ∧ webPorts.lookup scheme = some standard ∧
      (∀ c ∈ scheme, IsVisible c) ∧
      ∀ rest, readScheme? (scheme ++ ':' :: rest) = some (scheme, rest) := by
  have htable : webPorts.all fun entry => entry.1 != "file".toList &&
      webPorts.lookup entry.1 == some entry.2 &&
      entry.1.all fun c => 0x20 < c.toNat && c.toNat < 0x7F := by decide
  have hentry := List.all_eq_true.mp htable _ h
  simp only [Bool.and_eq_true, bne_iff_ne, beq_iff_eq] at hentry
  obtain ⟨⟨hfile, hlookup⟩, hvisible⟩ := hentry
  refine ⟨hfile, hlookup, isVisible_of_all hvisible, fun rest => ?_⟩
  have hread : ∀ entry ∈ webPorts, readScheme? (entry.1 ++ ':' :: rest) = some (entry.1, rest) := by
    simp only [webPorts, List.forall_mem_cons, List.not_mem_nil, false_implies, implies_true]
    exact ⟨rfl, rfl, rfl, rfl, rfl, trivial⟩
  exact hread _ h

lemma readFile?_eq_some {toAscii? : Host.Mapping} {s : Text} {url : Url}
    (h : readFile? s toAscii? = some url) :
    ∃ host path, url = .file host path := by
  unfold readFile? at h
  simp only at h
  split at h
  · exact ⟨_, _, (Option.some.inj h).symm⟩
  split at h
  · exact ⟨_, _, (Option.some.inj h).symm⟩
  split at h
  · exact ⟨_, _, (Option.some.inj h).symm⟩
  split at h
  · cases h
  · exact ⟨_, _, (Option.some.inj h).symm⟩
  · exact ⟨_, _, (Option.some.inj h).symm⟩

lemma readOther?_eq_some {scheme s : Text} {url : Url} (h : readOther? scheme s = some url) :
    url = .other scheme := by
  unfold readOther? at h
  split at h
  · obtain ⟨⟨userinfo, place⟩, -, h⟩ := Option.bind_eq_some_iff.mp h
    simp only at h
    split at h
    · cases h
    split at h
    · cases h
    · obtain ⟨port, -, h⟩ := Option.bind_eq_some_iff.mp h
      exact (Option.some.inj h).symm
  · exact (Option.some.inj h).symm

/-! ### Web URLs -/

section Web

variable {toAscii? : Host.Mapping} {scheme userinfo s rest : Text} {standard : Nat} {host : Host}
  {port : Option Nat} {segments : List Text} {suffix : Suffix} {url : Url} {c : Char}

inductive IsNormal (toAscii? : Host.Mapping) : Url → Prop where
  | web {scheme userinfo : Text} {standard : Nat} {host : Host} {port : Option Nat}
      {segments : List Text} {suffix : Suffix} (hscheme : (scheme, standard) ∈ webPorts)
      (hauthority : IsAuthority toAscii? standard userinfo host port) (hne : segments ≠ [])
      (hsegments : ∀ segment ∈ segments, Path.IsNormal segment) (hsuffix : suffix.IsNormal) :
      IsNormal toAscii?
        (.web scheme userinfo host port ('/' :: List.intercalate ['/'] segments) suffix)

lemma readWeb?_eq_some (h : readWeb? scheme standard s toAscii? = some url) :
    ∃ userinfo host port segments suffix,
      url = .web scheme userinfo host port ('/' :: List.intercalate ['/'] segments) suffix ∧
      IsUserinfo userinfo ∧ (∃ name, Host.read? name toAscii? = some host) ∧
      IsPort standard port ∧ segments ≠ [] ∧
      (∀ segment ∈ segments, Path.IsNormal segment) ∧ suffix.IsNormal := by
  unfold readWeb? at h
  simp only at h
  obtain ⟨⟨userinfo, place⟩, huserinfo, h⟩ := Option.bind_eq_some_iff.mp h
  obtain ⟨host, hhost, h⟩ := Option.bind_eq_some_iff.mp h
  obtain ⟨port, hport, h⟩ := Option.bind_eq_some_iff.mp h
  obtain rfl := Option.some.inj h
  obtain ⟨segments, hne, hsegments, hpath⟩ := Path.exists_readWeb
    (((s.dropWhile isSlash).dropWhile (!endsAuthority true ·)).takeWhile (!startsSuffix ·))
  rw [hpath]
  exact ⟨userinfo, host, port, segments, _, rfl, isUserinfo_of_readUserinfo? huserinfo,
    ⟨_, hhost⟩, isPort_of_readPort? hport, hne, hsegments, isNormal_readSuffix _⟩

lemma exists_readWeb? (h : read? s toAscii? = some url)
    (hscheme : url.scheme = "http".toList ∨ url.scheme = "https".toList) :
    ∃ scheme standard rest, (scheme, standard) ∈ webPorts ∧
      readWeb? scheme standard rest toAscii? = some url := by
  unfold read? at h
  simp only at h
  obtain ⟨⟨scheme, rest⟩, -, h⟩ := Option.bind_eq_some_iff.mp h
  simp only at h
  split at h
  · obtain ⟨host, path, rfl⟩ := readFile?_eq_some h
    have hfile : ¬ ("file".toList = "http".toList ∨ "file".toList = "https".toList) := by decide
    exact absurd hscheme hfile
  split at h
  · next standard hports => exact ⟨scheme, standard, rest, mem_webPorts_of_lookup hports, h⟩
  · next hports =>
    obtain rfl := readOther?_eq_some h
    rcases hscheme with rfl | rfl
    · cases hports
    · cases hports

/-- **What is read is in normal form.** -/
lemma isNormal_of_read? (hmap : Host.IsMapping toAscii?) (h : read? s toAscii? = some url)
    (hscheme : url.scheme = "http".toList ∨ url.scheme = "https".toList) :
    url.IsNormal toAscii? := by
  obtain ⟨scheme, standard, rest, hports, hread⟩ := exists_readWeb? h hscheme
  obtain ⟨userinfo, host, port, segments, suffix, rfl, huserinfo, ⟨name, hhost⟩, hport, hne,
    hsegments, hsuffix⟩ := readWeb?_eq_some hread
  have hauthority : IsAuthority toAscii? standard userinfo host port :=
    ⟨huserinfo, Host.isNormal_of_read? hmap hhost, hport⟩
  exact .web hports hauthority hne hsegments hsuffix

lemma readWeb?_authority (h : IsAuthority toAscii? standard userinfo host port)
    (hrest : ∀ c ∈ rest.head?, endsAuthority true c) :
    readWeb? scheme standard ('/' :: '/' :: (authority userinfo host port ++ rest)) toAscii? =
      some (.web scheme userinfo host port (Path.readWeb (rest.takeWhile (!startsSuffix ·)))
        (readSuffix (rest.dropWhile (!startsSuffix ·)))) := by
  have hchars : ∀ c ∈ authority userinfo host port, (!endsAuthority true c) = true :=
    fun c hc => by simp [(h.of_mem hc).2]
  have hmark : ∀ c ∈ rest.head?, (!endsAuthority true c) = false :=
    fun c hc => by simp [hrest c hc]
  have hslashes : (['/', '/'] ++ (authority userinfo host port ++ rest)).dropWhile isSlash =
      authority userinfo host port ++ rest :=
    dropWhile_append_eq (by simp [isSlash]) fun c hc => h.isSlash_of_head? hc
  rw [List.cons_append, List.singleton_append] at hslashes
  have htake : (place host port).take host.render.length = host.render := List.take_left
  have hdrop : (place host port).drop host.render.length = portText port := List.drop_left
  have hlength : hostLength false (place host port) = host.render.length :=
    h.host.hostLength_eq head?_portText
  unfold readWeb?
  simp only [hslashes]
  rw [takeWhile_append_eq hchars hmark, dropWhile_append_eq hchars hmark, authority,
    readUserinfo?_append h.userinfo (at_notMem_place h.host)]
  simp only [Option.bind_eq_bind, Option.bind_some, hlength, htake, hdrop, h.host.read?_render,
    readPort?_portText h.port]
  rfl

lemma render_web (scheme userinfo : Text) (host : Host) (port : Option Nat) (path : Text)
    (suffix : Suffix) : render (.web scheme userinfo host port path suffix) = scheme ++
      ':' :: '/' :: '/' :: (authority userinfo host port ++ (path ++ suffixText suffix)) := by
  obtain ⟨query?, fragment?⟩ := suffix
  unfold render authority place userinfoText suffixText portText queryText fragmentText
  simp only [List.append_assoc]
  rfl

lemma isVisible_of_mem_path (hsegments : ∀ segment ∈ segments, Path.IsNormal segment)
    (hc : c ∈ '/' :: List.intercalate ['/'] segments) :
    IsVisible c ∧ startsSuffix c = false := by
  have hslash : IsVisible '/' ∧ startsSuffix '/' = false := ⟨⟨by decide, by decide⟩, by decide⟩
  rcases List.mem_cons.mp hc with rfl | hc
  · exact hslash
  rcases Text.mem_intercalate hc with rfl | ⟨segment, hsegment, hc⟩
  · exact hslash
  · exact isSegmentChar_apart ((hsegments segment hsegment).chars c hc)

lemma IsNormal.isVisible (h : url.IsNormal toAscii?) (hc : c ∈ url.render) : IsVisible c := by
  have hmarks : ∀ c ∈ [':', '/', '/'], IsVisible c := isVisible_of_all (by decide)
  cases h with
  | web hscheme hauthority hne hsegments hsuffix =>
    obtain ⟨-, -, hvisible, -⟩ := of_mem_webPorts hscheme
    rw [render_web] at hc
    rcases List.mem_append.mp hc with hc | hc
    · exact hvisible c hc
    change c ∈ [':', '/', '/'] ++ _ at hc
    rcases List.mem_append.mp hc with hc | hc
    · exact hmarks c hc
    rcases List.mem_append.mp hc with hc | hc
    · exact (hauthority.of_mem hc).1
    rcases List.mem_append.mp hc with hc | hc
    · exact (isVisible_of_mem_path hsegments hc).1
    · exact hsuffix.isVisible hc

/-- **Normal form is stable**: a URL is read again from its text. -/
lemma IsNormal.read?_render (h : url.IsNormal toAscii?) :
    read? url.render toAscii? = some url := by
  have htrimmed := trimmed_eq_self fun c hc => h.isVisible hc
  have hdropped := dropIgnored_eq_self fun c hc => h.isVisible hc
  unfold read?
  simp only [htrimmed, hdropped]
  cases h with
  | @web scheme userinfo standard host port segments suffix hscheme hauthority hne hsegments
      hsuffix =>
    obtain ⟨hfile, hlookup, -, hread⟩ := of_mem_webPorts hscheme
    have hpath : ∀ c ∈ '/' :: List.intercalate ['/'] segments, (!startsSuffix c) = true :=
      fun c hc => by simp [(isVisible_of_mem_path hsegments hc).2]
    have hmark : ∀ c ∈ (suffixText suffix).head?, (!startsSuffix c) = false :=
      fun c hc => by simp [head?_suffixText c hc]
    rw [render_web, hread, Option.bind_eq_bind, Option.bind_some]
    simp only [hlookup]
    rw [if_neg hfile, readWeb?_authority hauthority (by rintro c ⟨⟩; rfl),
      takeWhile_append_eq hpath hmark, dropWhile_append_eq hpath hmark,
      Path.readWeb_of_isNormal hne hsegments, hsuffix.readSuffix_suffixText]

end Web

end ClickGen.Url
