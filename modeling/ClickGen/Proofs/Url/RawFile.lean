import ClickGen.Locator
import ClickGen.Proofs.Url.Render

/-!
Pages of repositories, read from where the files are.

The address of a page that shows a file has at least five segments, and the third of them is `blob`.
Main statement: such an address is turned into that of the file, on another host and without the
third segment, and all other segments stand in it as they stood in the address that was read; every
other address of the web stays as it was read. That the address of the file can be read, and is read
segment by segment as it was put together, follows from the normal form of URLs.
-/

namespace ClickGen

namespace Url

lemma exists_segments {toAscii? : Host.Mapping} {s : Text} {url : Url}
    (h : read? s toAscii? = some url)
    (hscheme : url.scheme = "http".toList ∨ url.scheme = "https".toList) :
    ∃ scheme userinfo host port segments suffix,
      url = .web scheme userinfo host port ('/' :: List.intercalate ['/'] segments) suffix ∧
      segments ≠ [] ∧ ∀ segment ∈ segments, Path.IsNormal segment := by
  obtain ⟨scheme, standard, rest, -, hread⟩ := exists_readWeb? h hscheme
  obtain ⟨userinfo, host, port, segments, suffix, hurl, -, -, -, hne, hsegments, -⟩ :=
    readWeb?_eq_some hread
  exact ⟨scheme, userinfo, host, port, segments, suffix, hurl, hne, hsegments⟩

end Url

namespace Locator

open Url

def rawAddress (segments : List Text) : Text :=
  "https://raw.githubusercontent.com/" ++ List.intercalate ['/'] segments

/-- What it is to be read as: nothing but a host and the segments. -/
def rawUrl (segments : List Text) : Url :=
  .web "https" [] (.domain "raw.githubusercontent.com") none
    ('/' :: List.intercalate ['/'] segments) {}

variable {toAscii? : Host.Mapping} {segments : List Text}

lemma render_rawUrl (segments : List Text) : (rawUrl segments).render = rawAddress segments := by
  have hparts : ∀ path : Text, render (.web "https" [] (.domain rawHost) none ('/' :: path) {}) =
      "https://raw.githubusercontent.com/" ++ path := by
    intro path
    unfold render
    simp only [List.append_nil]
    rfl
  exact hparts _

lemma isNormal_rawUrl (hne : segments ≠ []) (h : ∀ segment ∈ segments, Path.IsNormal segment) :
    (rawUrl segments).IsNormal toAscii? := by
  have hscheme : ("https".toList, 443) ∈ webPorts := by decide
  have hchars : ∀ c ∈ "raw.githubusercontent.com".toList, Host.isKept c :=
    List.all_eq_true.mp (by decide)
  have hhost : Host.IsNormal toAscii? (.domain "raw.githubusercontent.com") :=
    .domain (by decide) hchars (Host.keptName?_of_notMem hchars (by decide)) rfl
  exact .web hscheme ⟨isUserinfo_nil, hhost, by simp [IsPort]⟩ hne h ⟨by simp, by simp⟩

lemma read?_rawAddress (hne : segments ≠ []) (h : ∀ segment ∈ segments, Path.IsNormal segment) :
    read? (rawAddress segments) toAscii? = some (rawUrl segments) := by
  rw [← render_rawUrl]
  exact (isNormal_rawUrl hne h).read?_render

/-! ### Pages -/

/-- A page that shows a file of a repository. -/
structure IsPage (host : Host) (segments : List Text) : Prop where
  host : host = .domain "github.com" ∨ host = .domain "raw.githubusercontent.com"
  length : 5 ≤ segments.length
  kind : segments[2]? = some "blob".toList

lemma pathSegments_eq (hne : segments ≠ []) (h : ∀ segment ∈ segments, Path.IsNormal segment) :
    pathSegments ('/' :: List.intercalate ['/'] segments) = segments :=
  Text.splitOn_intercalate hne fun segment hsegment => (h segment hsegment).slash_notMem

variable {scheme userinfo : Text} {host : Host} {port : Option Nat} {suffix : Suffix}

lemma IsPage.segments_eraseIdx (hpage : IsPage host segments)
    (h : ∀ segment ∈ segments, Path.IsNormal segment) :
    segments.eraseIdx 2 ≠ [] ∧ ∀ segment ∈ segments.eraseIdx 2, Path.IsNormal segment := by
  have hlength := hpage.length
  refine ⟨?_, fun segment hsegment => h segment (List.mem_of_mem_eraseIdx hsegment)⟩
  rw [← List.length_pos_iff, List.length_eraseIdx_of_lt (by omega)]
  omega

lemma IsPage.read?_eq (hpage : IsPage host segments)
    (h : ∀ segment ∈ segments, Path.IsNormal segment) :
    read? (rawAddress (segments.eraseIdx 2)) toAscii? = some (rawUrl (segments.eraseIdx 2)) := by
  obtain ⟨hne, hnormal⟩ := hpage.segments_eraseIdx h
  exact read?_rawAddress hne hnormal

lemma IsPage.rawFile_eq (hpage : IsPage host segments)
    (h : ∀ segment ∈ segments, Path.IsNormal segment) :
    rawFile (.web scheme userinfo host port ('/' :: List.intercalate ['/'] segments) suffix)
      toAscii? = rawUrl (segments.eraseIdx 2) := by
  have hread := @IsPage.read?_eq toAscii? _ _ hpage h
  obtain ⟨hhost, hlength, hkind⟩ := hpage
  have hsegments : pathSegments ('/' :: List.intercalate ['/'] segments) = segments :=
    pathSegments_eq (by rintro rfl; cases hkind) h
  obtain ⟨owner, repository, kind, reference, first, more, rfl⟩ :
      ∃ owner repository kind reference first more,
        segments = owner :: repository :: kind :: reference :: first :: more := by
    rcases segments with _ | ⟨_, _ | ⟨_, _ | ⟨_, _ | ⟨_, _ | ⟨_, _⟩⟩⟩⟩⟩
    case cons.cons.cons.cons.cons => exact ⟨_, _, _, _, _, _, rfl⟩
    all_goals simp at hlength
  obtain rfl : kind = "blob".toList := Option.some.inj hkind
  obtain ⟨name, rfl, hname⟩ : ∃ name, host = .domain name ∧ (name = pageHost ∨ name = rawHost) := by
    rcases hhost with rfl | rfl
    · exact ⟨_, rfl, .inl rfl⟩
    · exact ⟨_, rfl, .inr rfl⟩
  have htext : "https://".toList ++ rawHost ++ "/".toList =
      "https://raw.githubusercontent.com/".toList := by decide
  change read? ("https://raw.githubusercontent.com/" ++
    List.intercalate ['/'] (owner :: repository :: reference :: first :: more)) toAscii? =
      _ at hread
  unfold rawFile
  simp only [hsegments, if_true]
  rw [if_pos hname, htext, hread, Option.getD_some]

lemma rawFile_of_not_isPage (hpage : ¬ IsPage host segments) (hne : segments ≠ [])
    (h : ∀ segment ∈ segments, Path.IsNormal segment) :
    rawFile (.web scheme userinfo host port ('/' :: List.intercalate ['/'] segments) suffix)
      toAscii? = .web scheme userinfo host port ('/' :: List.intercalate ['/'] segments) suffix := by
  have hsegments := pathSegments_eq hne h
  unfold rawFile
  cases host with
  | v4 address => rfl
  | v6 groups => rfl
  | domain name =>
    simp only [hsegments]
    split
    · next hname =>
      split
      · next owner repository kind reference first more =>
        split
        · next hkind =>
          subst hkind
          refine absurd ⟨?_, by simp, rfl⟩ hpage
          rcases hname with rfl | rfl
          · exact .inl rfl
          · exact .inr rfl
        · rfl
      · rfl
    · rfl

lemma parse_of_read? {input : Text} {url : Url}
    (hread : read? (Text.trimBlank input) toAscii? = some url)
    (hscheme : url.scheme = "http".toList ∨ url.scheme = "https".toList) :
    parse input toAscii? = .ok (.remote (rawFile url toAscii?)) := by
  have hfull : (Text.trimBlank input).isEmpty = false := by
    cases hinput : Text.trimBlank input with
    | nil =>
      rw [hinput] at hread
      cases hread
    | cons => rfl
  unfold parse
  simp only [hfull, hread]
  rw [if_neg Bool.false_ne_true, if_pos hscheme]

/-- **Pages stand for files.** What is read as an address of the web has a path of normal segments.
If it is the address of a page, the locator is the address of the file: the host of the files, and
the segments of the page in their order, without the third one, and nothing else. That address can
be read. In every other case the locator is what was read. All this holds whatever names of hosts
outside ASCII are mapped to. -/
theorem parse_page {toAscii? : Host.Mapping} {input : Text} {url : Url}
    (hread : read? (Text.trimBlank input) toAscii? = some url)
    (hscheme : url.scheme = "http".toList ∨ url.scheme = "https".toList) :
    ∃ scheme userinfo host port path suffix segments,
      url = .web scheme userinfo host port path suffix ∧ pathSegments path = segments ∧
      path = '/' :: List.intercalate ['/'] segments ∧
      (∀ segment ∈ segments, Path.IsNormal segment) ∧
      (IsPage host segments →
        parse input toAscii? = .ok (.remote (rawUrl (segments.eraseIdx 2))) ∧
        (remote (rawUrl (segments.eraseIdx 2))).display = rawAddress (segments.eraseIdx 2) ∧
        read? (rawAddress (segments.eraseIdx 2)) toAscii? = some (rawUrl (segments.eraseIdx 2))) ∧
      (¬ IsPage host segments → parse input toAscii? = .ok (.remote url)) := by
  obtain ⟨scheme, userinfo, host, port, segments, suffix, rfl, hne, hnormal⟩ :=
    exists_segments hread hscheme
  have hparse := parse_of_read? hread hscheme
  refine ⟨scheme, userinfo, host, port, _, suffix, segments, rfl, pathSegments_eq hne hnormal, rfl,
    hnormal, fun hpage => ⟨?_, render_rawUrl _, hpage.read?_eq hnormal⟩, fun hpage => ?_⟩
  · rw [hparse, hpage.rawFile_eq hnormal]
  · rw [hparse, rawFile_of_not_isPage hpage hne hnormal]

/-- The address of a page with all that an address can have, and with white space around it. The
host is in full width, the repository has no name, and of the segments after `blob` one is taken
away by another. -/
def crowdedPage : Text :=
  " http://me@\uFF27it\uFF28ub\u3002com:81/o//blob/m/../%7e/\u00e4?q#f\u3000"

/-- A path of the same kind on a host whose name is not in ASCII. -/
def elsewhere : Text := "http://B\u00fccher.example/o//blob/m/p?q"

theorem parse_page_crowded :
    (∃ url, parse crowdedPage = .ok (.remote url) ∧
      (remote url).display = "https://raw.githubusercontent.com/o//%7e/%C3%A4") ∧
    ∃ url, parse elsewhere = .ok (.remote url) ∧
      (remote url).display = "http://xn--bcher-kva.example/o//blob/m/p?q" := by
  have hpage : read? (Text.trimBlank crowdedPage) = some (.web "http" "me" (.domain "github.com")
      (some 81) "/o//blob/%7e/%C3%A4" ⟨some "q", some "f"⟩) := by decide +kernel
  have hother : read? (Text.trimBlank elsewhere) = some (.web "http" []
      (.domain "xn--bcher-kva.example") none "/o//blob/m/p" ⟨some "q", none⟩) := by decide +kernel
  constructor
  · obtain ⟨scheme, userinfo, host, port, path, suffix, segments, hurl, hsegments, -, -, hraw, -⟩ :=
      parse_page hpage (.inl rfl)
    obtain ⟨-, -, rfl, -, rfl, -⟩ := Url.web.inj hurl
    obtain rfl : segments = ["o".toList, [], "blob".toList, "%7e".toList, "%C3%A4".toList] :=
      hsegments.symm.trans (by rfl)
    obtain ⟨hparse, hdisplay, -⟩ := hraw ⟨.inl rfl, by decide, rfl⟩
    exact ⟨_, hparse, hdisplay.trans (by rfl)⟩
  · obtain ⟨scheme, userinfo, host, port, path, suffix, segments, hurl, -, -, -, -, hsame⟩ :=
      parse_page hother (.inl rfl)
    obtain ⟨-, -, rfl, -⟩ := Url.web.inj hurl
    refine ⟨_, hsame ?_, by rfl⟩
    rintro ⟨hhost, -, -⟩
    exact absurd hhost (by decide)

end Locator

end ClickGen
