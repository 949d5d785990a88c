import ClickGen.Proofs.Url.RawFile

/-!
The address of a file, read once more.

What is shown for a remote locator is a URL in normal form, so it is read again as the URL that the
locator has; of the mapping of names of hosts this needs that it leaves its own results alone. Only pages are changed by that: a URL stays as it is if and only if it is no page. The
address of a file is no page unless the segment behind `blob` was `blob` too, and then the file is
taken for a page of its own. Main statement: a locator is read again from what is shown for it
except in this case, in which the second `blob` is taken away like the first.
-/

namespace ClickGen.Locator

open Url

variable {toAscii? : Host.Mapping} {scheme userinfo : Text} {host : Host} {port : Option Nat}
  {segments : List Text} {suffix : Suffix} {url : Url}

lemma IsPage.eraseIdx_ne (h : IsPage host segments) : segments.eraseIdx 2 ≠ segments := by
  intro heq
  have hlength := h.length
  have herase := List.length_eraseIdx_of_lt (show 2 < segments.length by omega)
  rw [heq] at herase
  omega

lemma rawFile_eq_self_iff (hne : segments ≠ [])
    (h : ∀ segment ∈ segments, Path.IsNormal segment) :
    rawFile (.web scheme userinfo host port ('/' :: List.intercalate ['/'] segments) suffix)
      toAscii? = .web scheme userinfo host port ('/' :: List.intercalate ['/'] segments) suffix ↔
      ¬ IsPage host segments := by
  refine ⟨fun heq hpage => ?_, fun hpage => rawFile_of_not_isPage hpage hne h⟩
  rw [hpage.rawFile_eq h] at heq
  obtain ⟨-, -, -, -, hpath, -⟩ := Url.web.inj heq
  have hsegments := congrArg pathSegments hpath
  obtain ⟨hne', h'⟩ := hpage.segments_eraseIdx h
  rw [pathSegments_eq hne' h', pathSegments_eq hne h] at hsegments
  exact hpage.eraseIdx_ne hsegments

/-- A page whose segment behind `blob` is `blob` again, with enough segments for a page without
one of the two. -/
structure IsTwofold (host : Host) (segments : List Text) : Prop where
  page : IsPage host segments
  length : 6 ≤ segments.length
  kind : segments[3]? = some "blob".toList

lemma IsPage.isPage_eraseIdx_iff (h : IsPage host segments) :
    IsPage (.domain "raw.githubusercontent.com") (segments.eraseIdx 2) ↔
      IsTwofold host segments := by
  have hlength := h.length
  have herase := List.length_eraseIdx_of_lt (show 2 < segments.length by omega)
  have hkind : (segments.eraseIdx 2)[2]? = segments[3]? :=
    List.getElem?_eraseIdx_of_ge (Nat.le_refl 2)
  constructor
  · rintro ⟨-, hlong, hagain⟩
    exact ⟨h, by omega, hkind ▸ hagain⟩
  · rintro ⟨-, hlong, hagain⟩
    exact ⟨.inr rfl, by omega, hkind.trans hagain⟩

/-! ### Reading what is shown -/

lemma parse_display_of_isNormal (h : url.IsNormal toAscii?)
    (hscheme : url.scheme = "http".toList ∨ url.scheme = "https".toList) :
    parse (remote url).display toAscii? = .ok (.remote (rawFile url toAscii?)) := by
  refine parse_of_read? ?_ hscheme
  rw [display, trimBlank_eq_self fun c hc => h.isVisible hc, h.read?_render]

/-- **Reading again.** What is read as an address of the web gives a remote locator, and what is
shown for it gives one again. The two are the same if and only if the address was not that of a page
with `blob` in its third and fourth segment and two more behind them. From the address of such a
page, the first `blob` is taken away by reading it and the second by reading what is shown. What is
no page at all is left alone. -/
theorem parse_display (hmap : Host.IsMapping toAscii?) {input : Text}
    (hread : read? (Text.trimBlank input) toAscii? = some url)
    (hscheme : url.scheme = "http".toList ∨ url.scheme = "https".toList) :
    ∃ scheme userinfo host port path suffix segments,
      url = .web scheme userinfo host port path suffix ∧ pathSegments path = segments ∧
      parse input toAscii? = .ok (.remote (rawFile url toAscii?)) ∧
      (rawFile url toAscii? = url ↔ ¬ IsPage host segments) ∧
      parse (remote (rawFile url toAscii?)).display toAscii? =
        .ok (.remote (rawFile (rawFile url toAscii?) toAscii?)) ∧
      (rawFile (rawFile url toAscii?) toAscii? = rawFile url toAscii? ↔
        ¬ IsTwofold host segments) ∧
      (IsTwofold host segments →
        rawFile (rawFile url toAscii?) toAscii? =
          rawUrl ((segments.eraseIdx 2).eraseIdx 2)) := by
  have hnormal := isNormal_of_read? hmap hread hscheme
  have hparse := parse_of_read? hread hscheme
  obtain ⟨scheme, userinfo, host, port, segments, suffix, rfl, hne, hsegments⟩ :=
    exists_segments hread hscheme
  refine ⟨scheme, userinfo, host, port, _, suffix, segments, rfl, pathSegments_eq hne hsegments,
    hparse, rawFile_eq_self_iff hne hsegments, ?_⟩
  by_cases hpage : IsPage host segments
  · obtain ⟨hne', hsegments'⟩ := hpage.segments_eraseIdx hsegments
    have hstays : rawFile (rawUrl (segments.eraseIdx 2)) toAscii? =
        rawUrl (segments.eraseIdx 2) ↔
          ¬ IsPage (.domain "raw.githubusercontent.com") (segments.eraseIdx 2) :=
      rawFile_eq_self_iff hne' hsegments'
    rw [hpage.rawFile_eq hsegments]
    refine ⟨parse_display_of_isNormal (isNormal_rawUrl hne' hsegments') (.inr rfl),
      hstays.trans (not_congr hpage.isPage_eraseIdx_iff), fun htwofold => ?_⟩
    exact (hpage.isPage_eraseIdx_iff.mpr htwofold).rawFile_eq hsegments'
  · have hstays := parse_display_of_isNormal hnormal hscheme
    rw [rawFile_of_not_isPage hpage hne hsegments] at hstays ⊢
    rw [rawFile_of_not_isPage hpage hne hsegments]
    exact ⟨hstays, iff_of_true rfl fun htwofold => hpage htwofold.page,
      fun htwofold => absurd htwofold.page hpage⟩

/-- The address of a page with `blob` in two segments, and with enough of them behind. -/
def twofoldPage : Text := " https://me@GitHub.com/o/r/blob/blob/a/./b?q"

/-- With a segment less, the address of the file is too short for that of a page. -/
def shortPage : Text := "https://github.com/o/r/blob/blob/a"

theorem parse_display_twofold :
    (∃ url again, parse twofoldPage = .ok (.remote url) ∧
      (remote url).display = "https://raw.githubusercontent.com/o/r/blob/a/b" ∧
      parse (remote url).display = .ok (.remote again) ∧
      (remote again).display = "https://raw.githubusercontent.com/o/r/a/b") ∧
    (∃ url, parse shortPage = .ok (.remote url) ∧
      (remote url).display = "https://raw.githubusercontent.com/o/r/blob/a" ∧
      parse (remote url).display = .ok (.remote url)) ∧
    ∃ url, parse elsewhere = .ok (.remote url) ∧
      (remote url).display = "http://xn--bcher-kva.example/o//blob/m/p?q" ∧
      parse (remote url).display = .ok (.remote url) := by
  have htwofold : read? (Text.trimBlank twofoldPage) = some (.web "https" "me"
      (.domain "github.com") none "/o/r/blob/blob/a/b" ⟨some "q", none⟩) := by decide +kernel
  have hshort : read? (Text.trimBlank shortPage) = some (.web "https" [] (.domain "github.com")
      none "/o/r/blob/blob/a" {}) := by decide +kernel
  have helse : read? (Text.trimBlank elsewhere) = some (.web "http" []
      (.domain "xn--bcher-kva.example") none "/o//blob/m/p" ⟨some "q", none⟩) := by decide +kernel
  refine ⟨?_, ?_, ?_⟩
  · obtain ⟨scheme, userinfo, host, port, path, suffix, segments, hurl, hsegments, hparse, -,
      hagain, -, hraw⟩ := parse_display Host.isMapping_lettersToAscii? htwofold (.inr rfl)
    obtain ⟨-, -, rfl, -, rfl, -⟩ := Url.web.inj hurl
    obtain rfl : segments = ["o".toList, "r".toList, "blob".toList, "blob".toList, "a".toList,
      "b".toList] := hsegments.symm.trans (by rfl)
    rw [hraw ⟨⟨.inl rfl, by decide, rfl⟩, by decide, rfl⟩] at hagain
    exact ⟨_, _, hparse, by decide +kernel, hagain, by decide +kernel⟩
  · obtain ⟨scheme, userinfo, host, port, path, suffix, segments, hurl, hsegments, hparse, -,
      hagain, hstays, -⟩ := parse_display Host.isMapping_lettersToAscii? hshort (.inr rfl)
    obtain ⟨-, -, rfl, -, rfl, -⟩ := Url.web.inj hurl
    obtain rfl : segments = ["o".toList, "r".toList, "blob".toList, "blob".toList, "a".toList] :=
      hsegments.symm.trans (by rfl)
    have hlength : ¬ IsTwofold (.domain "github.com")
        ["o".toList, "r".toList, "blob".toList, "blob".toList, "a".toList] :=
      fun h => absurd h.length (by decide)
    rw [hstays.mpr hlength] at hagain
    exact ⟨_, hparse, by decide +kernel, hagain⟩
  · obtain ⟨scheme, userinfo, host, port, path, suffix, segments, hurl, -, hparse, hsame,
      hagain, -⟩ := parse_display Host.isMapping_lettersToAscii? helse (.inl rfl)
    obtain ⟨-, -, rfl, -⟩ := Url.web.inj hurl
    have hpage : ¬ IsPage (.domain "xn--bcher-kva.example") segments :=
      fun h => absurd h.host (by decide)
    rw [hsame.mpr hpage] at hparse hagain
    rw [hsame.mpr hpage] at hagain
    exact ⟨_, hparse, by decide +kernel, hagain⟩

/-- What is shown for a remote locator can be read as another one. -/
theorem not_forall_parse_display : ¬ ∀ (input : Text) (url : Url),
    read? (Text.trimBlank input) = some url →
    url.scheme = "http".toList ∨ url.scheme = "https".toList →
    ∀ locator, parse input = .ok locator → parse locator.display = .ok locator := by
  intro h
  have hread : read? (Text.trimBlank "https://github.com/o/r/blob/blob/a/b") = some (.web "https" []
      (.domain "github.com") none "/o/r/blob/blob/a/b" {}) := by decide +kernel
  have hparse : parse "https://github.com/o/r/blob/blob/a/b" = .ok (.remote (rawUrl
      ["o".toList, "r".toList, "blob".toList, "a".toList, "b".toList])) := by rfl
  have hagain : parse (remote (rawUrl
      ["o".toList, "r".toList, "blob".toList, "a".toList, "b".toList])).display =
      .ok (.remote (rawUrl ["o".toList, "r".toList, "a".toList, "b".toList])) := by rfl
  have hsame := h _ _ hread (.inr rfl) _ hparse
  rw [hagain] at hsame
  exact absurd (Locator.remote.inj (Except.ok.inj hsame)) (by decide)

end ClickGen.Locator
