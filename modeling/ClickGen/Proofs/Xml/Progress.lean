import ClickGen.Proofs.Xml.Loop

/-!
How far a parser gets, and where it says that it is.

A reader can be a bracket ahead of the position that it reports, and a fault can set it back over
the content of a tag. Main statement: all the same each turn of the loop reads on, the positions in
front of the turns never fall back, nothing is ever taken back that has not been read, and every
error is reported at a place of the text.
-/

namespace ClickGen.Xml

namespace Scanner

variable {s next : Scanner} {c : Char} {e : Event}

/-- The scan has read what it can give back. -/
def Covers (s : Scanner) : Prop := s.mode.unread ≤ s.offset

lemma Takes.covers_going (h : s.Takes c (.going next)) (hs : s.Covers) : next.Covers := by
  unfold Covers at hs ⊢
  cases h with
  | going hmode =>
    simp only
    omega
  | ends hends => cases hends

lemma Takes.covers_event (h : s.Takes c (.event e next)) :
    next.Covers ∧ next.offset = s.offset + c.utf8Size := by
  have hpos := Char.utf8Size_pos c
  cases h with
  | text => exact ⟨Nat.le_add_left_of_le hpos, rfl⟩
  | ends hends =>
    cases hends with
    | event => exact ⟨Nat.zero_le _, rfl⟩

lemma covers_advance {p : Text} {marked : List (Nat × Event)} (hs : s.Covers)
    (h : s.advance p = some (marked, next)) :
    next.Covers ∧ next.offset = s.offset + Text.byteSize p := by
  induction p generalizing s marked with
  | nil =>
    obtain ⟨-, rfl⟩ : [] = marked ∧ s = next := by simpa [advance] using h
    exact ⟨hs, rfl⟩
  | cons c p ih =>
    have hstep := takes_step s c
    rw [advance] at h
    rw [Text.byteSize_cons, ← Nat.add_assoc]
    generalize s.step c = step at h hstep
    cases step with
    | going between =>
      obtain ⟨hoffset, -⟩ := hstep.of_going
      exact hoffset ▸ ih (hstep.covers_going hs) h
    | event e between =>
      obtain ⟨⟨more, last⟩, hmore, heq⟩ := Option.map_eq_some_iff.mp h
      obtain ⟨-, rfl⟩ : (s.mark, e) :: more = marked ∧ last = next := by simpa using heq
      obtain ⟨hcovers, hoffset⟩ := hstep.covers_event
      exact hoffset ▸ ih hcovers hmore
    | fault fault position => cases h

end Scanner

/-! ### From turn to turn -/

/-- Between two events the reader has read on, and its position does not fall back. -/
structure Scanner.Advances (s : Scanner) (v : Text) (next : Scanner) (rest : Text) : Prop where
  exists_taken : ∃ taken, taken ≠ [] ∧ v = taken ++ rest ∧
    next.offset = s.offset + Text.byteSize taken
  offset_lt : s.offset < next.offset
  mark_le : s.mark ≤ next.mark

structure Loop.IsPlaced (size : Nat) (l : Loop) : Prop where
  atRest : l.scanner.AtRest
  offset : l.scanner.offset + Text.byteSize l.rest = size

lemma byteSize_pos {taken : Text} (h : taken ≠ []) : 0 < Text.byteSize taken := by
  obtain ⟨c, rest, rfl⟩ := List.exists_cons_of_ne_nil h
  have hpos := Char.utf8Size_pos c
  rw [Text.byteSize_cons]
  omega

lemma Scanner.advances_of_read {s next : Scanner} {v rest : Text} {e : Event} (hs : s.AtRest)
    (h : s.read v = .event e next rest) : s.Advances v next rest := by
  obtain ⟨taken, hne, hrest, hreads⟩ := exists_reads hs h
  have hoffset := hreads.offset
  have htaken := byteSize_pos hne
  exact ⟨⟨taken, hne, hrest, hoffset⟩, by omega, hreads.mark⟩

namespace Loop

variable {l next : Loop} {size : Nat}

lemma IsPlaced.of_goes (hl : l.IsPlaced size) (h : l.turn = .goes next) :
    next.IsPlaced size := by
  obtain ⟨e, taken, -, hrest, hreads, -⟩ := reads_of_goes hl.atRest h
  have hoffset := hreads.offset
  have hsize := hl.offset
  rw [hrest, Text.byteSize_append] at hsize
  exact ⟨hreads.atRest, by omega⟩

lemma isPlaced_start (xml : Text) : (start xml).IsPlaced (Text.byteSize (withoutMark xml)) :=
  ⟨atRest_start xml, Nat.zero_add _⟩

end Loop

lemma Turns.isChain_mark {l : Loop} {states : List Loop} {result : Except Malformed Element}
    (h : Turns l states result) (hl : l.scanner.AtRest) :
    states.IsChain fun l next => l.scanner.mark ≤ next.scanner.mark := by
  induction h with
  | ends => exact .singleton _
  | goes hturn hlater ih =>
    obtain ⟨e, taken, -, -, hreads, -⟩ := Loop.reads_of_goes hl hturn
    have hchain := ih hreads.atRest
    cases hlater <;> exact .cons_cons hreads.mark hchain

lemma byteSize_withoutMark_le (xml : Text) :
    Text.byteSize (withoutMark xml) ≤ Text.byteSize xml := by
  unfold withoutMark
  split
  · exact Nat.le_add_left _ _
  · exact le_rfl

end ClickGen.Xml

namespace ClickGen.Model

open Xml

/-- **Progress.** The loop of the parser comes to an end after at most one turn for each character
and one for the end of the text. The positions in front of the turns never fall back; the reader
stands there, or one byte further behind a text, and whatever event it gives takes at least one
character more. Wherever the reader stands in the text, what it can give back it has read.
An error is reported at no more than the number of bytes of the text, and its label begins there. -/
theorem turns_advance (xml label : Text) :
    (∃ states, Turns (.start xml) states (Xml.parse xml)) ∧
      (∀ states result, Turns (.start xml) states result →
        states.length ≤ (withoutMark xml).length + 1 ∧
          (states.IsChain fun l next => l.scanner.mark ≤ next.scanner.mark) ∧
          ∀ l ∈ states, l.IsPlaced (Text.byteSize (withoutMark xml)) ∧
            ∀ e next rest, l.scanner.read l.rest = .event e next rest →
              l.scanner.Advances l.rest next rest) ∧
      (∀ p marked s, p <+: withoutMark xml → Scanner.advance {} p = some (marked, s) →
        s.offset = Text.byteSize p ∧ s.mode.unread ≤ s.offset) ∧
      ∀ failure, readTree xml label = .error failure → ∃ message position,
        failure = .malformed label message position (Text.byteSize xml) ∧
        position ≤ Text.byteSize xml ∧ failure.label?.map (·.start) = some position := by
  refine ⟨exists_turns_parse xml, ?_, ?_, ?_⟩
  · intro states result hturns
    have hrest := Loop.atRest_start xml
    have hplaced := hturns.forall_of_goes (Loop.isPlaced_start xml)
      fun l next hl hturn => hl.of_goes hturn
    refine ⟨hturns.length_le hrest, hturns.isChain_mark hrest, fun l hl => ⟨hplaced l hl, ?_⟩⟩
    exact fun e next rest hread => Scanner.advances_of_read (hplaced l hl).atRest hread
  · intro p marked s _ hadvance
    have hstart : Scanner.Covers {} := Nat.zero_le _
    obtain ⟨hcovers, hoffset⟩ := Scanner.covers_advance hstart hadvance
    exact ⟨hoffset.trans (Nat.zero_add _), hcovers⟩
  · intro failure hfailure
    cases hparse : Xml.parse xml with
    | ok t =>
      rw [readTree, hparse] at hfailure
      cases hfailure
    | error m =>
      rw [readTree_eq_error hparse] at hfailure
      obtain rfl := Except.error.inj hfailure
      have hposition : m.position ≤ Text.byteSize xml :=
        (position_le_byteSize hparse).trans (byteSize_withoutMark_le xml)
      refine ⟨_, m.position, rfl, hposition, ?_⟩
      rw [Failure.label?, Option.map_some, Nat.min_eq_left hposition]

/-- A mark in front, a character of two bytes, and an end tag that is set back. -/
def mismatched : Text := '\uFEFF' :: "<a>é</b>".toList

theorem turns_advance_mismatched :
    (∃ first second third : Loop,
      Turns (.start mismatched) [first, second, third] (.error ⟨.mismatchedEnd "a" "b", 7⟩) ∧
        third.scanner.mark = 5 ∧ third.scanner.offset = 6 ∧
        second.scanner.mark ≤ third.scanner.mark ∧
        second.scanner.Advances second.rest third.scanner third.rest) ∧
      (∃ marked s, Scanner.advance {} "<a>é</b" = some (marked, s) ∧ s.mode = .closing ['b'] ∧
        s.mode.unread ≤ s.offset) ∧
      ∃ failure, readTree mismatched "m" = .error failure ∧
        failure.label?.map (·.start) = some 7 := by
  obtain ⟨-, hstates, hplaces, hfailures⟩ := turns_advance mismatched "m"
  refine ⟨?_, ?_, ?_⟩
  · obtain ⟨first, second, third, hturns, hmark, hoffset, hread⟩ :
        ∃ first second third : Loop,
          Turns (.start mismatched) [first, second, third] (.error ⟨.mismatchedEnd "a" "b", 7⟩) ∧
            third.scanner.mark = 5 ∧ third.scanner.offset = 6 ∧
            second.scanner.read second.rest = .event (.text "é") third.scanner third.rest :=
      ⟨_, _, _, .goes rfl (.goes rfl (.ends rfl)), rfl, rfl, rfl⟩
    obtain ⟨-, hchain, hall⟩ := hstates _ _ hturns
    obtain ⟨-, hlast⟩ := List.isChain_cons_cons.mp hchain
    obtain ⟨hle, -⟩ := List.isChain_cons_cons.mp hlast
    obtain ⟨-, hadvances⟩ := hall second (by simp)
    exact ⟨first, second, third, hturns, hmark, hoffset, hle, hadvances _ _ _ hread⟩
  · have hprefix : ("<a>é</b" : Text) <+: withoutMark mismatched := ⟨['>'], rfl⟩
    obtain ⟨marked, s, hadvance, hmode⟩ :
        ∃ marked s, Scanner.advance {} "<a>é</b" = some (marked, s) ∧ s.mode = .closing ['b'] :=
      ⟨_, _, rfl, rfl⟩
    obtain ⟨-, hunread⟩ := hplaces _ _ _ hprefix hadvance
    exact ⟨marked, s, hadvance, hmode, hunread⟩
  · have hread : readTree mismatched "m" =
        .error (.malformed "m" (Fault.mismatchedEnd "a" "b").message 7 12) := by rfl
    obtain ⟨message, position, hfailure, -, hlabel⟩ := hfailures _ hread
    obtain ⟨-, -, rfl, -⟩ := Failure.malformed.inj hfailure
    exact ⟨_, hread, hlabel⟩

end ClickGen.Model
