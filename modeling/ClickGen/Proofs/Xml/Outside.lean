import ClickGen.Proofs.Xml.Nesting
import Mathlib.Data.List.Induction

/-!
Character data outside of the root element.

A text before the root begins, or after it has ended, is always refused, and so is whatever stands
in an element after the root. The other kind of character data is not looked at where no element is
open: a document that has some there is read, or refused, as if it were left out.
-/

namespace ClickGen.Xml

namespace Event

/-- An event that opens an element, if only to close it at once. -/
def opens : Event → Bool
  | .start _ | .empty _ => true
  | _ => false

lemma counts_of_opens {e : Event} (h : e.opens) (depth : Nat) : e.counts depth := by
  cases e with
  | start | empty => rfl
  | close | text | cdata | comment | instruction | doctype => cases h

end Event

/-- How many elements are open after some events. -/
def depthOf (es : List Event) : Nat := es.foldl Event.depthAfter 0

/-- The events end outside of the root: it has not begun yet, or it has ended among them. -/
inductive EndsOutside : List Event → Prop where
  | before {es : List Event} (hnone : ∀ e ∈ es, ¬ e.opens) : EndsOutside es
  | after {root more : List Event} (hopens : ∃ e ∈ root, e.opens) (hended : depthOf root = 0) :
      EndsOutside (root ++ more)

lemma exists_opens {es : List Event} (h : depthOf es ≠ 0) : ∃ e ∈ es, e.opens := by
  induction es using List.reverseRecOn with
  | nil => exact absurd rfl h
  | append_singleton es e ih =>
    by_cases hbefore : depthOf es = 0
    · refine ⟨e, by simp, ?_⟩
      rw [depthOf, List.foldl_append, ← depthOf, hbefore] at h
      cases e with
      | start | empty => rfl
      | close | text | cdata | comment | instruction | doctype => exact absurd rfl h
    · obtain ⟨opening, hmem, hopens⟩ := ih hbefore
      exact ⟨opening, List.mem_append_left _ hmem, hopens⟩

lemma mem_significant {e : Event} {es : List Event} (hcounts : ∀ depth, e.counts depth)
    (he : e ∈ es) (depth : Nat) : e ∈ significant depth es := by
  induction es generalizing depth with
  | nil => cases he
  | cons d es ih =>
    rw [significant]
    rcases List.mem_cons.mp he with rfl | he
    · rw [if_pos (hcounts depth)]
      exact List.mem_cons_self
    · have hrest := ih he (d.depthAfter depth)
      split
      · exact List.mem_cons_of_mem d hrest
      · exact hrest

/-! ### What a complete root leaves room for -/

namespace Builder

lemma foldlM_length {b last : Builder} {es : List Event} (h : es.foldlM step b = .ok last) :
    last.stack.length = es.foldl Event.depthAfter b.stack.length := by
  induction es generalizing b with
  | nil =>
    obtain rfl : b = last := Except.ok.inj h
    rfl
  | cons e rest ih =>
    rw [List.foldlM_cons] at h
    obtain ⟨next, he, hrest⟩ := bind_eq_ok.mp h
    rw [ih hrest, step_length he, List.foldl_cons]

lemma stack_eq_nil {b : Builder} {es : List Event} (h : es.foldlM step {} = .ok b)
    (hdepth : depthOf es = 0) : b.stack = [] :=
  List.length_eq_zero_iff.mp ((foldlM_length h).trans hdepth)

lemma roots_pos {b : Builder} {es : List Event} (h : es.foldlM step {} = .ok b)
    (hopens : ∃ e ∈ es, e.opens) (hdepth : depthOf es = 0) : 0 < b.roots := by
  obtain ⟨nodes, hclosing, hroots⟩ := closing_of_foldlM h (stack_eq_nil h hdepth)
  rw [hroots, Nat.add_pos_iff_pos_or_pos, List.length_pos_iff]
  refine .inr ?_
  rintro rfl
  obtain ⟨e, he, hopen⟩ := hopens
  have hmem := mem_significant (Event.counts_of_opens hopen) he 0
  generalize hes : significant 0 es = left at hclosing hmem
  cases hclosing with
  | outside => cases hmem

lemma significant_eq_nil {b : Builder} {es : List Event} {t : Element}
    (h : es.foldlM step b = .ok ⟨[], some t⟩) (hstack : b.stack = []) (hroots : 0 < b.roots) :
    significant 0 es = [] := by
  obtain ⟨nodes, hclosing, hcount⟩ := closing_of_foldlM h rfl
  have hone : roots ⟨[], some t⟩ = 1 := rfl
  have hnone : nodes = [] := by
    rw [← List.length_eq_zero_iff]
    omega
  subst hnone
  rw [hstack, List.length_nil] at hclosing
  generalize hes : significant 0 es = left at hclosing
  cases hclosing with
  | outside => rfl

lemma not_text_and_depth {before rest : List Event} {e : Event} {t : Element}
    (h : (before ++ e :: rest).foldlM step {} = .ok ⟨[], some t⟩) (houtside : EndsOutside before) :
    (∀ raw, e ≠ .text raw) ∧ depthOf before = 0 := by
  cases houtside with
  | before hnone =>
    have hdepth : depthOf before = 0 := by
      by_contra hne
      obtain ⟨opening, hmem, hopens⟩ := exists_opens hne
      exact hnone opening hmem hopens
    refine ⟨?_, hdepth⟩
    rintro raw rfl
    rw [List.foldlM_append] at h
    obtain ⟨b, hbefore, h⟩ := bind_eq_ok.mp h
    rw [List.foldlM_cons] at h
    obtain ⟨next, hstep, -⟩ := bind_eq_ok.mp h
    obtain ⟨text, -, hstep⟩ := bind_eq_ok.mp hstep
    rw [stack_eq_nil hbefore hdepth] at hstep
    cases hstep
  | @after root more hopens hended =>
    rw [List.append_assoc, List.foldlM_append] at h
    obtain ⟨b, hroot, hmore⟩ := bind_eq_ok.mp h
    have hstack := stack_eq_nil hroot hended
    have hnothing := significant_eq_nil hmore hstack (roots_pos hroot hopens hended)
    have hfree : ∀ d ∈ more ++ e :: rest, ¬ ∀ depth, d.counts depth := by
      intro d hd hcounts
      have hmem := mem_significant hcounts hd 0
      rw [hnothing] at hmem
      cases hmem
    constructor
    · rintro raw rfl
      exact hfree (.text raw) (by simp) fun depth => rfl
    -- To be inside of something again, something would have to open it.
    · have hdepth : depthOf (root ++ more) = depthOf more := by
        rw [depthOf, List.foldl_append, ← depthOf, hended, ← depthOf]
      rw [hdepth]
      by_contra hne
      obtain ⟨opening, hmem, hopening⟩ := exists_opens hne
      exact hfree opening (List.mem_append_left _ hmem) (Event.counts_of_opens hopening)

end Builder

/-- The events without the character data that is not looked at, from inside `depth` open elements
on. -/
def withoutStray (depth : Nat) : List (Nat × Event) → List (Nat × Event)
  | [] => []
  | (position, .cdata raw) :: rest =>
    if depth = 0 then withoutStray depth rest
    else (position, .cdata raw) :: withoutStray depth rest
  | (position, e) :: rest => (position, e) :: withoutStray (e.depthAfter depth) rest

/-- The stream without the character data where no element is open. -/
def Stream.withoutStray (stream : Stream) : Stream :=
  { stream with events := Xml.withoutStray 0 stream.events }

lemma Builder.run_withoutStray (b : Builder) (marked : List (Nat × Event)) (ending : Ending) :
    b.run (withoutStray b.stack.length marked) ending = b.run marked ending := by
  induction marked generalizing b with
  | nil => rfl
  | cons entry rest ih =>
    obtain ⟨position, e⟩ := entry
    have hnext : ∀ next, b.step e = .ok next →
        next.run (withoutStray (e.depthAfter b.stack.length) rest) ending =
          next.run rest ending := fun next h => step_length h ▸ ih next
    have hkept : b.run ((position, e) :: withoutStray (e.depthAfter b.stack.length) rest) ending =
        b.run ((position, e) :: rest) ending := by
      rw [run, run]
      cases he : b.step e with
      | error fault => rfl
      | ok next => exact hnext next he
    cases e with
    | cdata raw =>
      rw [withoutStray]
      split
      · next hdepth =>
        have hsame : b.step (.cdata raw) = .ok b := step_of_counts_eq_false (by simp [hdepth,
          Event.counts])
        rw [run, hsame]
        exact ih b
      · exact hkept
    | start | empty | close | text | comment | instruction | doctype => exact hkept

end ClickGen.Xml

namespace ClickGen.Model

open Xml

/-- **Character data outside of the root**: a document is malformed if its events have a text there,
or anything at all in an element after the root. Character data of the other kind where no element
is open counts for nothing: what becomes of a document with some is what becomes of it without, down
to the fault and its position. -/
theorem readTree_outside (xml label : Text) :
    (∀ before e after, (Stream.ofText xml).events.map Prod.snd = before ++ e :: after →
        EndsOutside before → (∃ raw, e = .text raw) ∨ depthOf before ≠ 0 →
        ∃ message position,
          readTree xml label = .error (.malformed label message position (Text.byteSize xml))) ∧
      (Stream.ofText xml).tree = (Stream.ofText xml).withoutStray.tree := by
  constructor
  · intro before e after hevents houtside hrefused
    refine exists_malformed ?_
    rintro ⟨t, ht⟩
    obtain ⟨-, hfold⟩ := Builder.run_eq_ok.mp (readTree_eq_ok.mp ht)
    rw [hevents] at hfold
    obtain ⟨htext, hdepth⟩ := Builder.not_text_and_depth hfold houtside
    rcases hrefused with ⟨raw, rfl⟩ | hinside
    · exact htext raw rfl
    · exact hinside hdepth
  · exact (Builder.run_withoutStray {} (Stream.ofText xml).events _).symm

/-- A text behind the root, with other character data in front of it and of the root. -/
theorem readTree_outside_sample :
    (Stream.ofText "<![CDATA[y]]><a/>x").events.map Prod.snd =
        [.cdata "y", .empty ⟨"a", []⟩] ++ .text "x" :: [] ∧
      EndsOutside [.cdata "y", .empty ⟨"a", []⟩] ∧
      ∃ message position, readTree "<![CDATA[y]]><a/>x" "m" =
        .error (.malformed "m" message position (Text.byteSize "<![CDATA[y]]><a/>x")) := by
  have hevents : (Stream.ofText "<![CDATA[y]]><a/>x").events.map Prod.snd =
      [.cdata "y", .empty ⟨"a", []⟩] ++ .text "x" :: [] := by decide +kernel
  have houtside : EndsOutside ([.cdata "y", .empty ⟨"a", []⟩] ++ []) :=
    .after ⟨.empty ⟨"a", []⟩, by simp, rfl⟩ rfl
  refine ⟨hevents, houtside, ?_⟩
  exact (readTree_outside "<![CDATA[y]]><a/>x" "m").1 _ _ _ hevents houtside (.inl ⟨_, rfl⟩)

theorem not_forall_outside_malformed :
    ¬ ∀ (xml label : Text) (before : List Event) (e : Event) (after : List Event),
      (Stream.ofText xml).events.map Prod.snd = before ++ e :: after → EndsOutside before →
        (∃ raw, e = .text raw) ∨ (∃ raw, e = .cdata raw) →
        ∃ message position,
          readTree xml label = .error (.malformed label message position (Text.byteSize xml)) := by
  intro h
  have hread : readTree "<![CDATA[x]]><a/>" "m" = .ok { name := "a" } := by decide +kernel
  obtain ⟨message, position, herror⟩ := h "<![CDATA[x]]><a/>" "m" [] (.cdata "x")
    [.empty ⟨"a", []⟩] (by decide +kernel) (.before (by simp)) (.inr ⟨_, rfl⟩)
  rw [hread] at herror
  cases herror

end ClickGen.Model
