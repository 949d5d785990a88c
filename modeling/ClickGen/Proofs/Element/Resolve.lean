import ClickGen.Model
import ClickGen.Proofs.Element.Preorder
import ClickGen.Proofs.Except

/-!
What a tag stands for.

A tag is looked for in a whole document, and more than one element may have it. Main statement: it
stands for the first of them in document order, with all that is in it, and it cannot be resolved
exactly when no element anywhere has it.
-/

namespace ClickGen

namespace Model

variable {m : Model} {tag : Text}

lemma resolve_eq_ok {e : Element} : m.resolve tag = .ok e ↔ m.root.IsFirst tag e := by
  rw [← Element.find?_eq_some_iff, resolve]
  cases m.root.find? tag <;> simp

lemma resolve_eq_error {failure : Failure} : m.resolve tag = .error failure ↔
    failure = .notFound tag m.locator.display ∧ ∀ x, Element.IsIn x m.root → x.name ≠ tag := by
  rw [← Element.find?_eq_none_iff, resolve]
  cases m.root.find? tag <;> simp [eq_comm]

/-- **What a tag stands for.** In any tree, what is found is the first element with the name in
document order, and nothing is found exactly when no element anywhere has it. So in a document that
can be read, whether it is at hand or has to be fetched first, a tag is resolved to that element,
and exactly when there is none the failure says so, with the tag and the place of the document. -/
theorem resolve_first (root : Element) (tag : Text) :
    (∀ e, root.find? tag = some e ↔ root.IsFirst tag e) ∧
      (root.find? tag = none ↔ ∀ x, Element.IsIn x root → x.name ≠ tag) ∧
      ∀ (xml : Text) (locator : Locator), readTree xml locator.display = .ok root →
        ∃ m, parse xml locator = .ok m ∧ m.root = root ∧
          (∀ e, m.resolve tag = .ok e ↔ root.IsFirst tag e) ∧
          (∀ failure, m.resolve tag = .error failure ↔
            failure = .notFound tag locator.display ∧
              ∀ x, Element.IsIn x root → x.name ≠ tag) ∧
          ∀ (files : FileTree) (web : Web) (address : Text), Locator.parse address = .ok locator →
            locator.fetch files web = .ok xml →
            ClickGen.resolve files address tag web = m.resolve tag := by
  refine ⟨fun e => Element.find?_eq_some_iff, Element.find?_eq_none_iff, ?_⟩
  intro xml locator hroot
  have hparse : parse xml locator = .ok ⟨locator, root⟩ := bind_eq_ok.mpr ⟨root, hroot, rfl⟩
  refine ⟨⟨locator, root⟩, hparse, rfl, fun e => resolve_eq_ok, fun failure => resolve_eq_error, ?_⟩
  intro files web address haddress hxml
  have hload : load files web locator = .ok ⟨locator, root⟩ := bind_eq_ok.mpr ⟨xml, hxml, hparse⟩
  rw [ClickGen.resolve, haddress, ok_bind, hload, ok_bind]

/-- The first element with the name stands deeper than the second one, and has a child. -/
def nested : Element :=
  { name := "a", children :=
      [{ name := "b", children := [{ name := "c", children := [{ name := "d" }] }] },
        { name := "c" }] }

def nestedXml : Text := "<a><b><c><d/></c></b><c/></a>"

def nestedFiles : FileTree where
  entries := [([Text.toUtf8 "m"], .file (Text.toUtf8 nestedXml))]

theorem resolve_first_nested : readTree nestedXml "m" = .ok nested ∧
    ClickGen.resolve nestedFiles "m" "c" = .ok { name := "c", children := [{ name := "d" }] } ∧
    ∃ m, parse nestedXml (.onDisk (Text.toUtf8 "m")) = .ok m ∧
      m.resolve "C" = .error (.notFound "C" "m") := by
  have hread : readTree nestedXml "m" = .ok nested := by rfl
  have hplace : Locator.parse "m" = .ok (.onDisk (Text.toUtf8 "m")) := by rfl
  have hfile : (Locator.onDisk (Text.toUtf8 "m")).fetch nestedFiles .offline = .ok nestedXml := by
    rfl
  obtain ⟨hsome, -, hfirst⟩ := resolve_first nested "c"
  obtain ⟨-, hnone, hmissing⟩ := resolve_first nested "C"
  obtain ⟨m, -, -, hok, -, hresolve⟩ := hfirst nestedXml (.onDisk (Text.toUtf8 "m")) hread
  obtain ⟨m', hparse', -, -, herror, -⟩ := hmissing nestedXml (.onDisk (Text.toUtf8 "m")) hread
  refine ⟨hread, ?_, m', hparse', (herror _).mpr ⟨rfl, hnone.mp rfl⟩⟩
  rw [hresolve nestedFiles .offline "m" hplace hfile, hok]
  exact (hsome _).mp rfl

end Model

end ClickGen
