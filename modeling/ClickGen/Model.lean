import ClickGen.Locator
import ClickGen.Xml.Tree

/-!
Model documents: an element tree and where it came from. The fields of a command are the
children of the first element with the tag that is asked for.
-/

namespace ClickGen

structure Model where
  locator : Locator
  root : Element
  deriving DecidableEq

namespace Model

/-- Reads the text of a document; `label` names it in messages. -/
def readTree (xml label : Text) : Except Failure Element :=
  (Xml.parse xml).mapError fun m =>
    .malformed label m.fault.message m.position (Text.byteSize xml)

def parse (xml : Text) (locator : Locator) : Except Failure Model := do
  let root ← readTree xml locator.display
  return ⟨locator, root⟩

def load (files : FileTree) (web : Web := .offline) (locator : Locator) :
    Except Failure Model := do
  let xml ← locator.fetch files web
  parse xml locator

/-- The first element with the tag. -/
def resolve (m : Model) (tag : Text) : Except Failure Element :=
  match m.root.find? tag with
  | some e => .ok e
  | none => .error (.notFound tag m.locator.display)

end Model

/-- The element with the tag in the document that a locator leads to. -/
def resolve (files : FileTree) (locator tag : Text) (web : Web := .offline) :
    Except Failure Element := do
  let model ← Model.load files web (← Locator.parse locator)
  model.resolve tag

end ClickGen
