import ClickGen.Template.Render

/-!
Templates, read from text and rendered with variables. A text that is no template is refused as
a whole, and so is a template that asks for a value that is not there.
-/

namespace ClickGen

structure Template where
  nodes : List Template.Node

namespace Template

/-- Reads a template. Every piece of the text costs the reader at most three steps. -/
def parse? (source : Text) : Option Template :=
  let pieces := Piece.ofText source
  (readNodes (3 * pieces.length + 3) [] pieces).result?.map fun b => ⟨b.nodes⟩

/-- The text that a template gives with variables, which have whole numbers of 64 bits only. -/
def render? (t : Template) (globals : Frame) : Option Text :=
  if Value.fieldsHeld globals then (renderAll globals [] t.nodes {}).map (·.1) else none

end Template

end ClickGen
