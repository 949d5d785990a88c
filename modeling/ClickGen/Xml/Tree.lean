import ClickGen.Xml.Event

/-!
The element tree of a stream of events. Text and character data go to the innermost open
element; comments, instructions and the document type are left out; there is one root.
-/

namespace ClickGen.Xml

/-- A fault in an XML text and the byte it is reported at. -/
structure Malformed where
  fault : Fault
  position : Nat
  deriving DecidableEq

/-- Elements under construction, innermost first, and the root once it is complete. -/
structure Builder where
  stack : List Element := []
  root : Option Element := none

namespace Builder

/-- Puts a complete element where it belongs: into the innermost open one, or as the root. -/
def attach (b : Builder) (e : Element) : Except Fault Builder :=
  match b.stack with
  | parent :: outer => .ok { b with stack := parent.addChild e :: outer }
  | [] =>
    match b.root with
    | none => .ok { b with root := some e }
    | some _ => .error (.secondRoot e.name)

def step (b : Builder) : Event → Except Fault Builder
  | .start tag => do
    let e ← tag.element
    return { b with stack := e :: b.stack }
  | .empty tag => do
    let e ← tag.element
    b.attach e
  | .close name =>
    match b.stack with
    | e :: outer => { b with stack := outer }.attach e
    | [] => .error (.strayEnd name)
  | .text raw => do
    let text ← (expand raw).mapError Fault.reference
    match b.stack with
    | e :: outer => return { b with stack := e.addText text :: outer }
    | [] => throw .strayText
  | .cdata raw =>
    match b.stack with
    | e :: outer => .ok { b with stack := e.addText raw :: outer }
    | [] => .ok b
  | .comment | .instruction | .doctype => .ok b

/-- The tree when the whole text has been read. -/
def close (b : Builder) : Ending → Except Malformed Element
  | .fault fault position => .error ⟨fault, position⟩
  | .finished position =>
    match b.stack, b.root with
    | e :: _, _ => .error ⟨.unclosed e.name, position⟩
    | [], some root => .ok root
    | [], none => .error ⟨.noRoot, 0⟩

def run (b : Builder) : List (Nat × Event) → Ending → Except Malformed Element
  | [], ending => b.close ending
  | (position, e) :: rest, ending =>
    match b.step e with
    | .ok next => run next rest ending
    | .error fault => .error ⟨fault, position⟩

end Builder

/-- The tree that a stream of events describes. -/
def Stream.tree (stream : Stream) : Except Malformed Element :=
  Builder.run {} stream.events stream.ending

/-- Reads an XML text as an element tree. -/
def parse (xml : Text) : Except Malformed Element := (Stream.ofText xml).tree

end ClickGen.Xml
