import ClickGen.Template.Chain
import ClickGen.Template.Condition

/-!
Templates as trees, and the tags that begin their nodes.
-/

namespace ClickGen.Template

/-- How a loop is left before its end. -/
inductive Interrupt where
  | stop | next
  deriving DecidableEq

/-- What a loop runs over. -/
inductive Source where
  | items (e : Expr)
  /-- The whole numbers between two bounds, the bounds included. -/
  | range (first last : Expr)

/-- The head of a loop. -/
structure Loop where
  name : Text
  source : Source
  limit? : Option Expr := none
  offset? : Option Expr := none
  reversed : Bool := false
  /-- How many cells a row of a table has. -/
  columns? : Option Expr := none

inductive Node where
  | plain (t : Text)
  | output (chain : Chain)
  | assign (name : Text) (chain : Chain)
  | capture (name : Text) (body : List Node)
  | choose (condition : Condition) (body otherwise : List Node)
  | loop (head : Loop) (body otherwise : List Node)
  | table (head : Loop) (body : List Node)
  | ifChanged (body : List Node)
  | interrupt (i : Interrupt)
  /-- Prints the next of the values, counting uses under the same label. -/
  | cycle (label : Text) (values : List Expr)
  /-- Prints a counter and adds one to it. -/
  | increment (name : Text)
  /-- Takes one from a counter and prints it. -/
  | decrement (name : Text)
  /-- Another template, which there is none of. -/
  | partialTemplate

/-- Tags that begin a node. -/
inductive Tag where
  | assignTag | breakTag | captureTag | caseTag | commentTag | continueTag | cycleTag
  | decrementTag | forTag | ifTag | ifChangedTag | includeTag | incrementTag | rawTag | renderTag
  | tableTag | unlessTag
  deriving DecidableEq

namespace Tag

def table : List (Text × Tag) :=
  [("assign", assignTag), ("break", breakTag), ("capture", captureTag), ("case", caseTag),
    ("comment", commentTag), ("continue", continueTag), ("cycle", cycleTag),
    ("decrement", decrementTag), ("for", forTag), ("if", ifTag), ("ifchanged", ifChangedTag),
    ("include", includeTag), ("increment", incrementTag), ("raw", rawTag),
    ("render", renderTag), ("tablerow", tableTag), ("unless", unlessTag)]

end Tag

end ClickGen.Template
