import ClickGen.Text.Basic

/-!
Which fields get options. A field of an ignored type gets none, but is still listed as a column;
an ignored name leaves the field out of the options for one purpose only.
-/

namespace ClickGen

structure Policy where
  ignoredTypes : List Text := ["UniqueIdField"]
  /-- The name of an entry is not an option of creating it: it is given as an argument. -/
  ignoredCreateNames : List Text := ["name"]
  ignoredUpdateNames : List Text := []
  deriving DecidableEq

namespace Policy

def ignoresType (p : Policy) (type? : Option Text) : Bool := type?.any p.ignoredTypes.contains

def skipsCreate (p : Policy) (name : Text) : Bool := p.ignoredCreateNames.contains name

def skipsUpdate (p : Policy) (name : Text) : Bool := p.ignoredUpdateNames.contains name

end Policy

end ClickGen
