import ClickGen.Element

/-!
Fields of a model: what kind of option a field becomes, and the properties of it that the model
declares in the children of the field's element.
-/

namespace ClickGen

/-- What kind of option a field becomes. -/
inductive Kind where
  /-- On or off. -/
  | flag
  /-- Free text. -/
  | text
  /-- A whole number, possibly bounded. -/
  | integer
  /-- A decimal number, possibly bounded. -/
  | float
  /-- One or several of the listed values. -/
  | choice
  /-- Free values, separated by commas. -/
  | list
  /-- A type not known here, passed on as text. -/
  | other
  deriving DecidableEq

namespace Kind

def table : List (Text × Kind) :=
  [("BooleanField", flag), ("TextField", text), ("HostnameField", text), ("NetworkField", text),
    ("EmailField", text), ("UrlField", text), ("DescriptionField", text), ("IPPortField", text),
    ("MacAddressField", text), ("IntegerField", integer), ("PortField", integer),
    ("NumericField", float), ("OptionField", choice), ("CSVListField", list)]

/-- The kind for a declared type. -/
def ofType? (type? : Option Text) : Kind :=
  match type? with
  | some type => (table.lookup type).getD other
  | none => other

def label : Kind → Text
  | flag => "Flag"
  | text => "Text"
  | integer => "Integer"
  | float => "Float"
  | choice => "Choice"
  | list => "List"
  | other => "Opaque"

end Kind

/-- The declared properties of a field; texts are never empty here. -/
structure Props where
  type? : Option Text := none
  default? : Option Text := none
  required : Bool := false
  multiple : Bool := false
  minimum? : Option Text := none
  maximum? : Option Text := none
  /-- The values to choose from, in document order. -/
  choices : List Text := []
  deriving DecidableEq

namespace Props

/-- The text of a child, unless it is blank. -/
def textOf? (e : Element) (name : Text) : Option Text :=
  (e.child? name).bind fun child =>
    if child.content.isEmpty then none else some child.content

def saysYes (e : Element) (name : Text) : Bool :=
  (textOf? e name).any fun text => Text.eqIgnoreCase text "y"

/-- A listed value is the `value` attribute of its element, else the element's name. -/
def choiceOf (e : Element) : Text := (e.attribute? "value").getD e.name

def ofElement (e : Element) : Props where
  type? := e.fieldType?
  default? := textOf? e "default"
  required := saysYes e "Required"
  multiple := saysYes e "Multiple"
  minimum? := textOf? e "MinimumValue"
  maximum? := textOf? e "MaximumValue"
  choices :=
    match e.child? "OptionValues" with
    | some values => values.children.map choiceOf
    | none => []

end Props

structure Field where
  name : Text
  kind : Kind
  props : Props
  deriving DecidableEq

def Field.ofElement (e : Element) : Field where
  name := e.name
  kind := .ofType? e.fieldType?
  props := .ofElement e

end ClickGen
