import ClickGen.Field.Decorator
import ClickGen.Policy

/-!
What the templates are given: the names of the command, the source text of its options, and the
columns of its tables. Both artifacts of a command are rendered from the same variables.
-/

namespace ClickGen

/-- Where a command belongs. -/
inductive ModuleType where
  | core | plugin
  deriving DecidableEq

def ModuleType.label : ModuleType → Text
  | core => "core"
  | plugin => "plugin"

/-- The names of a command. -/
structure CommandSpec where
  group : Text
  command : Text
  moduleType : ModuleType
  deriving DecidableEq

structure Variables where
  group : Text
  command : Text
  /-- The group as a module name. -/
  groupModule : Text
  /-- The command as a module name. -/
  commandModule : Text
  createOptions : List Text
  updateOptions : List Text
  /-- The names of all fields, in document order. -/
  columns : List Text
  moduleType : ModuleType
  deriving DecidableEq

namespace Variables

/-- The option of one field for a purpose, when the policy lets it have one. -/
def option? (policy : Policy) (purpose : Purpose) (e : Element) : Option Text :=
  let skipped :=
    match purpose with
    | .create => policy.skipsCreate e.name
    | .update => policy.skipsUpdate e.name
  if policy.ignoresType e.fieldType? || skipped then none
  else (Field.ofElement e).code? purpose

/-- The variables for the fields that are the children of `root`. -/
def derive (root : Element) (policy : Policy) (spec : CommandSpec) : Variables where
  group := spec.group
  command := spec.command
  groupModule := Text.snake spec.group
  commandModule := Text.snake spec.command
  createOptions := root.children.filterMap (option? policy .create)
  updateOptions := root.children.filterMap (option? policy .update)
  columns := root.children.map Element.name
  moduleType := spec.moduleType

/-- The columns as a list in source text. -/
def columnList (v : Variables) : Text := Code.listLiteral v.columns

end Variables

end ClickGen
