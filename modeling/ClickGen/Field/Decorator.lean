import ClickGen.Field.Basic
import ClickGen.Code.Literal
import ClickGen.Code.Name
import ClickGen.Text.Numeral

/-!
The option of a field as a decorator in Python source. The option that creates an entry carries
the default of the model and may be required. The option that updates one always defaults to
`None`, so that an update sends only what was given.
-/

namespace ClickGen

/-- What an option is for. -/
inductive Purpose where
  | create | update
  deriving DecidableEq

/-- A decorator `@click.option(…)`: the declared names, still unquoted, and the keyword arguments
with their source text. -/
structure Decorator where
  names : List Text
  arguments : List (Text × Text)
  deriving DecidableEq

namespace Decorator

def argumentSource (argument : Text × Text) : Text := argument.1 ++ "=" ++ argument.2

/-- What stands between the brackets: the names as literals, then the arguments. -/
def items (d : Decorator) : List Text :=
  d.names.map Code.literal ++ d.arguments.map argumentSource

/-- A line between the brackets. -/
def line (item : Text) : Text := "    " ++ item ++ ",\n"

def render (d : Decorator) : Text := "@click.option(\n" ++ d.items.flatMap line ++ ")"

end Decorator

def Code.boolean (b : Bool) : Text := if b then "True" else "False"

namespace Field

/-- Whether the option may be given more than once. -/
def isMultiple (f : Field) : Bool :=
  match f.kind with
  | .list => true
  | .choice => f.props.multiple
  | _ => false

/-- The flag that the option is given by. -/
def flag (f : Field) : Text :=
  match f.kind with
  | .flag => "--" ++ f.name ++ "/--no-" ++ f.name
  | _ => "--" ++ f.name

/-- The parameter name that follows from a flag: dashes as underscores, in lower case. -/
def derivedName (name : Text) : Text :=
  Text.lower (name.map fun c => if c = '-' then '_' else c)

/-- The flag, and a parameter name whenever the flag alone would not give back the name of the
field. -/
def names (f : Field) : List Text :=
  if derivedName f.name = f.name ∧ Code.isIdentifier f.name then [f.flag]
  else if Code.isIdentifier f.name then [f.flag, f.name]
  else [f.flag, Code.fieldName f.name]

def help (f : Field) : Text :=
  match f.kind with
  | .flag => "Enable or disable " ++ f.name ++ "."
  | .choice =>
    (if f.props.multiple then ("One or more values for " : Text) else "The value for ") ++
      f.name ++ "."
  | .list => "Values for " ++ f.name ++ ", repeat the option for each value."
  | .integer | .float => "The numeric value for " ++ f.name ++ "."
  | .other =>
    match f.props.type? with
    | some type => "The value for " ++ f.name ++ " (" ++ type ++ ")."
    | none => "The value for " ++ f.name ++ "."
  | .text => "The value for " ++ f.name ++ "."

/-- The type of numbers between two bounds, either of which may be missing. -/
def rangeType (range plain : Text) (minimum? maximum? : Option Text) : Text :=
  match minimum?, maximum? with
  | some low, some high => range ++ "(" ++ low ++ ", " ++ high ++ ")"
  | some low, none => range ++ "(min=" ++ low ++ ")"
  | none, some high => range ++ "(max=" ++ high ++ ")"
  | none, none => plain

/-- A bound counts when it fits in 64 bits, and is written in the shortest way. -/
def integerBound? (bound? : Option Text) : Option Text :=
  (bound?.bind Text.readInt64).map Text.ofInt

/-- A bound counts when it is a decimal number, and is written as it stands. -/
def floatBound? (bound? : Option Text) : Option Text := bound?.filter Text.isDecimal

/-- The values to choose from. When none is required, the empty one can be chosen to clear the
field. -/
def choiceList (p : Props) : List Text := if p.required then p.choices else [] :: p.choices

/-- The arguments that depend on the kind; none of a choice without values. -/
def kindArguments? (f : Field) : Option (List (Text × Text)) :=
  match f.kind with
  | .flag => some [("is_flag", "True"), ("callback", "bool_as_string")]
  | .text => some []
  | .integer =>
    some [("type", rangeType "click.IntRange" "int" (integerBound? f.props.minimum?)
      (integerBound? f.props.maximum?))]
  | .float =>
    some [("type", rangeType "click.FloatRange" "float" (floatBound? f.props.minimum?)
      (floatBound? f.props.maximum?))]
  | .choice =>
    if f.props.choices.isEmpty then none
    else
      some (("type", "click.Choice(" ++ Code.listLiteral (choiceList f.props) ++ ")") ::
        (if f.props.multiple then [("multiple", "True"), ("callback", "tuple_to_csv")] else []))
  | .list => some [("multiple", "True"), ("callback", "tuple_to_csv")]
  | .other => some [("type", "str")]

/-- The texts of a default that mean on. -/
def meansOn (text : Text) : Bool :=
  [("1" : Text), "Y", "y", "true", "True"].contains text

/-- The values in a default with several: the parts between commas that are not blank. -/
def listed (text : Text) : List Text :=
  ((Text.splitOn ',' text).map Text.trimBlank).filter (!·.isEmpty)

/-- The source text of the default when an entry is created. -/
def createDefault (f : Field) : Text :=
  match f.kind, f.props.default? with
  | .flag, default? => Code.boolean (default?.any meansOn)
  | _, none => "None"
  | kind, some text =>
    if f.isMultiple then Code.listLiteral (listed text)
    else if kind = .integer ∧ (Text.readInt64 text).isSome then text
    else if kind = .float ∧ Text.isDecimal text then text
    else Code.literal text

/-- Whether a value must be given: the model asks for one and has no default. -/
def isRequired (f : Field) : Bool :=
  f.kind != .flag && f.props.required && f.props.default?.isNone

/-- The arguments that depend on what the option is for. -/
def purposeArguments (f : Field) : Purpose → List (Text × Text)
  | .create =>
    [("show_default", "True"), ("default", f.createDefault),
      ("required", Code.boolean f.isRequired)]
  | .update => [("default", "None")]

/-- The option of a field, if it can be expressed as one. -/
def decorator? (f : Field) (purpose : Purpose) : Option Decorator :=
  f.kindArguments?.map fun kindArguments =>
    { names := f.names
      arguments := ("help", Code.literal f.help) :: (kindArguments ++ f.purposeArguments purpose) }

/-- The source text of a field's option. -/
def code? (f : Field) (purpose : Purpose) : Option Text :=
  (f.decorator? purpose).map Decorator.render

end Field

end ClickGen
