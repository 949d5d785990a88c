import ClickGen.File.Tree
import ClickGen.Policy
import ClickGen.Text.Quoted
import ClickGen.Toml.Document

/-!
Configurations, which replace defaults setting by setting. The settings of a table are taken in
the order of their names, and the first one that cannot be used decides what is reported.
-/

namespace ClickGen

/-- Where templates are and where artifacts go, as far as the configuration says. -/
structure Paths where
  templates? : Option Text := none
  commandTemplate? : Option Text := none
  facadeTemplate? : Option Text := none
  commandDirectory? : Option Text := none
  facadeDirectory? : Option Text := none
  deriving DecidableEq

structure Config where
  policy : Policy := {}
  paths : Paths := {}
  deriving DecidableEq

namespace Config

/-- What is wrong with a configuration and where; nothing where there is no telling. -/
abbrev Complaint := Option (Text × Span)

/-- A value with its place in the source. -/
abbrev Item := Span × Toml.Value

/-- A number with a point in a message. One that is too large to be held has no message. -/
def realText? : Toml.Real → Option Text
  | .finite d => d.render?
  | .infinite negative => some (if negative then "-inf" else "inf")
  | .notANumber => some "NaN"

/-- A whole number in a message, with a note when it takes more than 64 bits. Numbers that take
more than 128 have no message. -/
def integerText? (i : Int) : Option Text :=
  let shown : Text := "integer `" ++ Text.ofInt i ++ "`"
  if -9223372036854775808 ≤ i ∧ i < 18446744073709551616 then some shown
  else if -170141183460469231731687303715884105728 ≤ i ∧
      i < 170141183460469231731687303715884105728 then some (shown ++ " as i128")
  else if 0 ≤ i ∧ i < 340282366920938463463374607431768211456 then some (shown ++ " as u128")
  else none

/-- A value in a message. -/
def describe? : Toml.Value → Option Text
  | .text t => some ("string " ++ Text.quoted t)
  | .integer i => integerText? i
  | .real r => (realText? r).map fun shown => "floating point `" ++ shown ++ "`"
  | .noNumber => none
  | .boolean b => some ("boolean `" ++ (if b then "true" else "false") ++ "`")
  | .array .. => some "sequence"
  | .moment | .table .. => some "map"

def unexpected (expected : Text) (item : Item) : Complaint :=
  (describe? item.2).map fun found =>
    ("invalid type: " ++ found ++ ", expected " ++ expected, item.1)

def backquoted (name : Text) : Text := '`' :: (name ++ ['`'])

/-- Names to choose from, in a message. -/
def alternatives : List Text → Text
  | [a, b] => backquoted a ++ " or " ++ backquoted b
  | names => "one of " ++ List.intercalate ", " (names.map backquoted)

def unknownName (name : Text) (known : List Text) (span : Span) : Complaint :=
  some ("unknown field " ++ backquoted name ++ ", expected " ++ alternatives known, span)

def readString (expected : Text) (item : Item) : Except Complaint Text :=
  match item.2 with
  | .text t => .ok t
  | _ => .error (unexpected expected item)

def readStrings (item : Item) : Except Complaint (List Text) :=
  match item.2 with
  | .array _ items => items.mapM (readString "a string")
  | _ => .error (unexpected "a sequence" item)

/-! ### Settings -/

/-- A setting of `α`: its name, and how a value changes it. -/
structure Setting (α : Type) where
  name : Text
  apply : Item → α → Except Complaint α

variable {α : Type}

def namesOf (settings : List (Setting α)) : List Text := settings.map (·.name)

/-- Takes over the setting of one key. -/
def applyEntry (settings : List (Setting α)) (a : α) (entry : Toml.Key × Item) :
    Except Complaint α :=
  match settings.find? fun setting => setting.name = entry.1.name with
  | some setting => setting.apply entry.2 a
  | none => .error (unknownName entry.1.name (namesOf settings) entry.1.span)

def sorted (entries : Toml.Entries) : Toml.Entries :=
  entries.mergeSort fun a b => compare a.1.name b.1.name != .gt

/-- Takes over the settings of a table, in the order of their names. -/
def applyEntries (settings : List (Setting α)) (a : α) (entries : Toml.Entries) :
    Except Complaint α :=
  (sorted entries).foldlM (applyEntry settings) a

/-- Takes over settings that are given without names, in the order in which they are known.
Surplus ones are ignored. -/
def applyItems (a : α) : List (Setting α) → List Item → Except Complaint α
  | setting :: settings, item :: items => do applyItems (← setting.apply item a) settings items
  | _, _ => .ok a

/-- The name under which a date would be looked into. -/
def momentName : Text := "$__toml_private_datetime"

/-- Takes over settings from a table, or from an array that gives them without names. -/
def applyValue (label : Text) (settings : List (Setting α)) (item : Item) (a : α) :
    Except Complaint α :=
  match item.2 with
  | .table _ entries => applyEntries settings a entries
  | .array _ items => applyItems a settings items
  | .moment => .error (unknownName momentName (namesOf settings) item.1)
  | _ => .error (unexpected ("struct " ++ label) item)

def policySettings : List (Setting Policy) := [
  ⟨"ignored_types", fun item p => do return { p with ignoredTypes := ← readStrings item }⟩,
  ⟨"ignored_create_names",
    fun item p => do return { p with ignoredCreateNames := ← readStrings item }⟩,
  ⟨"ignored_update_names",
    fun item p => do return { p with ignoredUpdateNames := ← readStrings item }⟩]

def readPath (item : Item) : Except Complaint (Option Text) :=
  some <$> readString "path string" item

def pathSettings : List (Setting Paths) := [
  ⟨"template_basedir", fun item p => do return { p with templates? := ← readPath item }⟩,
  ⟨"template_command", fun item p => do return { p with commandTemplate? := ← readPath item }⟩,
  ⟨"template_facade", fun item p => do return { p with facadeTemplate? := ← readPath item }⟩,
  ⟨"command_output_dir", fun item p => do return { p with commandDirectory? := ← readPath item }⟩,
  ⟨"facade_output_dir", fun item p => do return { p with facadeDirectory? := ← readPath item }⟩]

def settings : List (Setting Config) := [
  ⟨"policy", fun item c => do
    return { c with policy := ← applyValue "Policy" policySettings item c.policy }⟩,
  ⟨"paths", fun item c => do
    return { c with paths := ← applyValue "PathsConfig" pathSettings item c.paths }⟩]

/-- The configuration that a document describes. -/
def ofEntries (entries : Toml.Entries) : Except Complaint Config :=
  applyEntries settings {} entries

def parse (source : Text) : Except Failure Config :=
  match Toml.parse? source with
  | none => .error (.config none)
  | some entries => (ofEntries entries).mapError .config

/-! ### Files -/

/-- The file that is read when no other is given, if it is there. -/
def defaultPath : Text := "opngen.toml"

def read (files : FileTree) (path : Text) : Except Failure Config :=
  match files.readText (Text.toUtf8 path) with
  | .error fault => .error (.configFile path fault)
  | .ok source => parse source

def load (files : FileTree) (path? : Option Text) : Except Failure Config :=
  match path? with
  | some path => read files path
  | none =>
    if files.isFile (Text.toUtf8 defaultPath) then read files defaultPath else .ok {}

end Config

end ClickGen
