import ClickGen.Failure
import ClickGen.File.Tree
import ClickGen.Template.Basic
import ClickGen.Variables

/-!
Artifacts: the module of a command and the facade that it calls, each rendered from a template
with the variables of the command.
-/

namespace ClickGen

inductive ArtifactKind where
  | command | facade
  deriving DecidableEq

namespace ArtifactKind

/-- Both kinds, in the order in which they are made. -/
def all : List ArtifactKind := [command, facade]

def label : ArtifactKind → Text
  | command => "command"
  | facade => "facade"

/-- Where the template of a kind is, as seen from the directory of templates. -/
def defaultTemplate : ArtifactKind → Text
  | command => "code_generator/command/command.py.liquid"
  | facade => "code_generator/command/facade.py.liquid"

def defaultDirectory (kind : ArtifactKind) (moduleType : ModuleType) : Text :=
  match kind with
  | command => Path.join "output/commands" moduleType.label
  | facade => Path.join "output/facades/command" moduleType.label

end ArtifactKind

namespace Variables

/-- The variables under the names that templates know them by. -/
def frame (v : Variables) : Template.Frame := [
  ("click_group", .text v.group),
  ("click_command", .text v.command),
  ("click_group_module", .text v.groupModule),
  ("click_command_module", .text v.commandModule),
  ("click_options_create", .list (v.createOptions.map .text)),
  ("click_options_update", .list (v.updateOptions.map .text)),
  ("column_names", .list (v.columns.map .text)),
  ("column_list", .text v.columnList),
  ("module_type", .text v.moduleType.label)]

/-- Where the artifacts of the command go, as seen from their directories. -/
def relativePath (v : Variables) : Text := Path.join v.groupModule (v.commandModule ++ ".py")

end Variables

namespace Template

/-- Renders the text of a template; `path` is told when that fails. -/
def renderSource (path source : Text) (globals : Frame) : Except Failure Text :=
  match parse? source with
  | none => .error (.template path)
  | some t =>
    match t.render? globals with
    | none => .error (.template path)
    | some content => .ok content

/-- Renders the template in a file, which is looked for in `directory`. -/
def renderFile (files : FileTree) (directory template : Text) (globals : Frame) :
    Except Failure Text :=
  let path := Path.join directory template
  match files.readText (Text.toUtf8 path) with
  | .error _ => .error (.template path)
  | .ok source => renderSource path source globals

end Template

/-- A rendered file that is not written yet. -/
structure Artifact where
  kind : ArtifactKind
  /-- Where it goes, as seen from the directory of its kind. -/
  relativePath : Text
  content : Text
  deriving DecidableEq

/-- An artifact that is in its place. -/
structure Placed where
  kind : ArtifactKind
  path : Text
  result : FileTree.WriteResult
  deriving DecidableEq

namespace Artifact

/-- The artifact of a kind for the variables of a command. -/
def render (files : FileTree) (directory template : Text) (kind : ArtifactKind)
    (v : Variables) : Except Failure Artifact := do
  let content ← Template.renderFile files directory template v.frame
  return ⟨kind, v.relativePath, content⟩

/-- The path of the artifact below `directory`. -/
def path (a : Artifact) (directory : Text) : Text := Path.join directory a.relativePath

/-- Puts an artifact in its place below `directory`. -/
def place (files : FileTree) (a : Artifact) (directory : Text) (rule : FileTree.Overwrite) :
    FileTree × Except Failure Placed :=
  let path := a.path directory
  match files.store (Text.toUtf8 path) (Text.toUtf8 a.content) rule with
  | (after, .ok result) => (after, .ok ⟨a.kind, path, result⟩)
  | (after, .error fault) => (after, .error (.write path fault))

end Artifact

end ClickGen
