import ClickGen.Artifact
import ClickGen.Model

/-!
Requests to generate a command: which model and tag, under which names, from which templates and
to which directories. Every artifact is rendered before the first one is written.
-/

namespace ClickGen

/-- The template of an artifact, and the directory that it goes to. -/
structure Layout where
  template : Text
  directory : Text
  deriving DecidableEq

def ArtifactKind.defaultLayout (kind : ArtifactKind) (moduleType : ModuleType) : Layout :=
  ⟨kind.defaultTemplate, kind.defaultDirectory moduleType⟩

structure Request where
  locator : Text
  tag : Text
  spec : CommandSpec
  policy : Policy := {}
  /-- The directory that templates are looked for in. -/
  templates : Text
  command : Layout
  facade : Layout
  overwrite : FileTree.Overwrite := .always
  deriving DecidableEq

namespace Request

/-- The directory that templates are looked for in when none is given. -/
def defaultTemplates : Text := "templates"

/-- A request with everything else left to the defaults. -/
def ofModel (locator tag : Text) (spec : CommandSpec) (templates : Text) : Request where
  locator := locator
  tag := tag
  spec := spec
  templates := templates
  command := ArtifactKind.command.defaultLayout spec.moduleType
  facade := ArtifactKind.facade.defaultLayout spec.moduleType

def layout (r : Request) : ArtifactKind → Layout
  | .command => r.command
  | .facade => r.facade

/-- The variables that the model gives. -/
def derive (files : FileTree) (r : Request) (web : Web := .offline) :
    Except Failure Variables := do
  let root ← resolve files r.locator r.tag web
  return .derive root r.policy r.spec

/-- Renders the artifact of a kind. -/
def renderOne (files : FileTree) (r : Request) (kind : ArtifactKind) (web : Web := .offline) :
    Except Failure Artifact := do
  let v ← r.derive files web
  Artifact.render files r.templates (r.layout kind).template kind v

/-- Renders kinds of artifacts one after the other, each from the files and the web as they are
when its turn comes. -/
def renderKinds (view : ArtifactKind → FileTree) (web : ArtifactKind → Web) (r : Request) :
    List ArtifactKind → Except Failure (List Artifact)
  | [] => .ok []
  | kind :: rest => do
    let artifact ← r.renderOne (view kind) kind (web kind)
    let artifacts ← renderKinds view web r rest
    return artifact :: artifacts

/-- Renders all artifacts, from files and a web that nobody else changes meanwhile. -/
def render (files : FileTree) (r : Request) (web : Web := .offline) :
    Except Failure (List Artifact) :=
  r.renderKinds (fun _ => files) (fun _ => web) ArtifactKind.all

/-- Puts artifacts in their places, up to the first that fails. -/
def placeAll (r : Request) : FileTree → List Artifact →
    FileTree × Except Failure (List Placed)
  | files, [] => (files, .ok [])
  | files, a :: rest =>
    match a.place files (r.layout a.kind).directory r.overwrite with
    | (files, .error failure) => (files, .error failure)
    | (files, .ok placed) =>
      match placeAll r files rest with
      | (files, .error failure) => (files, .error failure)
      | (files, .ok more) => (files, .ok (placed :: more))

/-- Renders all artifacts and puts them in their places. -/
def generate (files : FileTree) (r : Request) (web : Web := .offline) :
    FileTree × Except Failure (List Placed) :=
  match r.render files web with
  | .error failure => (files, .error failure)
  | .ok artifacts => r.placeAll files artifacts

end Request

end ClickGen
