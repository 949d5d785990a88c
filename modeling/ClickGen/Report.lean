import ClickGen.Request

/-!
Reports of what was generated, or of what would be, as the command line prints them.
-/

namespace ClickGen

/-- An artifact with the path that it would go to. -/
structure Preview where
  path : Text
  content : Text
  deriving DecidableEq

inductive Outcome where
  | placed (files : List Placed)
  | previewed (files : List Preview)
  deriving DecidableEq

structure Report where
  spec : CommandSpec
  outcome : Outcome
  deriving DecidableEq

namespace Report

def preview (r : Request) (a : Artifact) : Preview :=
  ⟨a.path (r.layout a.kind).directory, a.content⟩

/-- Generates what a request asks for, or with `dryRun` only tells what that would be. -/
def generate (files : FileTree) (r : Request) (dryRun : Bool) (web : Web := .offline) :
    FileTree × Except Failure Report :=
  if dryRun then
    (files, (r.render files web).map fun artifacts =>
      ⟨r.spec, .previewed (artifacts.map (preview r))⟩)
  else
    match r.generate files web with
    | (files, placed) => (files, placed.map fun placed => ⟨r.spec, .placed placed⟩)

/-! ### Printing -/

def line (s : Text) : Text := s ++ ['\n']

def divider (label : Text) : Text := line ("── " ++ label ++ " ──")

def placedLine (p : Placed) : Text :=
  let what : Text := p.kind.label ++ ": " ++ p.path
  match p.result with
  | .written => line ("  + " ++ what)
  | .skipped => line ("  - " ++ what ++ " (exists, skipped)")

def previewLines (p : Preview) : Text := divider p.path ++ line p.content

def render (report : Report) : Text :=
  match report.outcome with
  | .placed files =>
    line (report.spec.moduleType.label ++ " " ++ report.spec.group ++ " " ++
      report.spec.command ++ " (generated):") ++ files.flatMap placedLine
  | .previewed files =>
    files.flatMap previewLines ++ divider "Summary" ++
      line (Text.ofNat files.length ++ " files would be generated")

end Report

end ClickGen
