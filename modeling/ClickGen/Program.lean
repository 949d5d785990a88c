import ClickGen.Invocation
import ClickGen.Report

/-!
The program as a function: from the words of the command line and the files to what is printed,
the exit code, and the files afterwards.
-/

namespace ClickGen

inductive Exit where
  | success
  /-- Nothing was generated, or not everything. -/
  | failure
  /-- The words of the command line make no sense. -/
  | usage
  deriving DecidableEq

def Exit.code : Exit → Nat
  | success => 0
  | failure => 1
  | usage => 2

/-- What a run leaves behind apart from files. -/
structure Ending where
  exit : Exit
  output : Text := []
  /-- How often more output was asked for, when the words made sense. -/
  verbosity? : Option Nat := none
  failure? : Option Failure := none
  deriving DecidableEq

namespace Program

def version : Text := "opngen 0.1.0"

def usage : Text :=
  "Usage: opngen new command <core|plugin> <CLICK_GROUP> <CLICK_COMMAND> --url <URL> --tag <TAG>"

/-- Runs the program. -/
def run (files : FileTree) (words : List Text) : FileTree × Ending :=
  match Invocation.parse? words with
  | none => (files, { exit := .usage })
  | some .help => (files, { exit := .success, output := Report.line usage })
  | some .version => (files, { exit := .success, output := Report.line version })
  | some (.generate group command model tag verbosity a) =>
    let fail (files : FileTree) (failure : Failure) : FileTree × Ending :=
      (files, { exit := .failure, verbosity? := some verbosity, failure? := some failure })
    match Config.load files (a.value? .config) with
    | .error failure => fail files failure
    | .ok config =>
      match Report.generate files (a.request group command model tag config) a.dryRun with
      | (files, .error failure) => fail files failure
      | (files, .ok report) =>
        (files, { exit := .success, output := report.render, verbosity? := some verbosity })

end Program

end ClickGen
