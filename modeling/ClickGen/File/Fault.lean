import ClickGen.Text.Basic

/-!
Why a file could not be read or written.
-/

namespace ClickGen

inductive FileFault where
  | notFound
  | notADirectory
  | isADirectory
  | alreadyExists
  /-- A path with a character that no path has. -/
  | invalidInput
  /-- A name that is too long. -/
  | invalidFilename
  /-- Content that is not text. -/
  | invalidData
  deriving DecidableEq

def FileFault.label : FileFault → Text
  | notFound => "NotFound"
  | notADirectory => "NotADirectory"
  | isADirectory => "IsADirectory"
  | alreadyExists => "AlreadyExists"
  | invalidInput => "InvalidInput"
  | invalidFilename => "InvalidFilename"
  | invalidData => "InvalidData"

end ClickGen
