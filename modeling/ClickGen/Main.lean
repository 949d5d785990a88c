import ClickGen.Program

/-!
The command line on the files of this machine. What a run can touch is read first, the run itself
is a function on that, and what it changed is written back.
-/

namespace ClickGen.Main

/-- A place as a path from the root. -/
def diskPath (place : Location) : String :=
  "/" ++ "/".intercalate (place.map fun name => String.ofList (Text.ofUtf8Lenient name))

/-- What there is on disk at a place. -/
def readEntry (place : Location) : IO (Option Entry) := do
  let path := (← IO.currentDir) / diskPath place
  if ← path.isDir then return some .directory
  else if ← path.pathExists then return some (.file (← IO.FS.readBinFile path).toList)
  else return none

/-- Adds what lies on the way from a place along names, as far as there is anything. -/
def readAlong (files : FileTree) (place : Location) : List Name → IO FileTree
  | [] => return files
  | name :: rest => do
    if name = Route.here then readAlong files place rest
    else if name = Route.above then readAlong files place.dropLast rest
    else
      let next := place ++ [name]
      match ← readEntry next with
      | some entry => readAlong (files.set next entry) next rest
      | none => return files

/-- Adds what a path leads to. -/
def readPath (files : FileTree) (path : Bytes) : IO FileTree :=
  let route := Route.ofBytes path
  readAlong files (files.start route) route.names

def readPaths (files : FileTree) : List Bytes → IO FileTree
  | [] => return files
  | path :: rest => do readPaths (← readPath files path) rest

/-- The paths that a request reads or writes. -/
def pathsOf (request : Request) : List Bytes :=
  let relative := (Variables.derive { name := [] } request.policy request.spec).relativePath
  let model :=
    match Locator.parse request.locator with
    | .ok (.onDisk path) => [path]
    | _ => []
  let layouts := ArtifactKind.all.map request.layout
  model ++ layouts.map (fun l => Text.toUtf8 (Path.join request.templates l.template)) ++
    layouts.map (fun l => Text.toUtf8 (Path.join l.directory relative))

/-- The files that a run with these words can touch. -/
def readFor (words : List Text) : IO FileTree := do
  let working := (Route.ofBytes (Text.toUtf8 (← IO.currentDir).toString.toList)).names
  let files ← readAlong { working := working } [] working
  match Invocation.parse? words with
  | some (.generate group command model tag _ a) =>
    let files ← readPath files (Text.toUtf8 ((a.value? .config).getD Config.defaultPath))
    match Config.load files (a.value? .config) with
    | .ok config => readPaths files (pathsOf (a.request group command model tag config))
    | .error _ => return files
  | _ => return files

/-- Writes what is new or different. -/
def writeChanges (before after : FileTree) : IO Unit :=
  after.entries.forM fun (place, entry) => do
    if before.entry? place != some entry then
      match entry with
      | .directory => IO.FS.createDirAll (diskPath place)
      | .file content => IO.FS.writeBinFile (diskPath place) ⟨content.toArray⟩

/-- Runs the program on the words of the command line, and gives its exit code. -/
def start (words : List Text) : IO UInt32 := do
  let before ← readFor words
  let (after, ending) := Program.run before words
  writeChanges before after
  IO.print (String.ofList ending.output)
  match ending.failure? with
  | some failure =>
    IO.eprintln (String.ofList (failure.message?.getD (failure.kind ++ " cannot be used")))
  | none => if ending.exit = .usage then IO.eprintln (String.ofList Program.usage)
  return ending.exit.code.toUInt32

end ClickGen.Main

def main (arguments : List String) : IO UInt32 :=
  ClickGen.Main.start (arguments.map String.toList)
