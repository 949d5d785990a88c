import ClickGen.File.Path

/-!
A tree of files and directories as a value, and what reading and writing do to it. Every place is
named by the names that lead to it from the root. Writing makes the directories that are missing
on the way; a write that fails can leave those behind, but no file is touched then.
-/

namespace ClickGen

/-- A place in a file tree: the names from the root down. -/
abbrev Location := List Name

inductive Entry where
  | file (content : Bytes)
  | directory
  deriving DecidableEq

/-- What there is at each place, the root apart, and the place that relative paths start from. -/
structure FileTree where
  entries : List (Location × Entry) := []
  working : Location := []

namespace FileTree

def entry? (t : FileTree) (place : Location) : Option Entry :=
  if place = [] then some .directory else t.entries.lookup place

def isDirectory (t : FileTree) (place : Location) : Bool := t.entry? place == some .directory

def put (place : Location) (e : Entry) : List (Location × Entry) → List (Location × Entry)
  | [] => [(place, e)]
  | old :: rest => if old.1 = place then (place, e) :: rest else old :: put place e rest

/-- The tree with `e` at a place, in place of what was there. -/
def set (t : FileTree) (place : Location) (e : Entry) : FileTree :=
  { t with entries := put place e t.entries }

/-- The tree without a place and everything below it. -/
def remove (t : FileTree) (place : Location) : FileTree :=
  { t with entries := t.entries.filter fun entry => !place.isPrefixOf entry.1 }

/-- A name that the directory at a place may hold. -/
def checkName (name : Name) : Except FileFault Unit :=
  if name.length > 255 then .error .invalidFilename else .ok ()

/-- Follows one name from a place, which has to be a directory. -/
def follow (t : FileTree) (place : Location) (name : Name) : Except FileFault Location :=
  if !t.isDirectory place then .error .notADirectory
  else if name = Route.here then .ok place
  else if name = Route.above then .ok place.dropLast
  else do
    checkName name
    let next := place ++ [name]
    if (t.entry? next).isSome then .ok next else .error .notFound

def followAll (t : FileTree) (place : Location) : List Name → Except FileFault Location
  | [] => .ok place
  | name :: rest => do
    let next ← t.follow place name
    t.followAll next rest

def start (t : FileTree) (r : Route) : Location := if r.absolute then [] else t.working

/-- The place that a route leads to. A slash at its end asks for a directory. -/
def locate (t : FileTree) (r : Route) : Except FileFault Location := do
  r.check
  let place ← t.followAll (t.start r) r.names
  if r.slash && !t.isDirectory place then throw .notADirectory
  return place

/-- Where the last name of a route leads to. -/
inductive Target where
  /-- A directory that is there in any case: the root, or one named by `.` or `..`. -/
  | fixed
  /-- A name in a directory. -/
  | named (place : Location)

/-- Follows a route up to its last name. -/
def target (t : FileTree) (r : Route) : Except FileFault Target := do
  r.check
  match r.names.reverse with
  | [] => return .fixed
  | last :: outer =>
    let place ← t.followAll (t.start r) outer.reverse
    if last = Route.here ∨ last = Route.above then
      let _ ← t.follow place last
      return .fixed
    else if !t.isDirectory place then throw .notADirectory
    else return .named (place ++ [last])

/-! ### Reading -/

def exists? (t : FileTree) (path : Bytes) : Bool :=
  (t.locate (.ofBytes path)).isOk

def isFile (t : FileTree) (path : Bytes) : Bool :=
  match t.locate (.ofBytes path) with
  | .ok place => (t.entry? place).any (· != .directory)
  | .error _ => false

/-- The content of a file. -/
def read (t : FileTree) (path : Bytes) : Except FileFault Bytes := do
  let place ← t.locate (.ofBytes path)
  match t.entry? place with
  | some (.file content) => return content
  | some .directory => throw .isADirectory
  | none => throw .notFound

/-- The content of a file as text. -/
def readText (t : FileTree) (path : Bytes) : Except FileFault Text := do
  let content ← t.read path
  (Text.ofUtf8 content).mapError fun _ => .invalidData

/-! ### Writing -/

/-- Makes one directory. -/
def makeDirectory (t : FileTree) (r : Route) : Except FileFault FileTree := do
  match ← t.target r with
  | .fixed => throw .alreadyExists
  | .named place =>
    checkName (place.getLastD [])
    if (t.entry? place).isSome then throw .alreadyExists
    return t.set place .directory

/-- Makes one directory, or finds it there. -/
def ensureDirectory (t : FileTree) (r : Route) : Except FileFault FileTree :=
  match t.makeDirectory r with
  | .ok made => .ok made
  | .error fault =>
    match t.locate r with
    | .ok place => if t.isDirectory place then .ok t else .error fault
    | .error _ => .error fault

/-- Makes a directory with those around it, given by their paths innermost first. The directories
made before a failure stay. -/
def makeDirectories (t : FileTree) : List Bytes → FileTree × Except FileFault Unit
  | [] => (t, .ok ())
  | path :: outer =>
    let r := Route.ofBytes path
    match t.ensureDirectory r with
    | .ok made => (made, .ok ())
    | .error .notFound =>
      match makeDirectories t outer with
      | (made, .error fault) => (made, .error fault)
      | (made, .ok ()) =>
        match made.ensureDirectory r with
        | .ok made => (made, .ok ())
        | .error fault => (made, .error fault)
    | .error fault => (t, .error fault)

/-- Gives a file its content, in a directory that is there. -/
def writeFile (t : FileTree) (r : Route) (content : Bytes) : Except FileFault FileTree := do
  match ← t.target r with
  | .fixed => throw .isADirectory
  | .named place =>
    if r.slash then throw .isADirectory
    checkName (place.getLastD [])
    if t.isDirectory place then throw .isADirectory
    return t.set place (.file content)

/-- Gives the file at a path its content, and makes the directories on the way to it. -/
def write (t : FileTree) (path content : Bytes) : FileTree × Except FileFault Unit :=
  match t.makeDirectories (Route.around path) with
  | (made, .error fault) => (made, .error fault)
  | (made, .ok ()) =>
    match made.writeFile (.ofBytes path) content with
    | .ok written => (written, .ok ())
    | .error fault => (made, .error fault)

/-- What to do about a file that is there already. -/
inductive Overwrite where
  | always
  | ifMissing
  deriving DecidableEq

inductive WriteResult where
  | written
  | skipped
  deriving DecidableEq

def WriteResult.label : WriteResult → Text
  | written => "written"
  | skipped => "skipped"

/-- Writes a file unless the rule says to leave what is there. -/
def store (t : FileTree) (path content : Bytes) (rule : Overwrite) :
    FileTree × Except FileFault WriteResult :=
  if rule = .ifMissing ∧ t.exists? path then (t, .ok .skipped)
  else
    match t.write path content with
    | (after, .ok ()) => (after, .ok .written)
    | (after, .error fault) => (after, .error fault)

/-! ### Looking around -/

/-- The places below `place`, as paths from there; directories end in a slash. -/
def listing (t : FileTree) (place : Location) : List Bytes :=
  t.entries.filterMap fun entry =>
    if place.isPrefixOf entry.1 && place != entry.1 then
      let path := ([0x2F] : Bytes).intercalate (entry.1.drop place.length)
      some (if entry.2 = .directory then path ++ [0x2F] else path)
    else none

end FileTree

end ClickGen
