import ClickGen.Text.Utf8
import ClickGen.File.Fault

/-!
Paths. As text they are only ever joined, and never tidied up. As bytes they name a place in a
file tree: the names between the slashes, each one followed in turn.
-/

namespace ClickGen

/-- A name in a directory. -/
abbrev Name := Bytes

namespace Path

def isAbsolute (path : Text) : Bool := path.head? == some '/'

/-- The path `path` as seen from `base`. An absolute path stands for itself, and an empty one
leaves a slash at the end. -/
def join (base path : Text) : Text :=
  if isAbsolute path then path
  else
    match base.getLast? with
    | none => path
    | some c => if c = '/' then base ++ path else base ++ '/' :: path

end Path

/-- The parts of bytes between slashes. -/
def cutSlashes : Bytes → List Bytes
  | [] => [[]]
  | b :: rest =>
    match cutSlashes rest with
    | [] => [[b]]
    | part :: parts => if b = 0x2F then [] :: part :: parts else (b :: part) :: parts

/-- What a path says: where to start, the names to follow, whether a slash ends it, and how many
bytes it takes. -/
structure Route where
  absolute : Bool
  names : List Name
  slash : Bool
  size : Nat
  deriving DecidableEq

namespace Route

/-- The name of a directory in itself. -/
def here : Name := [0x2E]

/-- The name of the directory around. -/
def above : Name := [0x2E, 0x2E]

def ofBytes (path : Bytes) : Route where
  absolute := path.head? == some 0x2F
  names := (cutSlashes path).filter (!·.isEmpty)
  slash := path.getLast? == some 0x2F
  size := path.length

/-- A route that can be followed has no zero byte in it, takes less than 4096 bytes, and is not
empty. -/
def check (r : Route) : Except FileFault Unit :=
  if r.names.any (·.contains 0) then .error .invalidInput
  else if r.size ≥ 4096 then .error .invalidFilename
  else if r.size = 0 then .error .notFound
  else .ok ()

/-- The beginnings of a path, after the bytes `before`, that end where a part of it ends, shortest
first. Nothing between two slashes is no part, and neither is the name of a directory in itself. -/
def beginnings (before : Bytes) : List Bytes → List Bytes
  | [] => []
  | part :: rest =>
    let path := before ++ part
    let more := beginnings (path ++ [0x2F]) rest
    if part.isEmpty || part = here then more else path :: more

/-- The directories around what a path names, innermost first, as the path has them. -/
def around (path : Bytes) : List Bytes := (beginnings [] (cutSlashes path)).reverse.tail

end Route

end ClickGen
