import ClickGen.Url.Percent

/-!
The path of a web or file URL: segments between slashes of either kind, where a segment of one
dot stands for nothing and one of two dots takes the segment before it away.
-/

namespace ClickGen.Url

/-- A letter and a colon or bar, as some systems name their drives. -/
def isDrive : Text → Bool
  | [letter, mark] => Text.isAsciiAlpha letter && (mark == ':' || mark == '|')
  | _ => false

def isSlash (c : Char) : Bool := c == '/' || c == '\\'

/-- Characters that a URL may be broken with, and that are not part of it. -/
def isIgnored (c : Char) : Bool := c == '\t' || c == '\n' || c == '\r'

def dropIgnored (s : Text) : Text := s.filter (!isIgnored ·)

namespace Path

def isSingleDot (segment : Text) : Bool :=
  [(".".toList), "%2e", "%2E"].contains segment

def isDoubleDot (segment : Text) : Bool :=
  [("..".toList), "%2e%2e", "%2e%2E", "%2E%2e", "%2E%2E", "%2e.", "%2E.", ".%2e",
    ".%2E"].contains segment

/-- Splits a path at each slash of either kind. -/
def segments : Text → List Text
  | [] => [[]]
  | c :: rest =>
    match segments rest with
    | [] => [[c]]
    | part :: parts => if isSlash c then [] :: part :: parts else (c :: part) :: parts

/-- What follows the last slash of a path. -/
def lastSegment (path : Text) : Text :=
  (path.reverse.takeWhile (· != '/')).reverse

/-- A path up to its last slash, with that slash. -/
def upToSlash (path : Text) : Text := path.take (path.length - (lastSegment path).length)

/-- Whether a slash, a drive and another slash end the path. -/
def endsInDrive (path : Text) : Bool := isDrive (lastSegment path.dropLast)

/-- Takes the last segment away, and the slash after it unless that is the first one or follows a
drive. In a file URL a drive stays. -/
def goUp (file : Bool) (path : Text) : Text :=
  let path :=
    if path.getLast? = some '/' && path.dropLast.contains '/' && !endsInDrive path then
      path.dropLast
    else path
  let last := lastSegment path
  if file && isDrive last && last.getLast? = some ':' then path else upToSlash path

def withSlash (path : Text) : Text :=
  if path.getLast? = some '/' then path else path ++ ['/']

/-- A drive at the start of a segment that is broken right after it and then goes on, and what it
goes on with. -/
def brokenDrive? (segment : Text) : Option (Text × Text) :=
  match segment.dropWhile isIgnored with
  | [] => none
  | letter :: rest =>
    match rest.dropWhile isIgnored with
    | ':' :: c :: rest =>
      let more := dropIgnored rest
      if Text.isAsciiAlpha letter && isIgnored c && !more.isEmpty then some ([letter, ':'], more)
      else none
    | _ => none

/-- Puts a segment without breaks after a path; `more` says that a slash follows it. The flag of
the result says that a drive began the path of a file URL. -/
def addWhole (file : Bool) (path segment : Text) (more : Bool) : Text × Bool :=
  let segment := percentEncode encodesInPath segment
  let slash : Text := if more then ['/'] else []
  if isDoubleDot segment then
    let path := goUp file path
    (if more then withSlash path else path, false)
  else if isSingleDot segment then (withSlash path, false)
  else if file && path.length = 1 && isDrive segment then
    (path ++ segment.take 1 ++ [':'] ++ slash, true)
  else (path ++ segment ++ slash, false)

/-- Puts a segment after a path. A break after the drive of a file URL ends the segment, and what
comes then is kept as it is. -/
def addSegment (file : Bool) (path segment : Text) (more : Bool) : Text × Bool :=
  match if file && path.length = 1 then brokenDrive? segment else none with
  | some (drive, rest) =>
    let slash : Text := if more then ['/'] else []
    (path ++ drive ++ '/' :: percentEncode encodesInPath rest ++ slash, false)
  | none => addWhole file path (dropIgnored segment) more

/-- Puts segments after a path. -/
def addSegments (file : Bool) (path : Text) (drive : Bool) : List Text → Text × Bool
  | [] => (path, drive)
  | [segment] =>
    let (path, found) := addSegment file path segment false
    (path, drive || found)
  | segment :: rest =>
    let (path, found) := addSegment file path segment true
    addSegments file path (drive || found) rest

/-- Reads the path of a web URL, which starts with a slash whether there is one or not. -/
def readWeb (s : Text) : Text :=
  let s :=
    match s with
    | c :: rest => if isSlash c then rest else s
    | [] => []
  (addSegments false ['/'] false (segments s)).1

/-- Reads the path of a file URL after its first slash. One slash is kept at the front, and the
flag says that a drive began the path. -/
def readFile (s : Text) : Text × Bool :=
  let (path, drive) := addSegments true ['/'] false (segments s)
  ('/' :: path.dropWhile (· == '/'), drive)

end Path

end ClickGen.Url
