import ClickGen.Url.Host
import ClickGen.Url.Path

/-!
URLs as browsers read them. A web URL is kept part by part, in normal form; of a file URL the
path matters, and of any other only the scheme.
-/

namespace ClickGen

/-- A query and a fragment, each with its mark when it is there. -/
structure Url.Suffix where
  query : Option Text := none
  fragment : Option Text := none
  deriving DecidableEq

inductive Url where
  /-- A URL with one of the schemes of the web. User and password are kept in one text. -/
  | web (scheme userinfo : Text) (host : Url.Host) (port : Option Nat) (path : Text)
    (suffix : Url.Suffix)
  | file (host : Option Url.Host) (path : Text)
  | other (scheme : Text)
  deriving DecidableEq

namespace Url

/-- The schemes that are followed by a host, with the port that goes without saying. -/
def webPorts : List (Text × Nat) :=
  [("http", 80), ("https", 443), ("ws", 80), ("wss", 443), ("ftp", 21)]

def scheme : Url → Text
  | web scheme .. => scheme
  | file .. => "file"
  | other scheme => scheme

/-- The input without controls and spaces at its ends. -/
def trimmed (s : Text) : Text := Text.trim (fun c => c.toNat ≤ 0x20) s

def isSchemeChar (c : Char) : Bool :=
  Text.isAsciiAlnum c || c == '+' || c == '-' || c == '.'

/-- The scheme that a URL starts with, in lower case, and what follows its colon. -/
def readScheme? (s : Text) : Option (Text × Text) :=
  match s.takeWhile isSchemeChar, s.dropWhile isSchemeChar with
  | first :: more, ':' :: rest =>
    if Text.isAsciiAlpha first then some ((first :: more).map Char.toLower, rest) else none
  | _, _ => none

/-- Cuts a text at its last `@`. -/
def cutAtLast? (s : Text) : Option (Text × Text) :=
  if s.contains '@' then
    let after := (s.reverse.takeWhile (· != '@')).reverse
    some (s.take (s.length - after.length - 1), after)
  else none

/-- The user and password of a URL, encoded; an empty password goes without its colon. -/
def normalUserinfo (s : Text) : Text :=
  let user := s.takeWhile (· != ':')
  let password := (s.dropWhile (· != ':')).drop 1
  percentEncode encodesInUserinfo user ++
    if password.isEmpty then [] else ':' :: percentEncode encodesInUserinfo password

/-- The length of a host in front of a port: up to a colon outside brackets. -/
def hostLength (inBrackets : Bool) : Text → Nat
  | [] => 0
  | c :: rest =>
    if c = ':' && !inBrackets then 0
    else hostLength (if c = '[' then true else if c = ']' then false else inBrackets) rest + 1

/-- Reads what follows a host: nothing, or a colon and a port, which may be left out. -/
def readPort? (default? : Option Nat) : Text → Option (Option Nat)
  | [] => some none
  | _ :: digits =>
    let shown := digits.takeWhile Text.isDigit
    let rest := digits.dropWhile Text.isDigit
    let port := Text.digitsValue shown
    if port > 65535 || !(rest.isEmpty || rest.head? = some '\\') then none
    else if shown.isEmpty || some port = default? then some none
    else some (some port)

def endsAuthority (web : Bool) (c : Char) : Bool :=
  c == '/' || c == '?' || c == '#' || (web && c == '\\')

def startsSuffix (c : Char) : Bool := c == '?' || c == '#'

def readSuffix (s : Text) : Suffix :=
  let query := s.takeWhile (· != '#')
  let fragment := s.dropWhile (· != '#')
  { query := if query.isEmpty then none else some (percentEncode encodesInQuery (query.drop 1))
    fragment :=
      if fragment.isEmpty then none
      else some (percentEncode encodesInFragment (fragment.drop 1)) }

/-- The user information in front of a host, and the rest. An empty one in front of nothing is
refused when something follows the whole. -/
def readUserinfo? (authority : Text) (followed : Bool) : Option (Text × Text) :=
  match cutAtLast? authority with
  | none => some ([], authority)
  | some (info, rest) =>
    if info.isEmpty && rest.isEmpty && followed then none else some (normalUserinfo info, rest)

/-- Reads a web URL after its scheme. -/
def readWeb? (scheme : Text) (defaultPort : Nat) (s : Text)
    (toAscii? : Host.Mapping := Host.lettersToAscii?) : Option Url := do
  let s := s.dropWhile isSlash
  let authority := s.takeWhile (!endsAuthority true ·)
  let rest := s.dropWhile (!endsAuthority true ·)
  let (userinfo, place) ← readUserinfo? authority (!rest.isEmpty)
  let length := hostLength false place
  let host ← Host.read? (place.take length) toAscii?
  let port ← readPort? (some defaultPort) (place.drop length)
  let path := Path.readWeb (rest.takeWhile (!startsSuffix ·))
  return web scheme userinfo host port path (readSuffix (rest.dropWhile (!startsSuffix ·)))

/-- The host of a file URL, unless it is empty or this machine. -/
def readFileHost? (s : Text) (toAscii? : Host.Mapping := Host.lettersToAscii?) :
    Option (Option Host) :=
  if s.isEmpty then some none
  else
    match Host.read? s toAscii? with
    | none => none
    | some host => some (if host = .domain "localhost" then none else some host)

/-- What follows a slash that the text begins with. -/
def afterSlash? (s : Text) : Option Text :=
  match s.dropWhile isIgnored with
  | [] => none
  | c :: rest => if isSlash c then some rest else none

/-- Reads a file URL after its scheme. The characters that are ignored elsewhere are still in it,
because a path can be broken by them. -/
def readFile? (s : Text) (toAscii? : Host.Mapping := Host.lettersToAscii?) : Option Url :=
  let body := s.takeWhile (!startsSuffix ·)
  match afterSlash? body with
  | none => some (file none (Path.readFile body).1)
  | some path =>
    match afterSlash? path with
    | none => some (file none (Path.readFile path).1)
    | some rest =>
      let name := dropIgnored (rest.takeWhile (!isSlash ·))
      if isDrive name then some (file none (Path.readFile rest).1)
      else
        let after := rest.dropWhile (!isSlash ·)
        match readFileHost? name toAscii? with
        | none => none
        | some none => some (file none (Path.readFile after).1)
        | some (some host) =>
          let (path, drive) := Path.readFile (after.drop 1)
          some (file (if drive then none else some host) path)

/-- Reads any other URL after its scheme: with a host, that has to be well formed. -/
def readOther? (scheme s : Text) : Option Url :=
  match s with
  | '/' :: '/' :: rest => do
    let authority := rest.takeWhile (!endsAuthority false ·)
    let followed := !(rest.dropWhile (!endsAuthority false ·)).isEmpty
    let (userinfo, place) ← readUserinfo? authority followed
    let length := hostLength false place
    let host := place.take length
    if !Host.isOpaque host then none
    else if host.isEmpty && (!(place.drop length).isEmpty || !userinfo.isEmpty) then none
    else
      let _ ← readPort? none (place.drop length)
      return other scheme
  | _ => some (other scheme)

/-- Reads a URL that stands on its own. Names of hosts outside ASCII are left to `toAscii?`. -/
def read? (s : Text) (toAscii? : Host.Mapping := Host.lettersToAscii?) : Option Url := do
  let s := trimmed s
  let (scheme, rest) ← readScheme? (dropIgnored s)
  if scheme = "file".toList then readFile? ((s.dropWhile (· != ':')).drop 1) toAscii?
  else
    match webPorts.lookup scheme with
    | some port => readWeb? scheme port rest toAscii?
    | none => readOther? scheme rest

/-- The text of a web URL; of any other, what is kept of it. -/
def render : Url → Text
  | web scheme userinfo host port path suffix =>
    scheme ++ "://" ++ (if userinfo.isEmpty then [] else userinfo ++ ['@']) ++ host.render ++
      (match port with
        | some n => ':' :: Text.ofNat n
        | none => []) ++
      path ++
      (match suffix.query with
        | some query => '?' :: query
        | none => []) ++
      (match suffix.fragment with
        | some fragment => '#' :: fragment
        | none => [])
  | file host path => "file://" ++ ((host.map Host.render).getD []) ++ path
  | other scheme => scheme ++ ":"

end Url

end ClickGen
