import ClickGen.Failure
import ClickGen.File.Tree
import ClickGen.Text.Blank
import ClickGen.Url.Basic

/-!
Where a model is: at a URL of the web, or in a file given by its path or by a file URL. The
address of a page that shows a file of a repository stands for the file itself.
-/

namespace ClickGen

inductive Locator where
  | remote (url : Url)
  /-- A file, by the bytes of its path. -/
  | onDisk (path : Bytes)
  deriving DecidableEq

/-- What the web answers to a request for a URL. -/
abbrev Web := Url → Except FetchFault Bytes

/-- No web at all. -/
def Web.offline : Web := fun _ => .error .network

namespace Locator

def pageHost : Text := "github.com"

def rawHost : Text := "raw.githubusercontent.com"

/-- The segments of the path of a web URL. -/
def pathSegments (path : Text) : List Text := Text.splitOn '/' (path.drop 1)

/-- A page `owner/repository/blob/reference/path` is read from the host of the files themselves,
without the segment `blob`. Every other URL is left as it is. -/
def rawFile (url : Url) (toAscii? : Url.Host.Mapping := Url.Host.lettersToAscii?) : Url :=
  match url with
  | .web _ _ (.domain host) _ path _ =>
    if host = pageHost ∨ host = rawHost then
      match pathSegments path with
      | owner :: repository :: kind :: reference :: first :: more =>
        if kind = "blob".toList then
          let path := List.intercalate ['/'] (owner :: repository :: reference :: first :: more)
          (Url.read? ("https://" ++ rawHost ++ "/" ++ path) toAscii?).getD url
        else url
      | _ => url
    else url
  | _ => url

/-- The path of a file URL on this machine. A drive at its end is followed by a slash. -/
def filePath? (url : Url) : Option Bytes :=
  match url with
  | .file none path =>
    let bytes := Url.percentDecode path
    match bytes.reverse with
    | mark :: letter :: _ :: _ =>
      let endsInDrive :=
        (mark == 0x3A || mark == 0x7C) && Text.isAsciiAlpha (Char.ofNat letter.toNat)
      some (if endsInDrive then bytes ++ [0x2F] else bytes)
    | _ => some bytes
  | _ => none

/-- Reads a locator. What is no URL is a path, and so is what looks like one behind the letter of
a drive. -/
def parse (input : Text) (toAscii? : Url.Host.Mapping := Url.Host.lettersToAscii?) :
    Except Failure Locator :=
  let input := Text.trimBlank input
  let refuse (reason : Text) : Except Failure Locator :=
    .error (.unreachable input (.invalidLocator reason))
  if input.isEmpty then refuse "empty locator"
  else
    match Url.read? input toAscii? with
    | none => .ok (.onDisk (Text.toUtf8 input))
    | some url =>
      if url.scheme = "http".toList ∨ url.scheme = "https".toList then
        .ok (.remote (rawFile url toAscii?))
      else if url.scheme = "file".toList then
        match filePath? url with
        | some path => .ok (.onDisk path)
        | none => refuse "file url has no usable path"
      else if url.scheme.length = 1 then .ok (.onDisk (Text.toUtf8 input))
      else refuse ("unsupported scheme '" ++ url.scheme ++ "'")

/-- The locator as it is shown in messages. -/
def display : Locator → Text
  | remote url => url.render
  | onDisk path => Text.ofUtf8Lenient path

/-- The bytes that a locator leads to. -/
def fetchBytes (files : FileTree) (web : Web) : Locator → Except FetchFault Bytes
  | remote url => web url
  | onDisk path => (files.read path).mapError .file

/-- The text that a locator leads to. -/
def fetch (files : FileTree) (web : Web := .offline) (locator : Locator) : Except Failure Text :=
  match locator.fetchBytes files web with
  | .error fault => .error (.unreachable locator.display fault)
  | .ok bytes =>
    (Text.ofUtf8 bytes).mapError fun valid =>
      .malformed locator.display "document is not valid UTF-8" valid
        (Text.byteSize (Text.ofUtf8Lenient bytes))

end Locator

end ClickGen
