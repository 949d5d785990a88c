import ClickGen.File.Fault

/-!
The ways in which generating a command can fail, with the message, the code, the help and the
labelled places of a source that go with each.
-/

namespace ClickGen

/-- A range of bytes of a source. -/
structure Span where
  start : Nat
  stop : Nat
  deriving DecidableEq

/-- Why a model could not be fetched. -/
inductive FetchFault where
  | file (fault : FileFault)
  | network
  /-- An answer of the web that is no success. -/
  | status (code : Nat)
  | invalidLocator (reason : Text)
  deriving DecidableEq

inductive Failure where
  | notFound (tag locator : Text)
  /-- A document that cannot be read, with a position in its source of `size` bytes. -/
  | malformed (locator message : Text) (position size : Nat)
  | unreachable (locator : Text) (cause : FetchFault)
  | template (path : Text)
  | write (path : Text) (cause : FileFault)
  | configFile (path : Text) (cause : FileFault)
  /-- A configuration that cannot be used. Text that is no configuration at all has no message. -/
  | config (detail : Option (Text × Span))
  deriving DecidableEq

def FetchFault.message : FetchFault → Text
  | file fault => "Io:" ++ fault.label
  | network => "no network"
  | status code => "server responded with HTTP " ++ Text.ofNat code
  | invalidLocator reason => "invalid locator: " ++ reason

namespace Failure

def kind : Failure → Text
  | notFound .. => "NotFound"
  | malformed .. => "MalformedDocument"
  | unreachable .. => "Unreachable"
  | template .. => "Template"
  | write .. => "Io"
  | configFile .. | config .. => "Config"

def message? : Failure → Option Text
  | notFound tag locator => some ("tag '" ++ tag ++ "' not found in model '" ++ locator ++ "'")
  | malformed locator message _ _ =>
    some ("model '" ++ locator ++ "' is not well-formed XML: " ++ message)
  | unreachable locator _ => some ("could not retrieve model '" ++ locator ++ "'")
  | template _ => none
  | write path _ => some ("failed to write '" ++ path ++ "'")
  | configFile path _ => some ("failed to read config '" ++ path ++ "'")
  | config detail => detail.map fun d => "invalid config: " ++ d.1

def code : Failure → Text
  | notFound .. => "opngen::model::not_found"
  | malformed .. => "opngen::model::malformed"
  | unreachable .. => "opngen::model::unreachable"
  | template .. => "opngen::template"
  | write .. => "opngen::io"
  | configFile .. => "opngen::config_io"
  | config .. => "opngen::config"

def help? : Failure → Option Text
  | notFound .. =>
    some "tag names are case sensitive, e.g. 'dnsbl' for the unbound dnsbl command"
  | unreachable .. => some "check the url, or pass a path to a local model.xml"
  | template .. => some "templates are resolved relative to --template-basedir"
  | config .. => some "known tables are [policy] and [paths]"
  | malformed .. | write .. | configFile .. => none

/-- The place that the failure is about, when it has one. A position in a document marks the one
byte there, and nothing at the end of the source. -/
def label? : Failure → Option Span
  | malformed _ _ position size => some ⟨min position size, min (position + 1) size⟩
  | config detail => detail.map (·.2)
  | _ => none

/-- The path that a failure to render is about. -/
def path? : Failure → Option Text
  | template path => some path
  | _ => none

/-- What lies behind a failure to reach a file. -/
def cause? : Failure → Option Text
  | unreachable _ cause => some cause.message
  | write _ fault | configFile _ fault => some ("Io:" ++ fault.label)
  | _ => none

end Failure

end ClickGen
