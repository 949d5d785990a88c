import ClickGen.Xml.Tag

/-!
The events of an XML text, read in one pass. The scan stands between markup, inside text, or
inside one kind of markup; it keeps the names of the elements that are open, and refuses an end
tag that does not close the innermost one.
-/

namespace ClickGen.Xml

inductive Event where
  | start (tag : Tag)
  | empty (tag : Tag)
  | close (name : Text)
  | text (raw : Text)
  | cdata (raw : Text)
  | comment
  | instruction
  | doctype
  deriving DecidableEq

/-- How a text ends for its reader: read through, or at a fault. Positions count bytes. -/
inductive Ending where
  | finished (position : Nat)
  | fault (fault : Fault) (position : Nat)
  deriving DecidableEq

/-- Events, each with the position where the one before it ended. -/
structure Stream where
  events : List (Nat × Event)
  ending : Ending

/-- What the scan is inside of, with the characters read there, last first. -/
inductive Mode where
  | between
  | text (raw : Text)
  | opened
  | element (raw : Text) (quote : Option Char)
  | closing (raw : Text)
  | instruction (raw : Text)
  | bang
  | comment (raw : Text)
  | cdata (raw : Text)
  | doctype (raw : Text) (depth : Int)

/-- The state of the scan: bytes read, where the last event ended, where the last `<` ended, and
the names of the open elements, innermost first. -/
structure Scanner where
  mode : Mode := .between
  offset : Nat := 0
  mark : Nat := 0
  markup : Nat := 0
  openNames : List Text := []

inductive Step where
  | going (next : Scanner)
  | event (e : Event) (next : Scanner)
  | fault (fault : Fault) (position : Nat)

namespace Scanner

/-- Ends the markup at hand with an event. -/
def emit (s : Scanner) (e : Event) : Step :=
  .event e { s with mode := .between, mark := s.offset }

/-- A start tag, or an empty tag when a slash ends it. -/
def endElement (s : Scanner) (content : Text) : Step :=
  match content.reverse with
  | '/' :: back =>
    let inner := back.reverse
    s.emit (.empty ⟨inner.takeWhile (!isSpace ·), inner.dropWhile (!isSpace ·)⟩)
  | _ =>
    let name := content.takeWhile (!isSpace ·)
    { s with openNames := name :: s.openNames }.emit
      (.start ⟨name, content.dropWhile (!isSpace ·)⟩)

/-- An end tag. White space after its name does not count, unless there is nothing else. -/
def endClosing (s : Scanner) (content : Text) : Step :=
  let name := if content.all isSpace then content else Text.trimEnd isSpace content
  match s.openNames with
  | [] => .fault (.mismatchedEnd [] content) position
  | expected :: outer =>
    if name = expected then { s with openNames := outer }.emit (.close name)
    else .fault (.mismatchedEnd expected name) position
where
  /-- What has been read, less the name and its slash. -/
  position : Nat := s.offset - (1 + Text.byteSize content)

/-- A processing instruction or declaration. It ends in a question mark of its own. -/
def endInstruction (s : Scanner) (content : Text) : Step :=
  match content.reverse with
  | '?' :: _ :: _ => s.emit .instruction
  | _ => .fault (.unfinished .instruction) (s.offset - (1 + Text.byteSize content))

def endComment (s : Scanner) (content : Text) : Step :=
  match Text.after? "--" content with
  | some _ => s.emit .comment
  | none => .fault (.unfinished .comment) s.offset

/-- Whether the text begins with `mark`, whatever the case of its letters. -/
def beginsWith (mark : Text) (s : Text) : Bool :=
  Text.eqIgnoreCase mark (s.take mark.length)

def endCData (s : Scanner) (content : Text) : Step :=
  if beginsWith "[CDATA[" content then
    s.emit (.cdata ((content.drop 7).take (content.length - 9)))
  else .fault (.unfinished .cdata) s.offset

def endDoctype (s : Scanner) (content : Text) : Step :=
  if beginsWith "DOCTYPE" content then
    if (content.drop 7).all isSpace then .fault .emptyDoctype s.offset else s.emit .doctype
  else .fault (.unfinished .doctype) s.offset

/-- One character of an element's tag. A bracket inside quotes does not end it. -/
def stepElement (s : Scanner) (raw : Text) (quote : Option Char) (c : Char) : Step :=
  match quote with
  | some q => .going { s with mode := .element (c :: raw) (if c = q then none else some q) }
  | none =>
    if c = '>' then s.endElement raw.reverse
    else if c = '\'' ∨ c = '"' then .going { s with mode := .element (c :: raw) (some c) }
    else .going { s with mode := .element (c :: raw) none }

/-- Reads one character. -/
def step (before : Scanner) (c : Char) : Step :=
  let s := { before with offset := before.offset + c.utf8Size }
  match s.mode with
  | .between =>
    if isSpace c then .going s
    else if c = '<' then .going { s with mode := .opened, markup := s.offset }
    else .going { s with mode := .text [c] }
  | .text raw =>
    if c = '<' then
      .event (.text (Text.trimEnd isSpace raw.reverse))
        { s with mode := .opened, mark := before.offset, markup := s.offset }
    else .going { s with mode := .text (c :: raw) }
  | .opened =>
    if c = '!' then .going { s with mode := .bang }
    else if c = '/' then .going { s with mode := .closing [] }
    else if c = '?' then .going { s with mode := .instruction [] }
    else s.stepElement [] none c
  | .element raw quote => s.stepElement raw quote c
  | .closing raw =>
    if c = '>' then s.endClosing raw.reverse else .going { s with mode := .closing (c :: raw) }
  | .instruction raw =>
    if c = '>' then s.endInstruction raw.reverse
    else .going { s with mode := .instruction (c :: raw) }
  | .bang =>
    if c = '-' then .going { s with mode := .comment [c] }
    else if c = '[' then .going { s with mode := .cdata [c] }
    else if c = 'D' ∨ c = 'd' then .going { s with mode := .doctype [c] 0 }
    else .fault (.unknownBang (leadByte c)) s.markup
  | .comment raw =>
    match c, raw with
    | '>', '-' :: '-' :: _ :: _ :: _ => s.endComment raw.reverse
    | _, _ => .going { s with mode := .comment (c :: raw) }
  | .cdata raw =>
    match c, raw with
    | '>', ']' :: ']' :: _ => s.endCData raw.reverse
    | _, _ => .going { s with mode := .cdata (c :: raw) }
  | .doctype raw depth =>
    if c = '>' then
      if depth = 0 then s.endDoctype raw.reverse
      else .going { s with mode := .doctype (c :: raw) (depth - 1) }
    else .going { s with mode := .doctype (c :: raw) (if c = '<' then depth + 1 else depth) }

/-- What the end of the text means. An end tag and an instruction count as ended there. -/
def finish (s : Scanner) : Stream :=
  match s.mode with
  | .between | .opened => ⟨[], .finished s.offset⟩
  | .text raw =>
    ⟨[(s.mark, .text (Text.trimEnd isSpace raw.reverse))], .finished s.offset⟩
  | .closing raw => ended (s.endClosing raw.reverse)
  | .instruction raw => ended (s.endInstruction raw.reverse)
  | .element .. => unfinished .element
  | .bang => unfinished .bang
  | .comment _ => unfinished .comment
  | .cdata _ => unfinished .cdata
  | .doctype .. => unfinished .doctype
where
  unfinished (construct : Construct) : Stream := ⟨[], .fault (.unfinished construct) s.markup⟩
  ended : Step → Stream
    | .going next => ⟨[], .finished next.offset⟩
    | .event e next => ⟨[(s.mark, e)], .finished next.offset⟩
    | .fault fault position => ⟨[], .fault fault position⟩

/-- Reads a text to its end or first fault. -/
def run (s : Scanner) : Text → Stream
  | [] => s.finish
  | c :: rest =>
    match s.step c with
    | .going next => run next rest
    | .event e next =>
      let stream := run next rest
      ⟨(s.mark, e) :: stream.events, stream.ending⟩
    | .fault fault position => ⟨[], .fault fault position⟩

end Scanner

/-- The events of an XML text. A byte order mark in front is passed over and not counted. -/
def Stream.ofText (xml : Text) : Stream :=
  match xml with
  | '\uFEFF' :: rest => Scanner.run {} rest
  | _ => Scanner.run {} xml

end ClickGen.Xml
