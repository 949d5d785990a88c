import ClickGen.Element
import ClickGen.Xml.Reference

/-!
Tags of elements, and the attributes in them: keys with quoted values, no key twice.
-/

namespace ClickGen.Xml

/-- A start tag or an empty tag: the name, and the rest up to the end of the markup. -/
structure Tag where
  name : Text
  body : Text
  deriving DecidableEq

/-- Where a reader of attributes stands. Keys and values are collected last character first, a
key with the position of its first character. -/
inductive AttributeState where
  | between
  | key (start : Nat) (raw : Text)
  | afterKey (start : Nat) (key : Text)
  | beforeValue (key : Text)
  | value (key : Text) (quote : Char) (raw : Text)

/-- The keys read so far, each with its position. -/
abbrev SeenKeys := List (Text × Nat)

def equalsAfter (seen : SeenKeys) (start : Nat) (key : Text) :
    Except Fault (SeenKeys × AttributeState) :=
  match seen.lookup key with
  | some previous => .error (.attribute (.duplicate start previous))
  | none => .ok ((key, start) :: seen, .beforeValue key)

/-- Reads attributes from `position` on, in a tag of `size` bytes. -/
def attributesFrom (size position : Nat) (seen : SeenKeys) (state : AttributeState) :
    Text → Except Fault (List (Text × Text))
  | [] =>
    match state with
    | .between => .ok []
    | .key .. | .afterKey .. => .error (.attribute (.expectedEquals size))
    | .beforeValue _ => .error (.attribute (.expectedValue size))
    | .value _ quote _ => .error (.attribute (.unclosedQuote size quote))
  | c :: rest =>
    let next := position + c.utf8Size
    match state with
    | .between =>
      if isSpace c then attributesFrom size next seen .between rest
      else attributesFrom size next seen (.key position [c]) rest
    | .key start raw =>
      if c = '=' then do
        let (seen, state) ← equalsAfter seen start raw.reverse
        attributesFrom size next seen state rest
      else if isSpace c then attributesFrom size next seen (.afterKey start raw.reverse) rest
      else attributesFrom size next seen (.key start (c :: raw)) rest
    | .afterKey start key =>
      if c = '=' then do
        let (seen, state) ← equalsAfter seen start key
        attributesFrom size next seen state rest
      else if isSpace c then attributesFrom size next seen (.afterKey start key) rest
      else .error (.attribute (.expectedEquals position))
    | .beforeValue key =>
      if isSpace c then attributesFrom size next seen (.beforeValue key) rest
      else if c = '"' ∨ c = '\'' then attributesFrom size next seen (.value key c []) rest
      else .error (.attribute (.unquotedValue position))
    | .value key quote raw =>
      if c = quote then do
        let value ← (expand raw.reverse).mapError Fault.reference
        return (key, value) :: (← attributesFrom size next seen .between rest)
      else attributesFrom size next seen (.value key quote (c :: raw)) rest

/-- The attributes of a tag in order, with the references in their values replaced. -/
def Tag.attributes (tag : Tag) : Except Fault (List (Text × Text)) :=
  let start := Text.byteSize tag.name
  attributesFrom (start + Text.byteSize tag.body) start [] .between tag.body

/-- The element that a tag opens, without text and children yet. -/
def Tag.element (tag : Tag) : Except Fault Element := do
  let attributes ← tag.attributes
  return attributes.foldl (fun e entry => e.setAttribute entry.1 entry.2) { name := tag.name }

end ClickGen.Xml
