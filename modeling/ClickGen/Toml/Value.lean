import ClickGen.Decimal
import ClickGen.Failure

/-!
Values of a TOML document, each with the range of bytes that it takes there, and the rules by
which keys are put into tables: what a table was made by decides what may still be added to it.
-/

namespace ClickGen.Toml

/-- A number with a point or an exponent, or one of the special numbers. -/
inductive Real where
  | finite (d : Decimal)
  | infinite (negative : Bool)
  | notANumber
  deriving DecidableEq

/-- What made a table. -/
inductive Maker where
  /-- A header of its own, or the document itself. -/
  | header
  /-- The header of a table further inside. -/
  | passing
  /-- A key with dots. -/
  | dotted
  /-- Braces. Nothing is added to such a table. -/
  | inBraces
  deriving DecidableEq

structure Key where
  name : Text
  span : Span
  deriving DecidableEq

inductive Value where
  | text (t : Text)
  | integer (i : Int)
  | real (r : Real)
  /-- A word with the shape of a number that says none. -/
  | noNumber
  | boolean (b : Bool)
  /-- A date, a time, or both. -/
  | moment
  /-- The items of an array. Headers in double brackets add tables to the array that they made. -/
  | array (byHeaders : Bool) (items : List (Span × Value))
  | table (maker : Maker) (entries : List (Key × Span × Value))

/-- The entries of a table, in the order of their keys' first mention. -/
abbrev Entries := List (Key × Span × Value)

structure Table where
  maker : Maker
  entries : Entries

namespace Entries

def get? (name : Text) : Entries → Option (Span × Value)
  | [] => none
  | (key, item) :: rest => if key.name = name then some item else get? name rest

/-- Puts a value in the place of another. -/
def replace (name : Text) (item : Span × Value) : Entries → Entries
  | [] => []
  | (key, old) :: rest =>
    if key.name = name then (key, item) :: rest else (key, old) :: replace name item rest

/-- Puts a key and its value in the place of an equal key and its value. -/
def restate (key : Key) (item : Span × Value) : Entries → Entries
  | [] => []
  | old :: rest =>
    if old.1.name = key.name then (key, item) :: rest else old :: restate key item rest

end Entries

namespace Table

def toValue (t : Table) : Value := .table t.maker t.entries

/-- Adds a key that is not there yet. -/
def insert? (t : Table) (key : Key) (span : Span) (v : Value) : Option Table :=
  if (t.entries.get? key.name).isSome then none
  else some { t with entries := t.entries ++ [(key, span, v)] }

/-- The last item of an array, changed. -/
def updateLast? (f : Value → Option Value) : List (Span × Value) → Option (List (Span × Value))
  | [] => none
  | [(span, v)] => (f v).map fun v => [(span, v)]
  | item :: rest => (updateLast? f rest).map (item :: ·)

/-- Whether a key may lead into a table. Dots do not lead into one that has a header. -/
def admits (dots : Bool) (maker : Maker) : Bool :=
  match maker with
  | .header => !dots
  | .passing | .dotted => true
  | .inBraces => false

/-- Changes the table at the end of a path, and makes the tables that are missing on the way. A
path leads into the last table of an array that headers have made. -/
def at? (dots : Bool) (f : Table → Option Table) : List Key → Table → Option Table
  | [], t => f t
  | key :: path, t =>
    let enter (v : Value) : Option Value :=
      match v with
      | .table maker entries =>
        if admits dots maker then (at? dots f path ⟨maker, entries⟩).map toValue else none
      | _ => none
    match t.entries.get? key.name with
    | none =>
      match at? dots f path ⟨if dots then .dotted else .passing, []⟩ with
      | some inner => some { t with entries := t.entries ++ [(key, key.span, inner.toValue)] }
      | none => none
    | some (span, .array true items) =>
      let enterLast (v : Value) : Option Value :=
        match v with
        | .table maker entries => (at? dots f path ⟨maker, entries⟩).map toValue
        | _ => none
      match updateLast? enterLast items with
      | some items =>
        some { t with entries := t.entries.replace key.name (span, .array true items) }
      | none => none
    | some (span, v) =>
      match enter v with
      | some v => some { t with entries := t.entries.replace key.name (span, v) }
      | none => none

/-- Adds a value under a key with dots, or under a plain one. Dots only add to tables that dots
have made, and plain keys never do. -/
def assign? (t : Table) (path : List Key) (key : Key) (span : Span) (v : Value) : Option Table :=
  at? true (fun inner =>
    if inner.maker = .dotted ∧ path.isEmpty ∨ inner.maker ≠ .dotted ∧ ¬path.isEmpty then none
    else inner.insert? key span v) path t

/-- Adds the table of a header, whose keys `fill` puts in. It may have been made in passing; its
place is then that of the header. -/
def addTable? (t : Table) (path : List Key) (key : Key) (span : Span)
    (fill : Table → Option Table) : Option Table :=
  at? false (fun outer =>
    match outer.entries.get? key.name with
    | none =>
      match fill ⟨.header, []⟩ with
      | some inner => outer.insert? key span inner.toValue
      | none => none
    | some (_, .table .passing entries) =>
      match fill ⟨.header, entries⟩ with
      | some inner =>
        some { outer with entries := outer.entries.restate key (span, inner.toValue) }
      | none => none
    | some _ => none) path t

/-- Adds the table of a header in double brackets to its array. -/
def addToArray? (t : Table) (path : List Key) (key : Key) (span : Span)
    (fill : Table → Option Table) : Option Table :=
  match fill ⟨.header, []⟩ with
  | none => none
  | some inner =>
    at? false (fun outer =>
      match outer.entries.get? key.name with
      | none => outer.insert? key span (.array true [(span, inner.toValue)])
      | some (whole, .array true items) =>
        some { outer with
          entries := outer.entries.replace key.name
            (whole, .array true (items ++ [(span, inner.toValue)])) }
      | some _ => none) path t

end Table

end ClickGen.Toml
