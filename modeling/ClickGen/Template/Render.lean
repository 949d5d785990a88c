import ClickGen.Template.Block

/-!
Rendering. Variables of loops hide assigned ones, which hide the globals that the template was
given. Rendering fails as a whole when a value that is needed has none.
-/

namespace ClickGen.Template

/-- Variables with their values, the innermost first. -/
abbrev Frame := List (Text × Value)

/-- What rendering a node can change for the nodes after it. -/
structure State where
  assigned : List (Text × Value) := []
  counters : List (Text × Int) := []
  /-- How often each cycle was used. -/
  cycles : List (Text × Nat) := []
  /-- What the last block printed that prints only on change. -/
  lastChanged? : Option Text := none
  interrupt? : Option Interrupt := none

/-- The value of a variable. -/
def find? (globals : Frame) (frames : List Frame) (state : State) (name : Text) : Option Value :=
  match frames.findSome? fun frame => frame.lookup name with
  | some v => some v
  | none =>
    match state.assigned.lookup name with
    | some v => some v
    | none =>
      match globals.lookup name with
      | some v => some v
      | none => (state.counters.lookup name).map .int

/-! ### Loops -/

/-- What a loop over a value goes through: the items of a list, the keys of an object with their
values, and nothing for `nil`. -/
def itemsOf? : Value → Option (List Value)
  | .list items => some items
  | .object fields => some (fields.map fun field => .list [.text field.1, field.2])
  | .nil | .void _ => some []
  | _ => none

/-- The whole numbers from `first` to `last`. -/
def numbers (first last : Int) : List Value :=
  (List.range (last - first + 1).toNat).map fun (i : Nat) => .int (first + i)

def Source.items? (find : Text → Option Value) : Source → Option (List Value)
  | items e => do itemsOf? (← e.eval? find)
  | range first last => do
    return numbers (← (← first.eval? find).toInt?) (← (← last.eval? find).toInt?)

/-- A number that a loop is given, or nothing where there is none. A negative number counts as
one that is too large. -/
def setting? (find : Text → Option Value) : Option Expr → Option (Option Int)
  | none => some none
  | some e => do return some (← (← e.eval? find).toInt?)

/-- A number that a loop is given for `length` items, which is at most that. -/
def capped (length : Nat) (i : Int) : Nat := if i < 0 then length else min i.toNat length

/-- The items after the first `offset`, and as many as the limit says. A limit that leaves room
behind the last item has it filled with `nil`. -/
def selected (limit? offset? : Option Int) (items : List Value) : List Value :=
  let offset := match offset? with | some i => capped items.length i | none => 0
  let count :=
    match limit? with
    | some i => capped items.length i
    | none => items.length - offset
  let kept := (items.drop offset).take count
  kept ++ List.replicate (count - kept.length) .nil

/-- The items that a loop goes through, in order. -/
def Loop.items? (find : Text → Option Value) (head : Loop) : Option (List Value) := do
  let items ← head.source.items? find
  let limit? ← setting? find head.limit?
  let offset? ← setting? find head.offset?
  let items := selected limit? offset? items
  return if head.reversed then items.reverse else items

/-- What a loop tells about where its round `index` of `length` is. -/
def placeFields (length index : Nat) : List (Text × Value) :=
  [("index0", .int index), ("index", .int (index + 1)),
    ("rindex0", .int (length - index - 1 : Nat)), ("rindex", .int (length - index : Nat)),
    ("first", .bool (index = 0)), ("last", .bool (index + 1 = length))]

/-- The variables of one round of a loop. -/
def loopFrame (name : Text) (parent : Value) (length index : Nat) (item : Value) : Frame :=
  [(name, item),
    ("forloop", .object (("length", .int length) :: ("parentloop", parent) ::
      placeFields length index))]

/-- The variables of one cell of a table. -/
def cellFrame (name : Text) (columns length index : Nat) (item : Value) : Frame :=
  [(name, item),
    ("tablerow", .object (("length", .int length) :: (placeFields length index ++ columnFields)))]
where
  columnFields : List (Text × Value) :=
    let column := index % columns
    [("col0", .int column), ("col", .int (column + 1)), ("col_first", .bool (column = 0)),
      ("col_last", .bool (column + 1 = columns || index + 1 = length))]

/-- Every item with its position. -/
def frames (frame : Nat → Value → Frame) : Nat → List Value → List Frame
  | _, [] => []
  | index, item :: rest => frame index item :: frames frame (index + 1) rest

/-- Renders the body of a loop in each of its frames, until the loop is left. -/
def rounds (body : Frame → State → Option (Text × State)) :
    List Frame → State → Option (Text × State)
  | [], state => some ([], state)
  | frame :: rest, state =>
    match body frame state with
    | none => none
    | some (s, state) =>
      if state.interrupt? = some .stop then some (s, { state with interrupt? := none })
      else
        match rounds body rest { state with interrupt? := none } with
        | some (t, state) => some (s ++ t, state)
        | none => none

/-- Renders the cells of a table from the cell `index` on, and begins and ends its rows. -/
def cells (columns : Nat) (body : Frame → State → Option (Text × State)) (index : Nat) :
    List Frame → State → Option (Text × State)
  | [], state => some ([], state)
  | frame :: rest, state =>
    match body frame state with
    | none => none
    | some (s, state) =>
      let column := index % columns
      let opening : Text :=
        if column = 0 then "<tr class=\"row" ++ Text.ofNat (index / columns + 1) ++ "\">" else []
      let closing : Text := if column + 1 = columns ∨ rest.isEmpty then "</tr>" else []
      let cell : Text := "<td class=\"col" ++ Text.ofNat (column + 1) ++ "\">" ++ s ++ "</td>"
      match cells columns body (index + 1) rest state with
      | some (t, state) => some (opening ++ cell ++ closing ++ t, state)
      | none => none

/-! ### Nodes -/

mutual

/-- What a node prints, and the state after it. -/
def Node.render (globals : Frame) (scope : List Frame) :
    Node → State → Option (Text × State)
  | .plain t, state => some (t, state)
  | .output chain, state =>
    match chain.eval? (find? globals scope state) with
    | some v => some (v.print, state)
    | none => none
  | .assign name chain, state =>
    match chain.eval? (find? globals scope state) with
    | some v => some ([], { state with assigned := (name, v) :: state.assigned })
    | none => none
  | .capture name body, state =>
    match renderAll globals scope body state with
    | some (s, state) =>
      some ([], { state with assigned := (name, .text s) :: state.assigned })
    | none => none
  | .choose condition body otherwise, state =>
    match condition.eval? (find? globals scope state) with
    | some true => renderAll globals scope body state
    | some false => renderAll globals scope otherwise state
    | none => none
  | .loop head body otherwise, state =>
    match head.items? (find? globals scope state) with
    | none => none
    | some [] => renderAll globals scope otherwise state
    | some items =>
      let parent := (find? globals scope state "forloop").getD .nil
      rounds (fun frame state => renderAll globals (frame :: scope) body state)
        (frames (loopFrame head.name parent items.length) 0 items) state
  | .table head body, state =>
    match head.items? (find? globals scope state),
        setting? (find? globals scope state) head.columns? with
    | some items, some columns? =>
      let columns := match columns? with | some c => c.toNat | none => items.length
      cells columns (fun frame state => renderAll globals (frame :: scope) body state) 0
        (frames (cellFrame head.name columns items.length) 0 items) state
    | _, _ => none
  | .ifChanged body, state =>
    match renderAll globals scope body state with
    | some (s, state) =>
      if state.lastChanged? = some s then some ([], state)
      else some (s, { state with lastChanged? := some s })
    | none => none
  | .interrupt i, state => some ([], { state with interrupt? := some i })
  | .cycle label values, state =>
    let used := (state.cycles.lookup label).getD 0
    match values[used]? with
    | some e =>
      match e.eval? (find? globals scope state) with
      | some v =>
        some (v.print,
          { state with cycles := (label, (used + 1) % values.length) :: state.cycles })
      | none => none
    | none => none
  | .increment name, state =>
    let count := (state.counters.lookup name).getD 0
    some (Text.ofInt count, { state with counters := (name, count + 1) :: state.counters })
  | .decrement name, state =>
    let count := (state.counters.lookup name).getD 0 - 1
    some (Text.ofInt count, { state with counters := (name, count) :: state.counters })
  | .partialTemplate, _ => none

/-- What nodes print one after the other, up to one that leaves a loop. -/
def renderAll (globals : Frame) (scope : List Frame) :
    List Node → State → Option (Text × State)
  | [], state => some ([], state)
  | node :: rest, state =>
    match Node.render globals scope node state with
    | none => none
    | some (s, state) =>
      if state.interrupt?.isSome then some (s, state)
      else
        match renderAll globals scope rest state with
        | some (t, state) => some (s ++ t, state)
        | none => none

end

end ClickGen.Template
