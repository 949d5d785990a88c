import ClickGen.Template.Spelling
import ClickGen.Text.Case

/-!
Lists arranged anew: sorted, and rid of items that are there twice. What items are compared by is
the view of each, which is the item itself or something inside it.
-/

namespace ClickGen.Template

/-- The items of a list; any other value but `nil` is the one item of itself. -/
def sequence : Value → List Value
  | .list items => items
  | .nil => []
  | v => [v]

/-- The value under a key of an object. -/
def field? (key : Text) : Value → Option Value
  | .object fields => fields.lookup key
  | _ => none

/-- An item and what is looked at of it. -/
structure Viewed where
  view : Value
  item : Value

/-- Items that are looked at as they are. -/
def viewed (items : List Value) : List Viewed := items.map fun v => ⟨v, v⟩

/-- Items with the values under a key of theirs. Only objects have keys. -/
def viewedAt? (key : Text) (items : List Value) : Option (List Viewed) :=
  if items.all Value.isObject then some (items.map fun v => ⟨(field? key v).getD .nil, v⟩)
  else none

/-- The value at the end of a path into `v`, which is written as that into a variable. -/
def along (find : Text → Option Value) (path : Text) (v : Value) : Value :=
  match readVariable? path with
  | some (name, rest) =>
    match v.member? (.text name) with
    | some found => (Expr.follow? find found rest).getD .nil
    | none => .nil
  | none => .nil

/-- Items with the values at the end of a path into them. Only objects are followed. -/
def viewedAlong? (find : Text → Option Value) (path : Text) (items : List Value) :
    Option (List Viewed) :=
  if items.all Value.isObject then some (items.map fun v => ⟨along find path v, v⟩) else none

/-! ### Sorting -/

/-- Puts an item into a row, the last one first, behind all that it does not come before. -/
def insertLast (before : Viewed → Viewed → Bool) (x : Viewed) : List Viewed → List Viewed
  | [] => [x]
  | y :: rest => if before x y then y :: insertLast before x rest else x :: y :: rest

/-- Sorts by insertion, so that an order with gaps moves an item only as far as it is told. -/
def sortBy (before : Viewed → Viewed → Bool) (items : List Viewed) : List Value :=
  (items.foldl (fun row x => insertLast before x row) []).reverse.map Viewed.item

/-- Whether a view comes before another; `nil` comes last, and values without an order between them
stay as they are. -/
def comesBefore (order? : Value → Value → Option Ordering) (a b : Viewed) : Bool :=
  !a.view.isNil && (b.view.isNil || order? a.view b.view == some .lt)

/-- Alphabetical order regardless of case. -/
def naturalOrder (a b : Value) : Option Ordering :=
  some (compare (Text.lower a.print) (Text.lower b.print))

/-! ### Repeated items -/

/-- The items that are not the same as one before them or one of `seen`. -/
def distinct (seen : List Value) : List Value → List Value
  | [] => []
  | v :: rest =>
    if seen.any (Value.same · v) then distinct seen rest else v :: distinct (v :: seen) rest

end ClickGen.Template
