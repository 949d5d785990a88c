import ClickGen.Template.Expr
import ClickGen.Text.Search

/-!
Conditions: values that are there, values compared, and conditions put together.
-/

namespace ClickGen.Template

inductive Comparison where
  | equal | unequal | less | greater | lessOrEqual | greaterOrEqual | contains
  deriving DecidableEq

namespace Comparison

def table : List (Text × Comparison) :=
  [("==", equal), ("!=", unequal), ("<>", unequal), ("<", less), (">", greater),
    ("<=", lessOrEqual), (">=", greaterOrEqual), ("contains", contains)]

/-- Whether a value holds another: a text as a part, an object as a key, a list as an item. -/
def holds? (a b : Value) : Option Bool :=
  match a with
  | .bool _ | .int _ | .text _ => some (Text.hasText b.print a.print)
  | .object fields => some (b.isScalar && (fields.lookup b.print).isSome)
  | .list items => some (items.any (Value.same · b))
  | .nil | .void _ => none

/-- Whether two values compare so. Values that have no order are neither less nor greater. -/
def test? (comparison : Comparison) (a b : Value) : Option Bool :=
  match comparison with
  | equal => some (Value.same a b)
  | unequal => some (!Value.same a b)
  | less => some (Value.order? a b == some .lt)
  | greater => some (Value.order? a b == some .gt)
  | lessOrEqual => some ((Value.order? a b).any (· != .gt))
  | greaterOrEqual => some ((Value.order? a b).any (· != .lt))
  | contains => holds? a b

end Comparison

inductive Condition where
  /-- The value is there and counts as true. -/
  | holds (e : Expr)
  | compare (comparison : Comparison) (a b : Expr)
  | both (c d : Condition)
  | either (c d : Condition)
  | not (c : Condition)
  /-- The value equals one of the others. -/
  | oneOf (e : Expr) (others : List Expr)

/-- Whether a value equals that of one of the expressions, tried in order. -/
def isAnyOf? (find : Text → Option Value) (v : Value) : List Expr → Option Bool
  | [] => some false
  | e :: rest =>
    match e.eval? find with
    | some other => if Value.same other v then some true else isAnyOf? find v rest
    | none => none

/-- Whether a condition holds. A variable that is unknown makes a bare condition false, and gives
a comparison no result. -/
def Condition.eval? (find : Text → Option Value) : Condition → Option Bool
  | holds e => some ((e.eval? find).any Value.isTruthy)
  | compare comparison a b => do comparison.test? (← a.eval? find) (← b.eval? find)
  | both c d =>
    match c.eval? find with
    | some true => d.eval? find
    | result => result
  | either c d =>
    match c.eval? find with
    | some false => d.eval? find
    | result => result
  | not c => (c.eval? find).map (!·)
  | oneOf e others => do isAnyOf? find (← e.eval? find) others

end ClickGen.Template
