import ClickGen.Text.Blank
import ClickGen.Text.Numeral

/-!
The values that templates work on: how one prints, when one counts as true or as empty, how two
compare, and what is found inside one under an index.
-/

namespace ClickGen.Template

inductive Value where
  | nil
  | bool (b : Bool)
  | int (i : Int)
  | text (t : Text)
  | list (items : List Value)
  | object (fields : List (Text × Value))
  /-- The literals `empty` and `blank`, which equal every value that is so. -/
  | void (orBlank : Bool)
  deriving Inhabited

namespace Value

mutual

/-- The value in output. The items of a list follow one another with nothing between. -/
def print : Value → Text
  | nil => []
  | bool b => if b then "true" else "false"
  | int i => Text.ofInt i
  | text t => t
  | list items => printAll items
  | object fields => printFields fields
  | void _ => []

def printAll : List Value → Text
  | [] => []
  | v :: rest => print v ++ printAll rest

def printFields : List (Text × Value) → Text
  | [] => []
  | (key, v) :: rest => key ++ (print v ++ printFields rest)

end

/-- Values that are not made of others. -/
def isScalar : Value → Bool
  | bool _ | int _ | text _ => true
  | _ => false

def isNil : Value → Bool
  | nil => true
  | _ => false

def isObject : Value → Bool
  | object _ => true
  | _ => false

/-- What a condition makes of a value: only `nil`, `false` and the literals `empty` and `blank`
count as false. -/
def isTruthy : Value → Bool
  | nil | void _ => false
  | bool b => b
  | _ => true

def isEmpty : Value → Bool
  | nil | void _ => true
  | text t => t.isEmpty
  | list items => items.isEmpty
  | object fields => fields.isEmpty
  | bool _ | int _ => false

def isBlank : Value → Bool
  | bool b => !b
  | text t => (Text.trimBlank t).isEmpty
  | v => v.isEmpty

/-- A value that gives way to a default. -/
def isMissing : Value → Bool
  | bool b => !b
  | v => v.isEmpty

/-- Whether `v` is what the literal `empty` or `blank` asks for. -/
def fits (orBlank : Bool) (v : Value) : Bool := if orBlank then v.isBlank else v.isEmpty

/-- Equality where not both values are lists and not both are objects. A boolean that meets a
value of another kind decides by itself, and with `nil` the other way round. -/
def sameAtom : Value → Value → Bool
  | nil, nil => true
  | void orBlank, v | v, void orBlank => fits orBlank v
  | int i, int j => i == j
  | text s, text t => s == t
  | bool b, bool c => b == c
  | bool b, nil | nil, bool b => !b
  | bool b, _ | _, bool b => b
  | _, _ => false

mutual

/-- Equality as conditions see it. Objects are equal when the second has equal values under the
keys of the first, and as many keys. -/
def same : Value → Value → Bool
  | list items, list others => sameAll items others
  | object fields, object others => fields.length == others.length && sameFields fields others
  | a, b => sameAtom a b

def sameAll : List Value → List Value → Bool
  | [], [] => true
  | a :: as, b :: bs => same a b && sameAll as bs
  | _, _ => false

def sameFields : List (Text × Value) → List (Text × Value) → Bool
  | [], _ => true
  | (key, v) :: rest, others =>
    (match others.lookup key with
      | some other => same v other
      | none => false) && sameFields rest others

end

/-! ### Order -/

/-- The order of two values that can be ordered: numbers, texts by their bytes, and booleans. -/
def orderAtom? : Value → Value → Option Ordering
  | int i, int j => some (compare i j)
  | text s, text t => some (compare s t)
  | bool b, bool c => some (compare b c)
  | _, _ => none

mutual

/-- The order of two values. Lists go by their first items that differ, and objects by the first
keys that differ or have values that do. -/
def order? : Value → Value → Option Ordering
  | list items, list others => orderAll? items others
  | object fields, object others => orderFields? fields others
  | a, b => orderAtom? a b

def orderAll? : List Value → List Value → Option Ordering
  | [], [] => some .eq
  | [], _ :: _ => some .lt
  | _ :: _, [] => some .gt
  | a :: as, b :: bs =>
    match order? a b with
    | some .eq => orderAll? as bs
    | result => result

def orderFields? : List (Text × Value) → List (Text × Value) → Option Ordering
  | [], [] => some .eq
  | [], _ :: _ => some .lt
  | _ :: _, [] => some .gt
  | (key, a) :: as, (other, b) :: bs =>
    match compare key other with
    | .eq =>
      match order? a b with
      | some .eq => orderFields? as bs
      | result => result
    | result => some result

end

/-! ### Whole numbers -/

/-- The whole number of 64 bits that a whole number becomes when higher digits are lost. -/
def wrap (i : Int) : Int := Int.bmod i 18446744073709551616

mutual

/-- Whether all whole numbers in a value take no more than 64 bits. -/
def isHeld : Value → Bool
  | int i => wrap i == i
  | list items => areHeld items
  | object fields => fieldsHeld fields
  | _ => true

def areHeld : List Value → Bool
  | [] => true
  | v :: rest => isHeld v && areHeld rest

def fieldsHeld : List (Text × Value) → Bool
  | [] => true
  | (_, v) :: rest => isHeld v && fieldsHeld rest

end

/-! ### Looking inside -/

/-- A whole number, or a text that gives one. -/
def toInt? : Value → Option Int
  | int i => some i
  | text t => Text.readInt64 t
  | _ => none

/-- The item at a position; a negative one counts from the end. -/
def item? (items : List Value) (i : Int) : Option Value :=
  let i := if i < 0 then i + items.length else i
  if i < 0 then none else items[i.toNat]?

/-- What a value holds under an index. Collections and texts have a `size`, and lists a `first`
and a `last`. -/
def member? (v : Value) (index : Value) : Option Value :=
  let name := index.print
  match v with
  | list items =>
    match index.toInt? with
    | some i => item? items i
    | none =>
      if name = "first".toList then items.head?
      else if name = "last".toList then items.getLast?
      else if name = "size".toList then some (int items.length)
      else none
  | object fields =>
    match fields.lookup name with
    | some found => some found
    | none => if name = "size".toList then some (int fields.length) else none
  | bool _ | int _ | text _ =>
    if name = "size".toList then some (int (Text.byteSize v.print)) else none
  | nil | void _ => none

end Value

end ClickGen.Template
