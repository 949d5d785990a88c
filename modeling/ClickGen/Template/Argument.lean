import ClickGen.Template.Node
import ClickGen.Template.Piece

/-!
What tags are given: conditions, the heads of loops, and the rest of their tokens.
-/

namespace ClickGen.Template

/-! ### Conditions -/

/-- A comparison or a bare value. -/
def readTest? : List Token → Option (Condition × List Token)
  | [] => none
  | t :: rest =>
    match t.value?, rest with
    | none, _ => none
    | some a, [] => some (.holds a, [])
    | some a, op :: rest' =>
      match Comparison.table.lookup op.word with
      | none => some (.holds a, op :: rest')
      | some comparison =>
        match rest' with
        | [] => none
        | u :: more => u.value?.map fun b => (.compare comparison a b, more)

/-- Tests joined by `and` and `or`, read from `left` on, where `done` is what came before the
last `or`. `and` binds more tightly. -/
def readJoined? (done : Option Condition) (left : Condition) :
    Nat → List Token → Option Condition
  | _, [] => some (match done with | some c => .either c left | none => left)
  | 0, _ => none
  | n + 1, t :: rest =>
    match readTest? rest with
    | none => none
    | some (right, more) =>
      if t.word = "and".toList then readJoined? done (.both left right) n more
      else if t.word = "or".toList then
        readJoined? (some (match done with | some c => .either c left | none => left)) right n more
      else none

def readCondition? (tokens : List Token) : Option Condition :=
  match readTest? tokens with
  | some (first, rest) => readJoined? none first rest.length rest
  | none => none

/-- Values separated by words of `marks`. -/
def readValues? (marks : List Text) : List Token → Option (List Expr)
  | [] => none
  | [t] => t.value?.map ([·])
  | t :: mark :: rest =>
    if marks.contains mark.word then
      match t.value?, readValues? marks rest with
      | some e, some more => some (e :: more)
      | _, _ => none
    else none

/-- The head of a loop with one setting more. -/
def setLoop? (table : Bool) (head : Loop) (name : Text) (e : Expr) : Option Loop :=
  if name = "limit".toList then some { head with limit? := some e }
  else if name = "offset".toList then some { head with offset? := some e }
  else if table && name = "cols".toList then some { head with columns? := some e }
  else none

/-- Settings of a loop after its source. Only a loop that makes no table can be reversed. -/
def readSettings? (table : Bool) (head : Loop) : List Token → Option Loop
  | [] => some head
  | word :: rest =>
    if !table && word.word = "reversed".toList then
      readSettings? table { head with reversed := true } rest
    else
      match rest with
      | colon :: value :: more =>
        match value.value? with
        | some e =>
          match if colon.word = ":".toList then setLoop? table head word.word e else none with
          | some head => readSettings? table head more
          | none => none
        | none => none
      | _ => none

def readSource? : Token → Option Source
  | .range first last => some (.range first last)
  | t => t.value?.map .items

def readLoop? (table : Bool) : List Token → Option Loop
  | variableName :: word :: source :: rest =>
    if word.word = "in".toList then
      match variableName.name?, readSource? source with
      | some name, some source => readSettings? table { name, source } rest
      | _, _ => none
    else none
  | _ => none

def readAssign? : List Token → Option Node
  | target :: sign :: [.phrase phrase] =>
    if sign.word = "=".toList then
      match target.name?, phrase.chain? with
      | some name, some chain => some (.assign name chain)
      | _, _ => none
    else none
  | _ => none

/-- The values of a cycle, each but the last before a comma, which the last may have too. -/
def readCycleValues? : List Token → Option (List Expr)
  | [] => some []
  | [t] => t.value?.map ([·])
  | t :: comma :: rest =>
    if comma.word = ",".toList then
      match t.value?, readCycleValues? rest with
      | some e, some more => some (e :: more)
      | _, _ => none
    else none

/-- The label of a cycle, written in front of its values. -/
def cycleLabel? (t : Token) : Option Text :=
  match t.name?, t.value? with
  | some name, _ => some name
  | none, some (.literal v) => some v.print
  | none, _ => none

/-- A cycle of values. Where there is no label, or an empty one, the values stand for it. -/
def cycleOf (label : Text) (values : List Expr) : Node :=
  .cycle (if label.isEmpty then List.intercalate ['-'] (values.map Expr.label) else label) values

def readCycle? : List Token → Option Node
  | [] => none
  | t :: rest =>
    match rest with
    | [] => t.value?.map fun e => cycleOf [] [e]
    | mark :: values =>
      if mark.word = ":".toList then
        match cycleLabel? t, readCycleValues? values with
        | some label, some values => some (cycleOf label values)
        | _, _ => none
      else (readCycleValues? (t :: mark :: values)).map (cycleOf [])

/-- The one name that a tag is given. -/
def soleName? : List Token → Option Text
  | [t] => t.name?
  | _ => none

/-! ### Other templates -/

/-- Names with values, which a comma may stand between and after. What follows a value without a
comma has to be the last token. -/
def areSettings : List Token → Bool
  | [] => true
  | name :: colon :: value :: rest =>
    name.name?.isSome && colon.word == ":".toList && value.value?.isSome &&
      (match rest with
        | [] => true
        | comma :: more => if comma.word = ",".toList then areSettings more else more.isEmpty)
  | _ => false

/-- Whether tokens name another template to be put in, and what it is given. -/
def isInclude : List Token → Bool
  | [] => false
  | template :: rest => template.value?.isSome && areSettings rest

/-- A value that another template gets under a name, or one that it is rendered for each item of. -/
def isGift : List Token → Bool
  | [word, source, link, name] =>
    link.word == "as".toList && name.name?.isSome &&
      ((word.word == "with".toList && source.value?.isSome) ||
        (word.word == "for".toList && (readSource? source).isSome))
  | _ => false

/-- Whether tokens name another template to be rendered, and what it is given. -/
def isRender : List Token → Bool
  | [] => false
  | template :: rest =>
    template.value?.isSome &&
      (isGift rest ||
        (match rest with
          | [] => true
          | comma :: more =>
            areSettings (if comma.word = ",".toList then more else comma :: more)))

end ClickGen.Template
