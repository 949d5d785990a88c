import ClickGen.Template.Filter

/-!
Values sent through filters. A template may name any filter and give it anything; only where the
value is asked for has there to be such a filter that takes the arguments.
-/

namespace ClickGen.Template

/-- A filter as a template names it, with its arguments, of which some have names. -/
structure Mention where
  name : Text
  arguments : List Expr
  named : List (Text × Expr)

/-- A value and the filters it is said to be sent through, the first one first. -/
structure Phrase where
  start : Expr
  mentions : List Mention

/-- One filter with its arguments. -/
structure Call where
  filter : Filter
  arguments : List Expr

/-- A value and the filters it is sent through, the first one first. -/
structure Chain where
  start : Expr
  calls : List Call

/-- The filter that is named, if there is one that takes the arguments. None takes any with a
name. -/
def Mention.call? (m : Mention) : Option Call :=
  if m.named.isEmpty then
    (Filter.named? m.name m.arguments.length).map fun filter => ⟨filter, m.arguments⟩
  else none

/-- The chain that is meant, if all its filters are there. -/
def Phrase.chain? (p : Phrase) : Option Chain :=
  (p.mentions.mapM Mention.call?).map fun calls => ⟨p.start, calls⟩

/-- The result of a filter on a value. -/
def Call.apply? (find : Text → Option Value) (call : Call) (v : Value) : Option Value := do
  call.filter.apply find v (← call.arguments.mapM (Expr.eval? find))

/-- What filters make of a value, one after the other. -/
def Call.applyAll? (find : Text → Option Value) : List Call → Value → Option Value
  | [], v => some v
  | call :: rest, v =>
    match call.apply? find v with
    | some result => applyAll? find rest result
    | none => none

def Chain.eval? (find : Text → Option Value) (chain : Chain) : Option Value :=
  match chain.start.eval? find with
  | some v => Call.applyAll? find chain.calls v
  | none => none

end ClickGen.Template
