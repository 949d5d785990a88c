import ClickGen.Template.Value

/-!
Expressions: literals, and variables with a path into them. An expression has no value when its
variable or something on the path is not there.
-/

namespace ClickGen.Template

inductive Expr where
  | literal (v : Value)
  /-- A variable, and the indexes that lead into it. -/
  | named (name : Text) (path : List Expr)

namespace Expr

mutual

def eval? (find : Text → Option Value) : Expr → Option Value
  | literal v => some v
  | named name path =>
    match find name with
    | some v => follow? find v path
    | none => none

/-- The value inside `v` at the end of a path. -/
def follow? (find : Text → Option Value) (v : Value) : List Expr → Option Value
  | [] => some v
  | e :: rest =>
    match eval? find e with
    | some index =>
      if index.isScalar then
        match v.member? index with
        | some found => follow? find found rest
        | none => none
      else none
    | none => none

end

/-- A literal as a template may write it. -/
def literalLabel : Value → Text
  | .nil => "nil"
  | .void orBlank => if orBlank then "blank" else "empty"
  | .text t => '"' :: (t ++ ['"'])
  | v => v.print

mutual

/-- The expression in a form that tells expressions apart. -/
def label : Expr → Text
  | literal v => literalLabel v
  | named name path => name ++ labels path

def labels : List Expr → Text
  | [] => []
  | e :: rest => '[' :: (label e ++ (']' :: labels rest))

end

end Expr

end ClickGen.Template
