import ClickGen.Text.Basic

/-!
Finding a text in another: whether it occurs, what stands between its occurrences, and putting
another text in their place. Occurrences are taken from the left and do not overlap.
-/

namespace ClickGen.Text

/-- The parts between the occurrences of `mark`, which is not empty; `skip` characters belong to
the occurrence before. -/
def splitFrom (mark : Text) (skip : Nat) : Text → List Text
  | [] => [[]]
  | c :: rest =>
    match skip with
    | skip + 1 => splitFrom mark skip rest
    | 0 =>
      if mark.isPrefixOf (c :: rest) then [] :: splitFrom mark (mark.length - 1) rest
      else
        match splitFrom mark 0 rest with
        | [] => [[c]]
        | part :: parts => (c :: part) :: parts

/-- The parts between the occurrences of `mark`. The empty text occurs around every character. -/
def splitAround (mark s : Text) : List Text :=
  if mark.isEmpty then [] :: (s.map ([·]) ++ [[]]) else splitFrom mark 0 s

def hasText (mark s : Text) : Bool := (cutAt? mark s).isSome

/-- The text with `new` in place of every occurrence of `mark`. -/
def replaceAll (mark new s : Text) : Text := new.intercalate (splitAround mark s)

/-- The text with `new` in place of the first occurrence of `mark`. -/
def replaceFirst (mark new s : Text) : Text :=
  match cutAt? mark s with
  | some (before, after) => before ++ new ++ after
  | none => s

end ClickGen.Text
