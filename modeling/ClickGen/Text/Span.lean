/-!
Sets of code points written as evenly spaced runs, and maps that move such a run as a whole.
-/

namespace ClickGen.Text

/-- The code points `lo`, `lo + step`, … up to `hi`. -/
structure Span where
  lo : Nat
  hi : Nat
  step : Nat

def Span.holds (s : Span) (n : Nat) : Bool :=
  s.lo ≤ n && n ≤ s.hi && (n - s.lo) % s.step == 0

/-- The code points of a span, each mapped to the one as far above `image` as it is above `lo`. -/
structure Shift where
  span : Span
  image : Nat

def Shift.apply (s : Shift) (n : Nat) : Nat := s.image + (n - s.span.lo)

end ClickGen.Text
