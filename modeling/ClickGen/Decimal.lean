import ClickGen.Text.Numeral

/-!
Decimal numbers as doubles hold them. A number is first moved to the nearest double, which has
53 binary digits, and then written with the fewest decimal digits that still lead back to it.
-/

namespace ClickGen

/-- The number `mantissa · 10 ^ exponent`, possibly negative. -/
structure Decimal where
  negative : Bool
  mantissa : Nat
  exponent : Int
  deriving DecidableEq

namespace Decimal

/-- A positive number `mantissa · 2 ^ exponent`. -/
structure Binary where
  mantissa : Nat
  exponent : Int
  deriving DecidableEq

/-- A quotient, rounded to the nearest whole number, and from halfway to the even one. -/
def roundQuotient (num den : Nat) : Nat :=
  let q := num / den
  let r := num % den
  if 2 * r > den ∨ (2 * r = den ∧ q % 2 = 1) then q + 1 else q

/-- The two parts of a fraction after multiplication with `base ^ exponent`. -/
def scale (base : Nat) (exponent : Int) (fraction : Nat × Nat) : Nat × Nat :=
  match exponent with
  | .ofNat n => (fraction.1 * Nat.pow base n, fraction.2)
  | .negSucc n => (fraction.1, fraction.2 * Nat.pow base (n + 1))

/-- The mantissa of a double is below this number: it has 53 binary digits. -/
def mantissaBound : Nat := 9007199254740992

/-- The smallest mantissa that takes all 53 digits. -/
def fullMantissa : Nat := 4503599627370496

/-- The smallest exponent of a double, and the largest. -/
def leastExponent : Int := -1074

def greatestExponent : Int := 971

/-- The double nearest to a fraction above zero, unless that is too large to be one. -/
def nearest? (fraction : Nat × Nat) : Option Binary :=
  let size : Int := (Nat.log2 fraction.1 : Int) - Nat.log2 fraction.2
  let first := max (size - 53) leastExponent
  let quotient (e : Int) : Nat × Nat := scale 2 (-e) fraction
  let exponent :=
    if (quotient first).1 / (quotient first).2 < mantissaBound then first else first + 1
  let mantissa := roundQuotient (quotient exponent).1 (quotient exponent).2
  let rounded : Binary :=
    if mantissa < mantissaBound then ⟨mantissa, exponent⟩ else ⟨fullMantissa, exponent + 1⟩
  if rounded.exponent > greatestExponent then none else some rounded

/-- The exponent of the first decimal digit of a fraction above zero. -/
def leadingExponent (fraction : Nat × Nat) : Int :=
  let digits (n : Nat) : Int := (Nat.toDigits 10 n).length
  if fraction.2 ≤ fraction.1 then digits (fraction.1 / fraction.2) - 1
  else
    let inverse := (fraction.2 + fraction.1 - 1) / fraction.1
    Int.neg (digits (inverse - 1))

/-- Of the numbers that have no digits below `10 ^ exponent`, the one nearest to a double, when it
leads back to the double. Numbers that lead back lie within half a step around it; the steps below
a power of two are half as wide. -/
def onGrid? (b : Binary) (exponent : Int) : Option Nat :=
  let quarter := b.exponent - 2
  let value := 4 * b.mantissa
  let low :=
    if b.mantissa = fullMantissa ∧ b.exponent > leastExponent then value - 1 else value - 2
  let high := value + 2
  /- A whole number of quarters and a number on the grid, over one denominator. -/
  let quarters := scale 2 quarter (1, 1)
  let grid := scale 10 exponent (1, 1)
  let unit := quarters.1 * grid.2
  let mesh := grid.1 * quarters.2
  let fits (d : Nat) : Bool :=
    if b.mantissa % 2 = 0 then low * unit ≤ d * mesh && d * mesh ≤ high * unit
    else low * unit < d * mesh && d * mesh < high * unit
  let below := value * unit / mesh
  let above := below + 1
  let nearer := if 2 * (value * unit) < (below + above) * mesh then below else above
  let further := if nearer = below then above else below
  if fits nearer then some nearer else if fits further then some further else none

/-- The fewest digits that lead back to a double, with the exponent of the last one. -/
def shortest (b : Binary) : Nat × Int :=
  let top := leadingExponent (scale 2 b.exponent (b.mantissa, 1))
  let candidates := (List.range 17).filterMap fun (n : Nat) =>
    (onGrid? b (top - n)).map fun d => (d, top - n)
  candidates.headD (b.mantissa, b.exponent)

/-- Digits with a point where the exponent says, and at least one digit on either side of it. -/
def positional (digits : Nat) (exponent : Int) : Text :=
  let text := Text.ofNat digits
  match exponent with
  | .ofNat n => text ++ List.replicate n '0' ++ ['.', '0']
  | .negSucc n =>
    let padded := List.replicate (n + 2 - text.length) '0' ++ text
    let whole := padded.length - (n + 1)
    padded.take whole ++ '.' :: padded.drop whole

/-- The number that a text writes, of digits with or without a point and an exponent. -/
def ofText (s : Text) : Decimal :=
  let (negative, s) := Text.takeSign s
  let mantissa := s.takeWhile (!Text.isExponentMark ·)
  let (down, digits) := Text.takeSign ((s.dropWhile (!Text.isExponentMark ·)).drop 1)
  let exponent : Int := Text.digitsValue digits
  let whole := mantissa.takeWhile (· != '.')
  let fraction := (mantissa.dropWhile (· != '.')).drop 1
  ⟨negative, Text.digitsValue (whole ++ fraction),
    (if down then -exponent else exponent) - fraction.length⟩

/-- The number as a double, written out without an exponent, unless it is too large for one. -/
def render? (d : Decimal) : Option Text :=
  let sign : Text := if d.negative then ['-'] else []
  if d.mantissa = 0 then some (sign ++ "0.0")
  else if d.exponent > 400 then none
  else if d.exponent + (Nat.toDigits 10 d.mantissa).length < -400 then some (sign ++ "0.0")
  else
    (nearest? (scale 10 d.exponent (d.mantissa, 1))).map fun b =>
      if b.mantissa = 0 then sign ++ "0.0"
      else
        let (digits, exponent) := shortest b
        sign ++ positional digits exponent

end Decimal

end ClickGen
