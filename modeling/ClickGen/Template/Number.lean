import ClickGen.Decimal
import ClickGen.Template.Value

/-!
Whole numbers that are reached by rounding. What is rounded is held as a double, also when it is a
whole number already, and the result takes 64 bits.
-/

namespace ClickGen.Template

/-- Where to round a number to. -/
inductive Rounding where
  | up | down
  /-- To the nearest whole number, and from halfway away from zero. -/
  | nearest
  deriving DecidableEq

namespace Rounding

def greatest : Int := 9223372036854775807

def least : Int := -9223372036854775808

/-- A fraction above zero, or the number below zero that is as far from it, rounded. -/
def fraction (rounding : Rounding) (negative : Bool) (num den : Nat) : Int :=
  let outwards := (num + den - 1) / den
  let inwards := num / den
  let size :=
    match rounding with
    | up => if negative then inwards else outwards
    | down => if negative then outwards else inwards
    | nearest => (2 * num + den) / (2 * den)
  if negative then max least (-(size : Int)) else min greatest size

/-- A decimal number as a double, rounded. One that is too large gives the last number there is. -/
def decimal (rounding : Rounding) (d : Decimal) : Int :=
  let furthest := if d.negative then least else greatest
  if d.mantissa = 0 then 0
  else if d.exponent > 400 then furthest
  else if d.exponent + (Nat.toDigits 10 d.mantissa).length < -400 then 0
  else
    match Decimal.nearest? (Decimal.scale 10 d.exponent (d.mantissa, 1)) with
    | none => furthest
    | some b =>
      let (num, den) := Decimal.scale 2 b.exponent (b.mantissa, 1)
      rounding.fraction d.negative num den

/-- A number, or a text that writes one, rounded. -/
def value? (rounding : Rounding) : Value → Option Int
  | .int i => some (rounding.decimal ⟨i < 0, i.natAbs, 0⟩)
  | .text t => if Text.isDecimal t then some (rounding.decimal (.ofText t)) else none
  | _ => none

end Rounding

end ClickGen.Template
