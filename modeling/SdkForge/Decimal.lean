/-!
# Decimal numbers

A number as its digits write it, whether a double can hold something near it, and the double next to
a whole number.
-/

namespace SdkForge

/-- The number `mantissa · 10 ^ exponent`, below zero if `negative`. -/
structure Decimal where
  negative : Bool
  mantissa : Nat
  exponent : Int
  deriving DecidableEq, Repr

namespace Decimal

/-- The number that digits write after `n`. -/
def digitsFrom (n : Nat) (digits : List Char) : Nat :=
  digits.foldl (fun n c => 10 * n + (c.toNat - '0'.toNat)) n

/-- Where rounding leaves the doubles: half a step above the greatest of them. -/
def doubleBound : Nat := Nat.pow 2 1024 - Nat.pow 2 970

/-- Whether a double can come close to the number. -/
def isFinite (n : Decimal) : Bool :=
  let digits := (Nat.repr n.mantissa).length
  if n.mantissa = 0 ∨ n.exponent + digits < 300 then true
  else if n.exponent + digits > 320 then false
  else if 0 ≤ n.exponent then n.mantissa * Nat.pow 10 n.exponent.toNat < doubleBound
  else n.mantissa < doubleBound * Nat.pow 10 (-n.exponent).toNat

/-- The double next to a whole number below `doubleBound`: 53 of its bits, where a half goes to the
even neighbour. -/
def nearestDouble (n : Nat) : Nat :=
  let unit := Nat.pow 2 (n.log2 - 52)
  let below := n / unit
  let rest := 2 * (n % unit)
  (if unit < rest ∨ (unit = rest ∧ below % 2 = 1) then below + 1 else below) * unit

end Decimal

end SdkForge
