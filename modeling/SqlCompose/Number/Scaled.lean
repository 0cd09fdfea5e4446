import SqlCompose.Number.Binary64

/-!
# Scaling by powers of ten

A decimal number is read as a natural significand and a power of ten. Both are
rounded to a double first and then multiplied or divided, with one rounding for
each operation, so the result may differ in the last place from the double
nearest to the written number. A power below the smallest that a double holds
is divided out in steps.
-/

namespace SqlCompose.Number.Binary64

/-- The largest power of ten that is a finite double. -/
def maxPower : Nat := 308

/-- The quotient by `10 ^ power`, in steps of at most `maxPower`. -/
def divPower (x : Binary64) (power : Nat) : Binary64 :=
  if power ≤ maxPower then x.divAbs (ofNat (tenPow power))
  else if x.significand = 0 then x
  else (x.divAbs (ofNat (tenPow maxPower))).divPower (power - maxPower)
termination_by power
decreasing_by simp only [maxPower] at *; omega

/-- The value of `significand * 10 ^ power`, unless it is too large for a finite double. -/
def scaled? (significand : Nat) (power : Int) : Option Binary64 :=
  let x := ofNat significand
  if power < 0 then some (x.divPower power.natAbs)
  else if power.natAbs ≤ maxPower then
    let y := x.mulAbs (ofNat (tenPow power.natAbs))
    if y.isFinite then some y else none
  else if significand = 0 then some x
  else none

end SqlCompose.Number.Binary64
