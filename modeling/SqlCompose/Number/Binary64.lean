/-!
# Binary floating-point numbers

A double-precision number is held as its bits. A finite number has the exact
magnitude `significand * 2 ^ scale / 2 ^ 1074`, so arithmetic on magnitudes is
arithmetic on natural numbers followed by one rounding to the nearest
representable number, where a tie goes to the even significand.
-/

namespace SqlCompose.Number

/-- The power `10 ^ n`. -/
def tenPow (n : Nat) : Nat :=
  Nat.pow 10 n

/-- A double-precision number, as its bits. -/
structure Binary64 where
  bits : UInt64
deriving DecidableEq

namespace Binary64

/-- The implicit leading bit of a significand, just above the fraction field. -/
def leadingBit : Nat := 1 <<< 52

variable (x : Binary64)

def isNegative : Bool :=
  x.bits.toNat >>> 63 == 1

def exponentField : Nat :=
  x.bits.toNat >>> 52 % 2048

def fractionField : Nat :=
  x.bits.toNat % leadingBit

def isFinite : Bool :=
  x.exponentField != 2047

def isNaN : Bool :=
  x.exponentField == 2047 && x.fractionField != 0

/-- The integer significand; subnormal numbers have no implicit leading bit. -/
def significand : Nat :=
  if x.exponentField = 0 then x.fractionField else leadingBit + x.fractionField

/-- The power of two, counted from that of the subnormal numbers. -/
def scale : Nat :=
  x.exponentField - 1

/-- The magnitude of a finite number, as a multiple of `2 ^ -1074`. -/
def units : Nat :=
  x.significand <<< x.scale

def neg : Binary64 :=
  ⟨x.bits ^^^ 0x8000000000000000⟩

/-- The bits of infinity, which are also those that follow the largest finite number. -/
def infinityBits : Nat :=
  2047 <<< 52

/-- The non-negative number nearest to `num / den`. A significand that rounds up
to the next power of two carries into the exponent field by itself. -/
def nearest (num den : Nat) : Binary64 :=
  let units := num <<< 1074
  let scale := Nat.log2 (units / den) - 52
  let unit := den <<< scale
  let floor := units / unit
  let rest := units % unit
  let roundsUp := unit < 2 * rest || (2 * rest == unit && floor % 2 == 1)
  let significand := if roundsUp then floor + 1 else floor
  ⟨UInt64.ofNat (min (scale <<< 52 + significand) infinityBits)⟩

/-- The number nearest to a natural number. -/
def ofNat (n : Nat) : Binary64 :=
  nearest n 1

/-- The number nearest to an integer. -/
def ofInt (i : Int) : Binary64 :=
  if i < 0 then (ofNat i.natAbs).neg else ofNat i.natAbs

/-- The product of two magnitudes. -/
def mulAbs (y : Binary64) : Binary64 :=
  nearest (x.units * y.units) (1 <<< 2148)

/-- The quotient of two magnitudes. -/
def divAbs (y : Binary64) : Binary64 :=
  nearest x.units y.units

end Binary64

/-- A single-precision number, as its bits. -/
structure Binary32 where
  bits : UInt32
deriving DecidableEq

namespace Binary32

/-- The implicit leading bit of a significand. -/
def leadingBit : Nat := 1 <<< 23

/-- The double-precision number of the same value. -/
def widen (x : Binary32) : Binary64 :=
  let bits := x.bits.toNat
  let exponentField := bits >>> 23 % 256
  let fractionField := bits % leadingBit
  let magnitude : Binary64 :=
    if exponentField = 255 then
      ⟨UInt64.ofNat (Binary64.infinityBits + fractionField <<< 29)⟩
    else if exponentField = 0 then
      .nearest fractionField (1 <<< 149)
    else
      .nearest ((leadingBit + fractionField) <<< (exponentField - 1)) (1 <<< 149)
  if bits >>> 31 = 1 then magnitude.neg else magnitude

end Binary32

end SqlCompose.Number
