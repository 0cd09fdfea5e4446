import SqlCompose.Number.Binary64

/-!
# Shortest decimal digits

The shortest decimal form of a double has the fewest digits among the decimal
numbers that round to it, and of those it is the nearest. The numbers that
round to a double form an interval whose ends belong to it exactly when the
significand is even. On each decimal grid only the two neighbours of the value
have to be tried; seventeen digits always suffice.
-/

namespace SqlCompose.Number

/-- Which of two equally near decimal numbers is taken. -/
inductive Tie where
  | even
  | up

/-- The decimal number `0.d₁d₂… * 10 ^ point`. -/
structure Decimal where
  digits : List Char
  point : Int

namespace Binary64

/-- A positive double with the ends of its rounding interval, all three as
multiples of `2 ^ -1076`. Below a power of two the interval is half as wide. -/
structure Interval where
  lower : Nat
  value : Nat
  upper : Nat
  closed : Bool

def interval (x : Binary64) : Interval :=
  let unit := 1 <<< x.scale
  let value := 4 * x.units
  let below := if x.fractionField = 0 ∧ 1 < x.exponentField then unit else 2 * unit
  ⟨value - below, value, value + 2 * unit, x.significand % 2 == 0⟩

namespace Interval

/-- The denominator shared by the three numbers. -/
def denominator : Nat := 1 <<< 1076

/-- The position of the decimal point before the first digit of the value. -/
def decimalPoint (i : Interval) : Int :=
  if denominator ≤ i.value then
    (Nat.toDigits 10 (i.value / denominator)).length
  else
    1 - ((Nat.toDigits 10 ((denominator + i.value - 1) / i.value - 1)).length : Int)

/-- The neighbour of the value on the grid of `10 ^ power` that lies in the
interval and is nearest, if there is one. -/
def onGrid? (i : Interval) (tie : Tie) (power : Int) : Option Nat :=
  let factor := tenPow (-power).toNat
  let step := denominator * tenPow power.toNat
  let value := i.value * factor
  let inside (n : Nat) : Bool :=
    let lower := i.lower * factor
    let upper := i.upper * factor
    if i.closed then lower ≤ n * step && n * step ≤ upper
    else lower < n * step && n * step < upper
  let below := value / step
  let above := below + 1
  let toBelow := value - below * step
  let toAbove := above * step - value
  match inside below, inside above with
  | true, false => some below
  | false, true => some above
  | false, false => none
  | true, true =>
    if toBelow < toAbove then some below
    else if toAbove < toBelow then some above
    else
      match tie with
      | .up => some above
      | .even => if below % 2 = 0 then some below else some above

end Interval

/-- The shortest decimal form of the magnitude of a finite number other than zero. -/
def shortest (tie : Tie) (x : Binary64) : Decimal :=
  let i := x.interval
  let point := i.decimalPoint
  let found := (List.range 17).findSome? fun (k : Nat) =>
    let power := point - 1 - k
    (i.onGrid? tie power).map fun n =>
      let digits := Nat.toDigits 10 n
      (⟨(digits.reverse.dropWhile (· == '0')).reverse, digits.length + power⟩ : Decimal)
  found.getD ⟨[], point⟩

end Binary64

/-- How a double is written: which positions of the decimal point are written
without an exponent, what follows a whole number, and the texts of the numbers
that have no digits. -/
structure Format where
  tie : Tie
  positional : Int → Bool
  wholeSuffix : String
  infinity : String
  nan : String

namespace Decimal

/-- The digits with a decimal point and without an exponent. -/
def positional (wholeSuffix : String) (d : Decimal) : String :=
  if d.point ≤ 0 then
    "0." ++ String.ofList (List.replicate (-d.point).toNat '0' ++ d.digits)
  else
    let point := d.point.toNat
    if d.digits.length ≤ point then
      String.ofList (d.digits ++ List.replicate (point - d.digits.length) '0') ++ wholeSuffix
    else
      String.ofList (d.digits.take point) ++ "." ++ String.ofList (d.digits.drop point)

/-- One digit, the further digits after a point, and a signed exponent. -/
def scientific (d : Decimal) : String :=
  let exponent := d.point - 1
  let further := d.digits.drop 1
  String.ofList (d.digits.take 1) ++
    (if further.isEmpty then "" else "." ++ String.ofList further) ++
    "e" ++ (if exponent < 0 then "-" else "+") ++ toString exponent.natAbs

end Decimal

namespace Format

/-- The text of a double. -/
def write (f : Format) (x : Binary64) : String :=
  if x.isNaN then f.nan
  else
    let magnitude :=
      if !x.isFinite then f.infinity
      else if x.significand = 0 then "0" ++ f.wholeSuffix
      else
        let d := x.shortest f.tie
        if f.positional d.point then d.positional f.wholeSuffix else d.scientific
    if x.isNegative then "-" ++ magnitude else magnitude

end Format

end SqlCompose.Number
