import SqlCompose.Number.Scaled
import SqlCompose.Number.Shortest

/-!
# JSON numbers

A numeral without fraction and exponent that fits 64 bits is an integer; every
other numeral is a double. A double is read from a significand of at most 64
bits: whole digits that no longer fit count as powers of ten, further decimals
are dropped.
-/

namespace SqlCompose.Json

open SqlCompose.Number

/-- The value of a numeral. -/
inductive Number where
  | int (value : Int)
  | real (value : Binary64)
  | tooLarge
deriving DecidableEq

/-- The written parts of a numeral, each digit by its value. -/
structure Numeral where
  negative : Bool
  whole : List Nat
  fraction : Option (List Nat)
  exponent : Option Int

/-- A significand of at most 64 bits with a power of ten. -/
structure Significand where
  value : Nat
  power : Int

namespace Significand

/-- The largest significand. -/
def limit : Nat := UInt64.size - 1

/-- Appends whole digits; from the first that does not fit, each counts as a power of ten. -/
def addWhole (s : Significand) : List Nat → Significand
  | [] => s
  | d :: ds =>
    if s.value * 10 + d ≤ limit then addWhole { s with value := s.value * 10 + d } ds
    else { s with power := s.power + (ds.length + 1) }

/-- Appends decimals up to the first that does not fit. -/
def addDecimals (s : Significand) : List Nat → Significand
  | [] => s
  | d :: ds =>
    if s.value * 10 + d ≤ limit then addDecimals ⟨s.value * 10 + d, s.power - 1⟩ ds
    else s

end Significand

namespace Numeral

/-- The value of a digit. -/
def digit (c : Char) : Nat :=
  c.toNat - '0'.toNat

/-- The leading digits and what follows them. -/
def digits (cs : List Char) : List Nat × List Char :=
  ((cs.takeWhile Char.isDigit).map digit, cs.dropWhile Char.isDigit)

/-- The number that digits spell. -/
def natOf (ds : List Nat) : Nat :=
  ds.foldl (fun n d => n * 10 + d) 0

/-- An exponent mark, an optional sign and at least one digit, or nothing. -/
def exponentOf? (cs : List Char) : Option (Option Int) :=
  let magnitude? (cs : List Char) : Option Nat :=
    match digits cs with
    | (d :: ds, []) => some (natOf (d :: ds))
    | _ => none
  match cs with
  | [] => some none
  | mark :: cs =>
    if mark = 'e' ∨ mark = 'E' then
      match cs with
      | '+' :: cs => (magnitude? cs).map fun n => some (n : Int)
      | '-' :: cs => (magnitude? cs).map fun n => some (-(n : Int))
      | cs => (magnitude? cs).map fun n => some (n : Int)
    else none

/-- The parts of a numeral; no whole part but a single zero starts with zero. -/
def ofChars? (cs : List Char) : Option Numeral :=
  let (negative, cs) :=
    match cs with
    | '-' :: cs => (true, cs)
    | cs => (false, cs)
  match digits cs with
  | ([], _) => none
  | (0 :: _ :: _, _) => none
  | (whole, '.' :: cs) =>
    match digits cs with
    | ([], _) => none
    | (fraction, cs) => (exponentOf? cs).map fun e => ⟨negative, whole, some fraction, e⟩
  | (whole, cs) => (exponentOf? cs).map fun e => ⟨negative, whole, none, e⟩

/-- The significand and the power of ten that a numeral is read as. -/
def significand (n : Numeral) : Significand :=
  let s := Significand.addDecimals (Significand.addWhole ⟨0, 0⟩ n.whole) (n.fraction.getD [])
  { s with power := s.power + n.exponent.getD 0 }

/-- The integer that a numeral spells; minus zero is not one. -/
def int? (n : Numeral) : Option Int :=
  match n.fraction, n.exponent with
  | none, none =>
    let value := natOf n.whole
    if n.negative then
      if 0 < value ∧ Int64.minValue.toInt ≤ -(value : Int) then some (-(value : Int)) else none
    else if value < UInt64.size then some value
    else none
  | _, _ => none

/-- The value of a numeral. -/
def value (n : Numeral) : Number :=
  match n.int? with
  | some i => .int i
  | none =>
    let s := n.significand
    match Binary64.scaled? s.value s.power with
    | none => .tooLarge
    | some x => .real (if n.negative then x.neg else x)

end Numeral

namespace Number

/-- Doubles in JSON always show that they are no integers, and take an exponent
below `1e-5` and from `1e16` on. -/
def format : Format where
  tie := .even
  positional := fun point => -4 ≤ point && point ≤ 16
  wholeSuffix := ".0"
  infinity := "null"
  nan := "null"

/-- The text of a number; one that is too large is written so that it reads back so. -/
def write : Number → String
  | .int i => toString i
  | .real x => format.write x
  | .tooLarge => "1e999"

end Number

end SqlCompose.Json
