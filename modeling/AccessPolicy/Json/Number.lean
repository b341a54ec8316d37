/-!
# Numbers of JSON

A number is kept as its digits. Its value is an integer of 64 bits where it is written as one and
fits; every other number is a double, computed from the leading digits that fit into 64 bits and a
power of ten. A number too large for a double has no value.
-/

namespace AccessPolicy.Json

/-- A number as it is written. Digits are numbers below ten. -/
structure Number where
  negative : Bool
  whole : List Nat
  /-- The digits behind the point; empty if there is no point. -/
  fraction : List Nat
  /-- Whether the exponent is negative, and its digits. -/
  exponent : Option (Bool × List Nat)
deriving DecidableEq, Repr

/-- The value of a number. -/
inductive Value where
  | natural (n : Nat)
  /-- The integer `-n`, where `n` is not zero. -/
  | negative (n : Nat)
  | float (x : Float)

namespace Number

/-- The largest significand, which is the largest integer of 64 bits without a sign. -/
def maxSignificand : Nat := 0xFFFFFFFFFFFFFFFF

/-- How far below zero an integer of 64 bits can be. -/
def maxNegative : Nat := 0x8000000000000000

/-- Appends digits to a significand as long as it stays within 64 bits: the significand and the
count of digits left over. -/
def significand (n : Nat) : List Nat → Nat × Nat
  | [] => (n, 0)
  | d :: rest =>
    if maxSignificand < n * 10 + d then (n, rest.length + 1) else significand (n * 10 + d) rest

/-- A power of ten as a double. -/
def powerOfTen (n : Nat) : Float := Float.ofScientific 1 false n

/-- Divides by a power of ten in steps of the largest power that a double holds. Three steps take
every significand to zero. -/
def divide : Nat → Float → Nat → Float
  | steps + 1, x, n =>
    if n ≤ 308 then x / powerOfTen n else divide steps (x / powerOfTen 308) (n - 308)
  | 0, x, _ => x

/-- The double `n * 10 ^ e`, unless it is too large. -/
def scale (n : Nat) (e : Int) : Option Float :=
  let x := n.toUInt64.toFloat
  if n = 0 then some x
  else if e < 0 then some (divide 4 x e.natAbs)
  else if 308 < e then none
  else
    let y := x * powerOfTen e.toNat
    if y.isInf then none else some y

/-- The exponent that digits write, in the range of the exponents that matter. -/
def exponentOf (number : Number) : Int :=
  match number.exponent with
  | none => 0
  | some (negative, digits) =>
    let n : Nat := digits.foldl (fun n d => n * 10 + d) 0
    if negative then -(n : Int) else n

/-- The value of a number, unless it is too large. -/
def value? (number : Number) : Option Value :=
  let (n, dropped) := significand 0 number.whole
  if number.fraction.isEmpty && number.exponent.isNone && dropped = 0
      && (!number.negative || (n ≠ 0 && n ≤ maxNegative)) then
    some (if number.negative then .negative n else .natural n)
  else
    let (n, unused) := significand n number.fraction
    let e := dropped - (number.fraction.length - unused : Nat) + number.exponentOf
    (scale n e).map fun x => .float (if number.negative then -x else x)

end Number

end AccessPolicy.Json
