/-!
# Integers as text

Reads integers of 64 bits.
-/

namespace AccessPolicy.Text

/-- The number that decimal digits spell; there must be at least one. -/
def natOfDigits? (digits : List Char) : Option Nat :=
  if digits.isEmpty then none
  else digits.foldlM (fun n c => if c.isDigit then some (n * 10 + (c.toNat - '0'.toNat)) else none) 0

/-- The least integer of 64 bits. -/
def minInt64 : Int := -0x8000000000000000

/-- The largest integer of 64 bits. -/
def maxInt64 : Int := 0x7FFFFFFFFFFFFFFF

/-- Whether a number fits into 64 bits with a sign. -/
def fitsInt64 (n : Int) : Bool :=
  minInt64 ≤ n && n ≤ maxInt64

/-- The integer that a text spells: a sign or none, then decimal digits and nothing else. -/
def int64? (s : String) : Option Int :=
  let n : Option Int := match s.toList with
    | '-' :: digits => (natOfDigits? digits).map fun n => -(n : Int)
    | '+' :: digits => (natOfDigits? digits).map Int.ofNat
    | digits => (natOfDigits? digits).map Int.ofNat
  n.filter fitsInt64

end AccessPolicy.Text
