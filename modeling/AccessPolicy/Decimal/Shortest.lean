/-!
# Shortest decimals

The shortest decimal that reads back as a given binary number. A finite positive double is
`m * 2 ^ q`; the reals that round to it form an interval around it, whose ends belong to it if `m`
is even. For more and more digits, the two neighbours of the number among the decimals of so many
digits are tried; the first one inside the interval is the answer, the nearer one if both are.
-/

namespace AccessPolicy.Decimal

/-- A positive number in binary: `m * 2 ^ q`. -/
structure Binary where
  m : Nat
  q : Int
  /-- The next smaller double is only half as far as the next larger one. -/
  narrowBelow : Bool

/-- The leading bit of the 53 bits of a double, which is left unwritten where it is set. -/
def leadingBit : Nat := 0x10000000000000

/-- The bit of a double that holds its sign. -/
def signBit : Nat := 0x8000000000000000

/-- Takes a finite positive double apart. -/
def Binary.ofBits (bits : Nat) : Binary :=
  let mantissa : Nat := bits % leadingBit
  let exponent : Nat := bits / leadingBit
  if exponent = 0 then ⟨mantissa, -1074, false⟩
  else ⟨leadingBit + mantissa, (exponent : Int) - 1075, mantissa = 0 && 1 < exponent⟩

/-- The number `a` times a power of two, which counts only where it is positive. -/
def timesTwo (a : Nat) (q : Int) : Nat := a * Nat.pow 2 q.toNat

/-- The number `a` times a power of ten, which counts only where it is positive. -/
def timesTen (a : Nat) (p : Int) : Nat := a * Nat.pow 10 p.toNat

/-- Compares `a * 2 ^ q` with `d * 10 ^ p`. -/
def compareScaled (a : Nat) (q : Int) (d : Nat) (p : Int) : Ordering :=
  compare (timesTen (timesTwo a q) (-p)) (timesTwo (timesTen d p) (-q))

/-- The exponent `e` with `10 ^ e ≤ m * 2 ^ q < 10 ^ (e + 1)`. -/
def Binary.magnitude (b : Binary) : Int :=
  let top := (Nat.toDigits 10 (timesTwo b.m b.q)).length
  let bottom := (Nat.toDigits 10 (timesTwo 1 (-b.q))).length
  let guess : Int := top - bottom
  if compareScaled b.m b.q 1 guess = .lt then guess - 1 else guess

/-- Whether `d * 10 ^ p` reads back as the number. -/
def Binary.accepts (b : Binary) (d : Nat) (p : Int) : Bool :=
  let low := if b.narrowBelow then 4 * b.m - 1 else 4 * b.m - 2
  let high := 4 * b.m + 2
  let closed := b.m % 2 = 0
  let aboveLow := compareScaled low (b.q - 2) d p
  let belowHigh := compareScaled high (b.q - 2) d p
  (aboveLow = .lt || (closed && aboveLow = .eq))
    && (belowHigh = .gt || (closed && belowHigh = .eq))

/-- The neighbour of the number on the grid of multiples of `10 ^ p` that reads back, if any. -/
def Binary.onGrid (b : Binary) (p : Int) : Option Nat :=
  let below := timesTen (timesTwo b.m b.q) (-p) / timesTwo (timesTen 1 p) (-b.q)
  let above := below + 1
  match b.accepts below p, b.accepts above p with
  | true, true =>
    -- the middle of the two neighbours decides, and the even one if it is hit
    match compareScaled (2 * b.m) b.q (2 * below + 1) p with
    | .lt => some below
    | .gt => some above
    | .eq => some (if below % 2 = 0 then below else above)
  | true, false => some below
  | false, true => some above
  | false, false => none

/-- The digits of the shortest decimal and the exponent of its first digit. -/
def Binary.shortest (b : Binary) : List Char × Int :=
  let e := b.magnitude
  let found := (List.range 17).findSome? fun n =>
    let p := e - (n : Nat)
    (b.onGrid p).map fun d => (d, p)
  let (d, p) := found.getD (b.m, b.q)
  let digits := Nat.toDigits 10 d
  let exponent := p + (digits.length - 1 : Nat)
  let kept := (digits.reverse.dropWhile (· = '0')).reverse
  (if kept.isEmpty then ['0'] else kept, exponent)

/-- How a format lays out decimal digits. -/
structure Layout where
  /-- The least and the largest exponent that are written positionally. -/
  leastPlain : Int
  largestPlain : Int
  /-- The least count of digits of an exponent. -/
  exponentDigits : Nat

/-- Digits with their exponent, positionally or with an exponent. A number without a fraction
shows a zero behind its point. -/
def Layout.text (layout : Layout) (digits : List Char) (exponent : Int) : String :=
  if layout.leastPlain ≤ exponent ∧ exponent ≤ layout.largestPlain then
    if exponent < 0 then
      "0." ++ String.ofList (List.replicate (-exponent - 1).toNat '0' ++ digits)
    else
      let whole := exponent.toNat + 1
      let before := digits.take whole ++ List.replicate (whole - digits.length) '0'
      let after := digits.drop whole
      String.ofList (before ++ ['.'] ++ (if after.isEmpty then ['0'] else after))
  else
    let mantissa := match digits with
      | d :: e :: rest => [d, '.', e] ++ rest
      | ds => ds
    let magnitude := Nat.toDigits 10 exponent.natAbs
    let padding := List.replicate (layout.exponentDigits - magnitude.length) '0'
    let sign := if exponent < 0 then '-' else '+'
    String.ofList (mantissa ++ ['e', sign] ++ padding ++ magnitude)

/-- The text of a finite double. -/
def Layout.float (layout : Layout) (x : Float) : String :=
  let bits := x.toBits.toNat
  let magnitude := bits % signBit
  let sign := if signBit ≤ bits then "-" else ""
  if magnitude = 0 then sign ++ "0.0"
  else
    let (digits, exponent) := (Binary.ofBits magnitude).shortest
    sign ++ layout.text digits exponent

end AccessPolicy.Decimal
