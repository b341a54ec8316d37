/-!
# Runs of case partners

Tables of letter case are mostly regular: the partner of a character lies at one distance for a
whole run of characters, taken one by one or every second one.
-/

namespace AccessPolicy.Unicode

/-- The code points `first`, `first + step`, …, `last`; the partner of each is `shift` further. -/
structure CaseBlock where
  first : Nat
  last : Nat
  step : Nat
  shift : Int

namespace CaseBlock

/-- Whether a code point is in the run. -/
def contains (block : CaseBlock) (n : Nat) : Bool :=
  block.first ≤ n && n ≤ block.last && (n - block.first) % block.step == 0

/-- The partner of a code point of the run. -/
def partner (block : CaseBlock) (n : Nat) : Nat :=
  (n + block.shift).toNat

/-- The code points of the run. -/
def members (block : CaseBlock) : List Nat :=
  (List.range ((block.last - block.first) / block.step + 1)).map (block.first + · * block.step)

end CaseBlock

end AccessPolicy.Unicode
