/-!
# Limits

The bounds that keep the cost of a decision small. Lengths are counted in bytes of UTF-8.
-/

namespace AccessPolicy

/-- Conditions may nest this deep. -/
def maxDepth : Nat := 32

/-- A compound condition may have this many children. -/
def maxChildren : Nat := 256

/-- A literal that a value is compared with may be this long. -/
def maxLiteralLength : Nat := 8192

/-- The text of a pattern may be this long. -/
def maxPatternSourceLength : Nat := 4096

end AccessPolicy
