/-!
# Sets of characters

A set of code points is kept as its maximal runs in ascending order. Surrogates may lie inside a
run; no `Char` is one, so they never show.
-/

namespace AccessPolicy

/-- A set of code points, as ascending inclusive ranges that do not touch. -/
structure CharSet where
  ranges : List (Nat × Nat)
deriving DecidableEq, Repr

namespace CharSet

/-- The last code point. -/
def lastPoint : Nat := 0x10FFFF

def empty : CharSet := ⟨[]⟩

/-- Every code point. -/
def all : CharSet := ⟨[(0, lastPoint)]⟩

/-- The code points from `lo` to `hi`. -/
def range (lo hi : Nat) : CharSet := ⟨[(lo, hi)]⟩

def single (c : Char) : CharSet := range c.toNat c.toNat

/-- Whether a code point is in the set. -/
def hasPoint (s : CharSet) (n : Nat) : Bool :=
  s.ranges.any fun r => r.1 ≤ n && n ≤ r.2

/-- Whether a character is in the set. -/
def contains (s : CharSet) (c : Char) : Bool :=
  s.hasPoint c.toNat

/-- Whether some code point from `lo` to `hi` is in the set. -/
def meets (s : CharSet) (lo hi : Nat) : Bool :=
  s.ranges.any fun r => r.1 ≤ hi && lo ≤ r.2

/-- Puts the run from `lo` to `hi` in front of ascending ranges, joining those that touch it. -/
def joinRun (lo hi : Nat) : List (Nat × Nat) → List (Nat × Nat)
  | [] => [(lo, hi)]
  | (lo', hi') :: rest =>
    if lo' ≤ hi + 1 then joinRun lo (max hi hi') rest else (lo, hi) :: joinRun lo' hi' rest

/-- The set of all points of some ranges, given in any order. -/
def ofRanges (rs : List (Nat × Nat)) : CharSet :=
  match rs.mergeSort fun a b => a.1 ≤ b.1 with
  | [] => empty
  | (lo, hi) :: rest => ⟨joinRun lo hi rest⟩

/-- What ascending ranges leave out from `start` on. -/
def gaps (start : Nat) : List (Nat × Nat) → List (Nat × Nat)
  | [] => if start ≤ lastPoint then [(start, lastPoint)] else []
  | (lo, hi) :: rest =>
    if start < lo then (start, lo - 1) :: gaps (hi + 1) rest else gaps (hi + 1) rest

/-- The code points that are not in the set. -/
def compl (s : CharSet) : CharSet := ⟨gaps 0 s.ranges⟩

def union (s t : CharSet) : CharSet := ofRanges (s.ranges ++ t.ranges)

def unions (sets : List CharSet) : CharSet := ofRanges (sets.flatMap ranges)

def inter (s t : CharSet) : CharSet := (s.compl.union t.compl).compl

def diff (s t : CharSet) : CharSet := s.inter t.compl

/-- The points that are in exactly one of two sets. -/
def symmDiff (s t : CharSet) : CharSet := (s.union t).diff (s.inter t)

/-- The complement if `negated`, else the set itself. -/
def complIf (s : CharSet) (negated : Bool) : CharSet :=
  if negated then s.compl else s

/-- Whether every member is below `0x80`. -/
def isAscii (s : CharSet) : Bool :=
  s.ranges.all fun r => r.2 < 0x80

end CharSet

end AccessPolicy
