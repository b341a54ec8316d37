import AccessPolicy.Unicode.CharSet

/-!
# Rows of a property table

A property of characters is a table of rows: the names of a value and the characters that have
it. The characters are packed into letters, on some lines. Each number is written in base 26, small
letters for its leading digits and a capital for the last one; the numbers come in pairs, the
count of points skipped and the length of the run less one.
-/

namespace AccessPolicy.Unicode

/-- What has been read of a packed set: the leading digits of the current number, the pending gap,
the first point not yet covered, and the runs so far, last one first. -/
structure Unpacking where
  digits : Nat := 0
  gap : Option Nat := none
  next : Nat := 0
  runs : List (Nat × Nat) := []

/-- Takes in one letter of a packed set. -/
def Unpacking.step (u : Unpacking) (c : Char) : Unpacking :=
  if c.isLower then
    { u with digits := u.digits * 26 + (c.toNat - 'a'.toNat) }
  else
    let n := u.digits * 26 + (c.toNat - 'A'.toNat)
    match u.gap with
    | none => { u with digits := 0, gap := some n }
    | some gap =>
      let lo := u.next + gap
      { digits := 0, gap := none, next := lo + n + 1, runs := (lo, lo + n) :: u.runs }

/-- The set that some lines of letters pack. -/
def unpack (lines : List String) : CharSet :=
  ⟨((lines.flatMap String.toList).foldl Unpacking.step {}).runs.reverse⟩

/-- One value of a property: its names, loosely spelt, and its characters, packed. -/
structure PropertyRow where
  names : List String
  packed : List String

namespace PropertyRow

/-- The characters of a row. -/
def chars (row : PropertyRow) : CharSet := unpack row.packed

/-- The characters of the row that has a name. -/
def find (rows : List PropertyRow) (name : String) : Option CharSet :=
  (rows.find? (·.names.contains name)).map chars

end PropertyRow

end AccessPolicy.Unicode
