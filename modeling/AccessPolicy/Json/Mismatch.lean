import AccessPolicy.Decimal.Shortest
import AccessPolicy.Error
import AccessPolicy.Json.Basic

/-!
# Mismatches

Why a JSON value is not the record or choice that was expected, and how that is told.
-/

namespace AccessPolicy.Json

/-- What was found in the place of something else. -/
inductive Found where
  | null
  | bool (b : Bool)
  | integer (n : Int)
  | float (x : Float)
  | string (s : String)
  | sequence
  | map
  /-- The bare name of an alternative that has a content. -/
  | bareVariant

/-- Doubles are written positionally from `0.00001` up to sixteen digits before the point. -/
def floatLayout : Decimal.Layout := ⟨-5, 15, 2⟩

/-- How messages tell what was found. -/
def Found.text : Found → String
  | .null => "null"
  | .bool b => "boolean `" ++ Text.bool b ++ "`"
  | .integer n => "integer `" ++ toString n ++ "`"
  | .float x => "floating point `" ++ floatLayout.float x ++ "`"
  | .string s => "string " ++ Text.quoted s
  | .sequence => "sequence"
  | .map => "map"
  | .bareVariant => "unit variant"

/-- Why a value does not fit. -/
inductive Mismatch where
  /-- Another kind of value was expected. -/
  | kind (found : Found) (expected : String)
  /-- The integer is out of range. -/
  | range (found : Found) (expected : String)
  /-- An array in the place of a record ends too early. -/
  | length (count : Nat) (expected : String)
  | unknownField (name : String) (expected : List String)
  | unknownVariant (name : String) (expected : List String)
  | missingField (name : String)
  | duplicateField (name : String)
  /-- The parts fit but cannot stand together. -/
  | refused (error : Error)

/-- A list of names to choose from. -/
def choices (names : List String) : String :=
  let quoted := names.map fun name => "`" ++ name ++ "`"
  match quoted with
  | [a] => a
  | [a, b] => a ++ " or " ++ b
  | names => "one of " ++ ", ".intercalate names

/-- The text of a mismatch. -/
def Mismatch.message : Mismatch → String
  | .kind found expected => "invalid type: " ++ found.text ++ ", expected " ++ expected
  | .range found expected => "invalid value: " ++ found.text ++ ", expected " ++ expected
  | .length count expected =>
    "invalid length " ++ toString count ++ ", expected " ++ expected
  | .unknownField name expected =>
    "unknown field `" ++ name ++ "`, expected " ++ choices expected
  | .unknownVariant name expected =>
    "unknown variant `" ++ name ++ "`, expected " ++ choices expected
  | .missingField name => "missing field `" ++ name ++ "`"
  | .duplicateField name => "duplicate field `" ++ name ++ "`"
  | .refused error => error.message

/-- Why a text cannot be read. -/
inductive Fault where
  /-- The text is not JSON, or nests too deep. -/
  | malformed
  /-- The text is JSON as far as it was read, but not of the expected form. -/
  | mismatch (cause : Mismatch)

/-- A result of reading. -/
abbrev Result (α : Type) := Except Fault α

/-- The fault of a value of another kind than expected. -/
def kindFault (expected : String) : Json → Fault
  | .null => .mismatch (.kind .null expected)
  | .bool b => .mismatch (.kind (.bool b) expected)
  | .number n => match n.value? with
    | some (.natural n) => .mismatch (.kind (.integer n) expected)
    | some (.negative n) => .mismatch (.kind (.integer (-n)) expected)
    | some (.float x) => .mismatch (.kind (.float x) expected)
    | none => .malformed
  | .string (some s) => .mismatch (.kind (.string s) expected)
  | .string none => .malformed
  | .array _ => .mismatch (.kind .sequence expected)
  | .object _ => .mismatch (.kind .map expected)
  | .broken => .malformed

end AccessPolicy.Json
