import AccessPolicy.Json.Mismatch
import AccessPolicy.Text.Integer

/-!
# Readers of JSON values

Readers of the kinds of value that a document is made of. They go through a value in the order of
its text, so the first difficulty decides the outcome. Every array and object takes up one of the
levels that a text may nest.
-/

namespace AccessPolicy.Json

/-- Arrays and objects may nest this deep. -/
def levelLimit : Nat := 127

/-! ## Plain values -/

def readText : Json → Result String
  | .string (some s) => .ok s
  | json => .error (kindFault "a string" json)

def readBool : Json → Result Bool
  | .bool b => .ok b
  | json => .error (kindFault "a boolean" json)

/-- An integer of a range with a name. -/
def readInteger (name : String) (lo hi : Int) (json : Json) : Result Int :=
  let check (n : Int) : Result Int :=
    if lo ≤ n ∧ n ≤ hi then .ok n else .error (.mismatch (.range (.integer n) name))
  match json with
  | .number n => match n.value? with
    | some (.natural n) => check n
    | some (.negative n) => check (-n)
    | _ => .error (kindFault name json)
  | _ => .error (kindFault name json)

/-- An integer of 32 bits without a sign. -/
def readUInt32 (json : Json) : Result UInt32 :=
  (readInteger "u32" 0 0xFFFFFFFF json).map fun n => n.toNat.toUInt32

/-- An integer of 64 bits. -/
def readInt64 : Json → Result Int :=
  readInteger "i64" Text.minInt64 Text.maxInt64

/-- A value that may be absent, for which `null` stands. -/
def readOptional {α : Type} (read : Json → Result α) : Json → Result (Option α)
  | .null => .ok none
  | json => (read json).map some

/-! ## Lists and maps -/

/-- A list of values. -/
def readList {α : Type} (levels : Nat) (read : Json → Result α) : Json → Result (List α)
  | .array items => if levels = 0 then .error .malformed else items.mapM read
  | json => .error (kindFault "a sequence" json)

/-- Takes in the entries of a map one by one. -/
def readEntries {σ : Type} (insert : σ → String → Json → Result σ) (s : σ) :
    List (Json × Json) → Result σ
  | [] => .ok s
  | (.string (some name), value) :: rest => do readEntries insert (← insert s name value) rest
  | _ => .error .malformed

/-- A map from names to values, built up from the start by `insert`. -/
def readMap {σ : Type} (levels : Nat) (start : σ) (insert : σ → String → Json → Result σ) :
    Json → Result σ
  | .object entries => if levels = 0 then .error .malformed else readEntries insert start entries
  | json => .error (kindFault "a map" json)

/-! ## Records -/

/-- A field of a record that is built up from a blank one: its name, whether it must be there, and
how its value is taken in. -/
structure Field (σ : Type) where
  name : String
  required : Bool := false
  read : Json → σ → Result σ

/-- What a record is called, its fields in order, and whether other fields are refused or ignored. -/
structure Shape (σ : Type) where
  label : String
  fields : List (Field σ)
  strict : Bool := true

namespace Shape

variable {σ : Type}

/-- How messages tell the record and the count of its fields. -/
def counted (shape : Shape σ) : String :=
  let n := shape.fields.length
  shape.label ++ " with " ++ toString n ++ " element" ++ (if n = 1 then "" else "s")

/-- Reads fields by position; `index` is the position of the next one. An array may end before
fields that need not be there, but not go on after the last one. -/
def readItems (shape : Shape σ) (index : Nat) (s : σ) : List (Field σ) → List Json → Result σ
  | [], [] => .ok s
  | [], _ :: _ => .error .malformed
  | field :: fields, [] =>
    if field.required then .error (.mismatch (.length index shape.counted))
    else shape.readItems (index + 1) s fields []
  | field :: fields, item :: rest => do
    shape.readItems (index + 1) (← field.read item s) fields rest

/-- Reads fields by name; `seen` lists the names already read. The name of an entry is judged before
its value, and what is missing at the end. -/
def readFields (shape : Shape σ) (seen : List String) (s : σ) : List (Json × Json) → Result σ
  | [] =>
    match shape.fields.find? fun field => field.required && !seen.contains field.name with
    | some field => .error (.mismatch (.missingField field.name))
    | none => .ok s
  | (.string (some name), value) :: rest =>
    match shape.fields.find? (·.name = name) with
    | some field =>
      if seen.contains name then .error (.mismatch (.duplicateField name))
      else do shape.readFields (name :: seen) (← field.read value s) rest
    | none =>
      if shape.strict then
        .error (.mismatch (.unknownField name (shape.fields.map Field.name)))
      else match value with
        | .broken => .error .malformed
        | _ => shape.readFields seen s rest
  | _ => .error .malformed

/-- Reads a record from an object, or from an array of its fields. -/
def read (shape : Shape σ) (levels : Nat) (blank : σ) : Json → Result σ
  | .array items =>
    if levels = 0 then .error .malformed else shape.readItems 0 blank shape.fields items
  | .object entries =>
    if levels = 0 then .error .malformed else shape.readFields [] blank entries
  | json => .error (kindFault shape.label json)

end Shape

/-! ## Choices -/

/-- The content that a choice has, as messages name it. -/
inductive Content where
  | none
  | value
  | record

/-- Alternatives of a choice: their names and what content each has. -/
abbrev Alternatives := List (String × Content)

/-- The name of an alternative. -/
def readAlternative (alternatives : Alternatives) : Json → Result String
  | .string (some name) =>
    if alternatives.any (·.1 = name) then .ok name
    else .error (.mismatch (.unknownVariant name (alternatives.map Prod.fst)))
  | json => .error (kindFault "variant identifier" json)

/-- Reads one of some alternatives: an object with the name as its only key and the content as the
value. An alternative without content may also be written as its bare name. `read` takes the name
and the content. -/
def readChoice {α : Type} (alternatives : Alternatives) (levels : Nat)
    (read : String → Json → Result α) : Json → Result α
  | .object [] => .error .malformed
  | .object ((key, content) :: rest) =>
    if levels = 0 then .error .malformed
    else do
      let name ← readAlternative alternatives key
      let value ← read name content
      if rest.isEmpty then return value else .error .malformed
  | .string s => do
    let name ← readAlternative alternatives (.string s)
    match alternatives.lookup name with
    | some .value => .error (.mismatch (.kind .bareVariant "newtype variant"))
    | some .record => .error (.mismatch (.kind .bareVariant "struct variant"))
    | _ => read name .null
  | _ => .error .malformed

/-- The content of an alternative that has none. -/
def readNothing : Json → Result Unit
  | .null => .ok ()
  | json => .error (kindFault "unit" json)

/-! ## Texts -/

/-- Reads a whole text, behind which nothing may follow. -/
def readAll {α : Type} (read : Nat → Json → Result α) (text : String) : Result α := do
  let (json, complete) := ofText text
  let value ← read levelLimit json
  if complete then return value else .error .malformed

end AccessPolicy.Json
