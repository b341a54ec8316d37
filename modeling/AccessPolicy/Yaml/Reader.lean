import AccessPolicy.Document.NameMap
import AccessPolicy.Text.Hex
import AccessPolicy.Text.Integer
import AccessPolicy.Yaml.Block

/-!
# Readers of YAML values

Readers of the kinds of value that a document is made of. What a plain scalar means depends on what
is expected: every scalar can be a text, and an empty place can be an empty collection.
-/

namespace AccessPolicy.Yaml

/-- Sequences and mappings may nest this deep. -/
def levelLimit : Nat := 128

/-! ## Scalars -/

def text? : Yaml → Option String
  | .scalar _ text => some text
  | _ => none

def bool? : Yaml → Option Bool
  | .scalar true text =>
    if ["true", "True", "TRUE"].contains text then some true
    else if ["false", "False", "FALSE"].contains text then some false
    else none
  | _ => none

/-- Whether a value stands for nothing. -/
def isNull : Yaml → Bool
  | .scalar true text => ["", "~", "null", "Null", "NULL"].contains text
  | _ => false

/-- A value that may be absent. -/
def optional? {α : Type} (read : Yaml → Option α) (yaml : Yaml) : Option (Option α) :=
  if yaml.isNull then some none else (read yaml).map some

/-- The number that digits to a base spell. -/
def natOfDigits? (base : Nat) (digits : List Char) : Option Nat :=
  if digits.isEmpty then none
  else digits.foldlM (fun n c => ((Text.hexDigit? c).filter (· < base)).map (n * base + ·)) 0

/-- A number without a sign: decimal without leading zeros, or with a mark for another base. -/
def natOfChars? (chars : List Char) : Option Nat :=
  match chars with
  | '0' :: 'x' :: digits => natOfDigits? 16 digits
  | '0' :: 'o' :: digits => natOfDigits? 8 digits
  | '0' :: 'b' :: digits => natOfDigits? 2 digits
  | '0' :: _ :: _ => none
  | digits => natOfDigits? 10 digits

/-- An integer of a range. -/
def integer? (lo hi : Int) : Yaml → Option Int
  | .scalar true text =>
    let n : Option Int := match text.toList with
      | '-' :: chars => (natOfChars? chars).map fun n => -(n : Int)
      | '+' :: chars => (natOfChars? chars).map Int.ofNat
      | chars => (natOfChars? chars).map Int.ofNat
    n.filter fun n => lo ≤ n && n ≤ hi
  | _ => none

/-- An integer of 32 bits without a sign; zero has none either. -/
def uint32? (yaml : Yaml) : Option Nat :=
  match yaml with
  | .scalar true text =>
    if text.toList.head? = some '-' then none
    else (integer? 0 0xFFFFFFFF yaml).map Int.toNat
  | _ => none

/-- An integer of 64 bits. -/
def int64? : Yaml → Option Int :=
  integer? Text.minInt64 Text.maxInt64

/-! ## Collections -/

/-- The items of a sequence that may nest some levels. -/
def items? (levels : Nat) : Yaml → Option (List Yaml)
  | .sequence items => if levels = 0 then none else some items
  | .scalar true "" => some []
  | _ => none

/-- The entries of a mapping that may nest some levels, with their keys as texts. -/
def entries? (levels : Nat) : Yaml → Option (List (String × Yaml))
  | .mapping entries =>
    if levels = 0 then none
    else entries.mapM fun (key, value) => (text? key).map (·, value)
  | .scalar true "" => some []
  | _ => none

/-- A list of values. -/
def list? {α : Type} (levels : Nat) (read : Yaml → Option α) (yaml : Yaml) :
    Option (List α) := do
  (← yaml.items? levels).mapM read

/-- A map from names to values; of several entries of one name the last one counts. -/
def map? {α : Type} (levels : Nat) (read : Yaml → Option α) (yaml : Yaml) :
    Option (NameMap α) := do
  let entries ← (← yaml.entries? levels).mapM fun (name, value) => (read value).map (name, ·)
  return .ofList entries

/-! ## Records and choices -/

/-- The fields of a record, by name. -/
abbrev Fields := List (String × Yaml)

/-- The fields of a record that declares some names. No declared name may occur twice, and no other
name at all in a strict record. -/
def fields? (levels : Nat) (declared : List String) (strict : Bool) (yaml : Yaml) :
    Option Fields := do
  let entries ← yaml.entries? levels
  let (known, others) := entries.partition fun entry => declared.contains entry.1
  if (strict && !others.isEmpty) || !(known.map Prod.fst).Nodup then none else some known

namespace Fields

/-- A field that must be there. -/
def required {α : Type} (fields : Fields) (name : String) (read : Yaml → Option α) : Option α := do
  read (← fields.lookup name)

/-- A field that has a value of its own when it is left out. -/
def withDefault {α : Type} (fields : Fields) (name : String) (default : α)
    (read : Yaml → Option α) : Option α :=
  match fields.lookup name with
  | some yaml => read yaml
  | none => some default

/-- A field that may be left out or empty. -/
def optional {α : Type} (fields : Fields) (name : String) (read : Yaml → Option α) :
    Option (Option α) :=
  fields.withDefault name none (optional? read)

end Fields

/-- The alternative of a choice and its content: a mapping of one entry. -/
def choice? (levels : Nat) : Yaml → Option (String × Yaml)
  | .mapping [(key, content)] =>
    if levels = 0 then none else (text? key).map (·, content)
  | _ => none

end AccessPolicy.Yaml
