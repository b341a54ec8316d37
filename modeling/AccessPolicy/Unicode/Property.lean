import AccessPolicy.Unicode.Binary
import AccessPolicy.Unicode.Category
import AccessPolicy.Unicode.Script
import AccessPolicy.Unicode.Segmentation

/-!
# Properties by name

Finds the characters of a property from the name that a pattern spells. Names match loosely: case,
spaces, hyphens and low lines are ignored, and so is a leading `is`.
-/

namespace AccessPolicy.Unicode

/-- The loose form of a property name. `isc` keeps its first letters, as it abbreviates a
property of its own. -/
def looseName (name : List Char) : String :=
  let (hasIs, rest) := match name with
    | i :: s :: rest => if i.toLower = 'i' && s.toLower = 's' then (true, rest) else (false, name)
    | _ => (false, name)
  let kept := rest.filter fun c => c.toNat < 0x80 && c != ' ' && c != '_' && c != '-'
  let loose := String.ofList (kept.map Char.toLower)
  if hasIs && loose = "c" then "isc" else loose

/-- The characters that `\p{name}` stands for: a binary property, else a general category, else a
script. -/
def namedClass (name : List Char) : Option CharSet :=
  let name := looseName name
  binaryProperty name <|> category name <|> script name

/-- The characters that have one value of a property, as in `\p{Script=Greek}`. -/
def valueClass (property value : List Char) : Option CharSet :=
  let value := looseName value
  match looseName property with
  | "gc" | "generalcategory" => category value
  | "sc" | "script" => script value
  | "scx" | "scriptextensions" => extendedScript value
  | "age" => age value
  | "gcb" | "graphemeclusterbreak" => graphemeBreak value
  | "wb" | "wordbreak" => wordBreak value
  | "sb" | "sentencebreak" => sentenceBreak value
  | _ => none

/-- The characters of a known binary property or category. -/
def known (name : String) : CharSet :=
  (binaryProperty name <|> category name).getD .empty

/-- The decimal digits of every script. -/
def digits : CharSet := known "nd"

/-- White space. -/
def spaces : CharSet := known "whitespace"

/-- Word characters: letters, marks, decimal digits, connectors such as `_`, and joiners. -/
def words : CharSet := .unions (["alphabetic", "m", "nd", "pc", "joincontrol"].map known)

/-- Letters in the wide sense. -/
def letters : CharSet := known "alphabetic"

/-- Numbers of every kind: digits, letters used as numbers, fractions. -/
def numbers : CharSet := known "n"

end AccessPolicy.Unicode
