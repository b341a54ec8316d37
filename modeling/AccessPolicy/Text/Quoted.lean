import AccessPolicy.Unicode.Property

/-!
# Descriptions of values

How values are written in error messages, traces and descriptions: texts in double quotes with
what cannot be seen escaped, lists in square brackets, records with named fields in braces.
-/

namespace AccessPolicy.Text

/-- Characters that would not show, or would change how their neighbours look: controls, format
marks, separators other than the space, code points without a character, and marks that combine
with the character before. -/
def unseen : CharSet :=
  (CharSet.unions
    (Unicode.known "graphemeextend" ::
      ["cc", "cf", "co", "cn", "zl", "zp", "zs"].map Unicode.known)).diff (.single ' ')

/-- Whether a character is written as itself. -/
def isSeen (c : Char) : Bool :=
  if c.toNat < 0x7F then ' ' ≤ c else !unseen.contains c

/-- The digits of a number to base sixteen. -/
def hexDigits (n : Nat) : List Char := Nat.toDigits 16 n

/-- One character of a text in quotes. -/
def escape (c : Char) : List Char :=
  if c = '"' ∨ c = '\\' then ['\\', c]
  else if c = '\n' then ['\\', 'n']
  else if c = '\r' then ['\\', 'r']
  else if c = '\t' then ['\\', 't']
  else if c = '\x00' then ['\\', '0']
  else if isSeen c then [c]
  else ['\\', 'u', '\x7b'] ++ hexDigits c.toNat ++ ['\x7d']

/-- A text in quotes. -/
def quoted (s : String) : String :=
  String.ofList ('"' :: s.toList.flatMap escape ++ ['"'])

/-- A list of described items. -/
def listOf (items : List String) : String :=
  "[" ++ ", ".intercalate items ++ "]"

/-- A value with a name and described parts in parentheses. -/
def tagged (name : String) (parts : List String) : String :=
  name ++ "(" ++ ", ".intercalate parts ++ ")"

/-- A record with a name and described fields. -/
def record (name : String) (fields : List (String × String)) : String :=
  name ++ " \x7b " ++ ", ".intercalate (fields.map fun (field, value) => field ++ ": " ++ value)
    ++ " \x7d"

/-- A value that may be absent. -/
def optional : Option String → String
  | none => "None"
  | some value => tagged "Some" [value]

/-- A truth value. -/
def bool (b : Bool) : String := if b then "true" else "false"

end AccessPolicy.Text
