import AccessPolicy.Unicode.Lowercase

/-!
# Texts regardless of case

Texts are compared regardless of case by folding both: every character is taken to lower case on
its own, and a final sigma counts as a plain one wherever it stands.
-/

namespace AccessPolicy.Text

/-- A final sigma becomes a plain one. -/
def plainSigma (c : Char) : Char := if c = 'ς' then 'σ' else c

/-- The folded form of some characters. -/
def foldChars (s : List Char) : List Char :=
  (s.flatMap Unicode.lower).map plainSigma

/-- The folded form of a text. -/
def fold (s : String) : String :=
  String.ofList (foldChars s.toList)

/-- The text with the capital letters of ASCII in lower case. -/
def lowerAscii (s : String) : String :=
  String.ofList (s.toList.map Char.toLower)

/-- Whether `part` occurs somewhere in a list of characters. -/
def occursIn (part : List Char) : List Char → Bool
  | [] => part.isEmpty
  | c :: rest => part.isPrefixOf (c :: rest) || occursIn part rest

end AccessPolicy.Text
