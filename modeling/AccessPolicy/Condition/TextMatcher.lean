import AccessPolicy.Pattern.Compile
import AccessPolicy.Text.Fold

/-!
# Tests of a text

A text is compared with a literal or has to match a pattern. Where case is ignored the literal is
kept in folded form, so that only the text is folded at each test.
-/

namespace AccessPolicy

/-- A test of a text. -/
inductive TextMatcher where
  | exact (value : String) (ignoreCase : Bool)
  | startsWith (value : String) (ignoreCase : Bool)
  | endsWith (value : String) (ignoreCase : Bool)
  /-- The literal occurs somewhere, in its own case. -/
  | contains (value : String)
  | pattern (p : FullPattern)

namespace TextMatcher

/-- The text, folded if case is ignored. -/
def foldIf (ignoreCase : Bool) (s : String) : String :=
  if ignoreCase then Text.fold s else s

/-- Accepts the texts that equal a literal. -/
def equalTo (value : String) (ignoreCase : Bool) : TextMatcher :=
  .exact (foldIf ignoreCase value) ignoreCase

/-- Accepts the texts that start with a literal. -/
def startingWith (value : String) (ignoreCase : Bool) : TextMatcher :=
  .startsWith (foldIf ignoreCase value) ignoreCase

/-- Accepts the texts that end with a literal. -/
def endingWith (value : String) (ignoreCase : Bool) : TextMatcher :=
  .endsWith (foldIf ignoreCase value) ignoreCase

/-- Accepts the texts that a pattern matches from end to end. -/
def ofPattern (source : String) : Except Error TextMatcher :=
  (FullPattern.ofSource source).map .pattern

/-- Whether a text passes the test. -/
def accepts : TextMatcher → String → Bool
  | .exact value ignoreCase, s => foldIf ignoreCase s == value
  | .startsWith value ignoreCase, s => value.toList.isPrefixOf (foldIf ignoreCase s).toList
  | .endsWith value ignoreCase, s => value.toList.isSuffixOf (foldIf ignoreCase s).toList
  | .contains value, s => Text.occursIn value.toList s.toList
  | .pattern p, s => p.isMatch s

end TextMatcher

/-- The description of a pattern: its text as it is matched. -/
def FullPattern.description (p : FullPattern) : String :=
  Text.tagged "Regex" [Text.quoted (Pattern.anchored p.source)]

/-- The description of a test that compares with a literal. -/
def TextMatcher.literalDescription (name value : String) (ignoreCase : Bool) : String :=
  Text.record name [("value", Text.quoted value), ("ignore_case", Text.bool ignoreCase)]

/-- The description of a test. -/
def TextMatcher.description : TextMatcher → String
  | .exact value ignoreCase => literalDescription "Exact" value ignoreCase
  | .startsWith value ignoreCase => literalDescription "Prefix" value ignoreCase
  | .endsWith value ignoreCase => literalDescription "Suffix" value ignoreCase
  | .contains value => Text.record "Contains" [("value", Text.quoted value)]
  | .pattern p => Text.tagged "SafeRegex" [p.description]

end AccessPolicy
