import AccessPolicy.Error
import AccessPolicy.Limits
import AccessPolicy.Pattern.Footprint
import AccessPolicy.Pattern.Meaning
import AccessPolicy.Pattern.Reader
import AccessPolicy.Pattern.Search

/-!
# Patterns from text

A pattern of a configuration has to match a whole value. Its text is read as it stands first, so
that it must make sense on its own, and then again between `\A(?:` and `)\z`.
-/

namespace AccessPolicy

namespace Pattern

/-- The pattern that a text spells, if it makes sense and is not too large. -/
def ofText? (text : String) : Option Pattern := do
  let e ← Expr.ofText? text.toList
  let (p, _) ← e.meaning? {}
  if p.fits then some p else none

/-- The text of a pattern, tied to both ends of the value. -/
def anchored (text : String) : String :=
  "\\A(?:" ++ text ++ ")\\z"

end Pattern

/-- A pattern that matches whole values. -/
structure FullPattern where
  /-- The pattern as it was written. -/
  source : String
  pattern : Pattern
  pattern_eq : Pattern.ofText? (Pattern.anchored source) = some pattern

namespace FullPattern

/-- Compiles a pattern that has to match whole values. -/
def ofSource (source : String) : Except Error FullPattern :=
  if maxPatternSourceLength < source.utf8ByteSize then
    .error (.patternTooLong source.utf8ByteSize maxPatternSourceLength)
  else if (Pattern.ofText? source).isNone then
    .error (.invalidPattern source)
  else
    match h : Pattern.ofText? (Pattern.anchored source) with
    | some pattern => .ok ⟨source, pattern, h⟩
    | none => .error (.invalidPattern source)

/-- Whether the pattern matches a value. -/
def isMatch (p : FullPattern) (value : String) : Bool :=
  p.pattern.isMatch value.toList

end FullPattern

end AccessPolicy
