import AccessPolicy.Condition.TextMatcher
import AccessPolicy.Request
import AccessPolicy.Text.Integer

/-!
# Tests of a header

A header is tested for its presence or by its value. A header that is absent fails every test of
its value, also an inverted one.
-/

namespace AccessPolicy

/-- The integers from `first` to `last`. -/
structure IntRange where
  first : Int
  last : Int
  first_le_last : first ≤ last
deriving DecidableEq

namespace IntRange

/-- The range between two bounds, the first of which must not be the larger. -/
def ofBounds (first last : Int) : Except Error IntRange :=
  if h : first ≤ last then .ok ⟨first, last, h⟩ else .error (.invalidRange first last)

def contains (range : IntRange) (n : Int) : Bool :=
  range.first ≤ n && n ≤ range.last

def description (range : IntRange) : String :=
  Text.record "Int64Range" [("start", toString range.first), ("end", toString range.last)]

end IntRange

/-- What is asked of a header. -/
inductive HeaderTest where
  | exact (value : String)
  | pattern (p : FullPattern)
  /-- The value is an integer of a range. -/
  | range (range : IntRange)
  /-- The header is there, or is not. -/
  | present (expected : Bool)
  | startsWith (value : String)
  | endsWith (value : String)

namespace HeaderTest

/-- Whether a value passes; every value does if only presence is asked for. -/
def accepts : HeaderTest → String → Bool
  | .exact value, s => s == value
  | .pattern p, s => p.isMatch s
  | .range r, s => (Text.int64? s).any r.contains
  | .present _, _ => true
  | .startsWith value, s => value.toList.isPrefixOf s.toList
  | .endsWith value, s => value.toList.isSuffixOf s.toList

def description : HeaderTest → String
  | .exact value => Text.tagged "Exact" [Text.quoted value]
  | .pattern p => Text.tagged "SafeRegex" [p.description]
  | .range r => Text.tagged "Range" [r.description]
  | .present expected => Text.tagged "Present" [Text.bool expected]
  | .startsWith value => Text.tagged "Prefix" [Text.quoted value]
  | .endsWith value => Text.tagged "Suffix" [Text.quoted value]

end HeaderTest

/-- A test of the header of a name, which is in lower case. -/
structure HeaderMatcher where
  name : String
  test : HeaderTest
  inverted : Bool

namespace HeaderMatcher

/-- A test of the header of a name, given in any case. -/
def ofName (name : String) (test : HeaderTest) (inverted : Bool) : HeaderMatcher :=
  ⟨Text.lowerAscii name, test, inverted⟩

/-- Whether a header passes, given its value if it is there. -/
def acceptsValue (matcher : HeaderMatcher) (value : Option String) : Bool :=
  match matcher.test, value with
  | .present expected, value => (value.isSome == expected) != matcher.inverted
  | _, none => false
  | test, some value => test.accepts value != matcher.inverted

/-- Whether a request passes. -/
def accepts (matcher : HeaderMatcher) (request : Request) : Bool :=
  matcher.acceptsValue (request.header matcher.name)

def description (matcher : HeaderMatcher) : String :=
  Text.record "HeaderMatcher"
    [("name", Text.quoted matcher.name), ("kind", matcher.test.description),
      ("inverted", Text.bool matcher.inverted)]

end HeaderMatcher

end AccessPolicy
