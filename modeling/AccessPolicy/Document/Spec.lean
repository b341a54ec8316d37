import AccessPolicy.Condition.AttributeMatcher
import AccessPolicy.Condition.HeaderMatcher
import AccessPolicy.Limits

/-!
# Specifications of tests

What a document says about one test: a record of fields of which exactly one asks for a test. A
specification turns into a test, or is refused when it asks for none, for several, or for one that
cannot be built.
-/

namespace AccessPolicy

/-- Refuses a literal that is too long. -/
def checkLiteral (value : String) : Except Error Unit :=
  if maxLiteralLength < value.utf8ByteSize then
    .error (.patternTooLong value.utf8ByteSize maxLiteralLength)
  else .ok ()

/-- The names of the fields that are set. -/
def setNames (fields : List (String × Bool)) : List String :=
  fields.filterMap fun (name, set) => if set then some name else none

/-! ## Tests of a text -/

/-- What a document says about a test of a text. -/
structure TextSpec where
  exact : Option String := none
  startsWith : Option String := none
  endsWith : Option String := none
  contains : Option String := none
  pattern : Option String := none
  ignoreCase : Bool := false
deriving DecidableEq, Repr

namespace TextSpec

/-- The fields that ask for a test, and whether they are set. -/
def tests (spec : TextSpec) : List (String × Bool) :=
  [("exact", spec.exact.isSome), ("prefix", spec.startsWith.isSome),
    ("suffix", spec.endsWith.isSome), ("contains", spec.contains.isSome),
    ("safe_regex", spec.pattern.isSome)]

/-- The test that a specification asks for. -/
def compile (spec : TextSpec) : Except Error TextMatcher := do
  let set := setNames spec.tests
  if 1 < set.length then throw (.manyTests .text set)
  match spec with
  | { exact := some value, .. } =>
    checkLiteral value
    return .equalTo value spec.ignoreCase
  | { startsWith := some value, .. } =>
    checkLiteral value
    return .startingWith value spec.ignoreCase
  | { endsWith := some value, .. } =>
    checkLiteral value
    return .endingWith value spec.ignoreCase
  | { contains := some value, .. } =>
    checkLiteral value
    return .contains value
  | { pattern := some source, .. } => TextMatcher.ofPattern source
  | _ => throw (.noTest .text (spec.tests.map Prod.fst))

/-- A specification in short: the tests asked for, joined by plus signs. -/
def text (spec : TextSpec) : String :=
  let parts := [("Exact", spec.exact), ("Prefix", spec.startsWith), ("Suffix", spec.endsWith),
    ("Contains", spec.contains), ("SafeRegex", spec.pattern)].filterMap
      fun (name, value) => value.map fun value => name ++ "(\"" ++ value ++ "\")"
  (if parts.isEmpty then "Empty" else " + ".intercalate parts)
    ++ (if spec.ignoreCase then " [ignore_case]" else "")

/-- The description of an optional text. -/
def optionalText (value : Option String) : String :=
  Text.optional (value.map Text.quoted)

def description (spec : TextSpec) : String :=
  Text.record "StringMatchSpec"
    [("exact", optionalText spec.exact), ("prefix", optionalText spec.startsWith),
      ("suffix", optionalText spec.endsWith), ("contains", optionalText spec.contains),
      ("safe_regex", optionalText spec.pattern), ("ignore_case", Text.bool spec.ignoreCase)]

end TextSpec

/-! ## Tests of a header -/

/-- What a document says about a range of integers. -/
structure RangeSpec where
  first : Int
  last : Int
deriving DecidableEq, Repr

def RangeSpec.description (spec : RangeSpec) : String :=
  Text.record "RangeSpec" [("start", toString spec.first), ("end", toString spec.last)]

/-- What a document says about a test of a header. -/
structure HeaderSpec where
  name : String
  exact : Option String := none
  pattern : Option String := none
  range : Option RangeSpec := none
  present : Option Bool := none
  startsWith : Option String := none
  endsWith : Option String := none
  inverted : Bool := false
deriving DecidableEq, Repr

namespace HeaderSpec

/-- The fields that ask for a test, and whether they are set. -/
def tests (spec : HeaderSpec) : List (String × Bool) :=
  [("exact_match", spec.exact.isSome), ("safe_regex_match", spec.pattern.isSome),
    ("range_match", spec.range.isSome), ("present_match", spec.present.isSome),
    ("prefix_match", spec.startsWith.isSome), ("suffix_match", spec.endsWith.isSome)]

/-- What a specification asks of the header. -/
def test (spec : HeaderSpec) : Except Error HeaderTest := do
  let set := setNames spec.tests
  if 1 < set.length then throw (.manyTests .header set)
  match spec with
  | { exact := some value, .. } =>
    checkLiteral value
    return .exact value
  | { pattern := some source, .. } => return .pattern (← FullPattern.ofSource source)
  | { range := some range, .. } => return .range (← IntRange.ofBounds range.first range.last)
  | { present := some expected, .. } => return .present expected
  | { startsWith := some value, .. } =>
    checkLiteral value
    return .startsWith value
  | { endsWith := some value, .. } =>
    checkLiteral value
    return .endsWith value
  | _ => throw (.noTest .header (spec.tests.map Prod.fst))

/-- The test that a specification asks for. -/
def compile (spec : HeaderSpec) : Except Error HeaderMatcher := do
  return .ofName spec.name (← spec.test) spec.inverted

def description (spec : HeaderSpec) : String :=
  Text.record "HeaderMatchSpec"
    [("name", Text.quoted spec.name), ("exact_match", TextSpec.optionalText spec.exact),
      ("safe_regex_match", TextSpec.optionalText spec.pattern),
      ("range_match", Text.optional (spec.range.map RangeSpec.description)),
      ("present_match", Text.optional (spec.present.map Text.bool)),
      ("prefix_match", TextSpec.optionalText spec.startsWith),
      ("suffix_match", TextSpec.optionalText spec.endsWith),
      ("invert_match", Text.bool spec.inverted)]

end HeaderSpec

/-! ## Tests of an address -/

/-- What a document says about a network. -/
structure NetworkSpec where
  address : String
  length : Nat
deriving DecidableEq, Repr

namespace NetworkSpec

/-- The network that a specification describes. -/
def compile (spec : NetworkSpec) : Except Error Network :=
  Network.ofText spec.address spec.length

def description (spec : NetworkSpec) : String :=
  Text.record "CidrSpec"
    [("address_prefix", Text.quoted spec.address), ("prefix_len", toString spec.length)]

end NetworkSpec

end AccessPolicy
