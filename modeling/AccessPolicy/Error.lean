import AccessPolicy.Text.Quoted

/-!
# Errors of configurations

Why a matcher, a policy or an engine cannot be built.
-/

namespace AccessPolicy

/-- The specifications of which exactly one kind of test must be set. -/
inductive SpecKind where
  | text
  | header
deriving DecidableEq, Repr

/-- Why something cannot be built. -/
inductive Error where
  /-- A condition nests too deep. -/
  | depthExceeded (depth max : Nat)
  /-- A compound condition has too many children. -/
  | tooManyChildren (count max : Nat)
  /-- A specification sets no test. -/
  | noTest (kind : SpecKind) (expected : List String)
  /-- A specification sets more than one test. -/
  | manyTests (kind : SpecKind) (set : List String)
  | invalidPattern (source : String)
  | patternTooLong (length max : Nat)
  | invalidAddress (address : String)
  | invalidPrefixLength (address : String) (length max : Nat)
  | invalidRange (first last : Int)
  | invalidFraction (numerator denominator : Nat)
  | duplicatePolicy (name : String)
  | invalidConfig (reason : String)
deriving DecidableEq, Repr

/-- How messages name a kind of specification. -/
def SpecKind.label : SpecKind → String
  | .text => "string matcher"
  | .header => "header matcher"

/-- The text of an error. -/
def Error.message : Error → String
  | .depthExceeded depth max =>
    s!"matcher nesting depth is {depth}, but maximum allowed is {max}"
      ++ " (reduce nesting or flatten your matcher tree)"
  | .tooManyChildren count max =>
    s!"compound matcher has {count} children, but maximum allowed is {max}"
  | .noTest kind expected =>
    let label := kind.label
    let names := Text.listOf (expected.map Text.quoted)
    s!"{label} sets no match pattern; exactly one of {names} is required"
  | .manyTests kind set =>
    let label := kind.label
    let names := Text.listOf (set.map Text.quoted)
    s!"{label} is ambiguous: {names} are all set, but exactly one is allowed"
  | .invalidPattern source => s!"invalid pattern \"{source}\""
  | .patternTooLong length max => s!"pattern length is {length}, but maximum allowed is {max}"
  | .invalidAddress address =>
    s!"invalid CIDR address prefix \"{address}\": not an IPv4 or IPv6 literal"
  | .invalidPrefixLength address length max =>
    s!"CIDR prefix length {length} exceeds {max} bits for \"{address}\""
  | .invalidRange first last => s!"invalid range [{first}, {last}]: start is greater than end"
  | .invalidFraction numerator denominator =>
    s!"invalid fraction {numerator}/{denominator}: denominator must be non-zero"
  | .duplicatePolicy name => s!"duplicate policy name \"{name}\""
  | .invalidConfig reason => s!"invalid config: {reason}"

/-- The text of an error and behind it, where it is known, the reason why a pattern makes no sense;
`reason` has it by the text of the pattern. -/
def Error.messageWith (reason : String → Option String) : Error → String
  | .invalidPattern source =>
    Error.message (.invalidPattern source) ++ ((reason source).map (": " ++ ·)).getD ""
  | e => e.message

end AccessPolicy
