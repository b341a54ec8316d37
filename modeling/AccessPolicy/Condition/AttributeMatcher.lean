import AccessPolicy.Condition.TextMatcher
import AccessPolicy.Network
import AccessPolicy.Request

/-!
# Tests of an attribute

An attribute of a request is tested as a text or as an address. A request that lacks the attribute
fails.
-/

namespace AccessPolicy

/-- A test of a value. -/
inductive ValueMatcher where
  | text (matcher : TextMatcher)
  | network (network : Network)

namespace ValueMatcher

def accepts : ValueMatcher → String → Bool
  | .text matcher, s => matcher.accepts s
  | .network n, s => n.matchesText s

def description : ValueMatcher → String
  | .text matcher => Text.tagged "String" [matcher.description]
  | .network n => Text.tagged "Ip" [n.description]

end ValueMatcher

/-- A test of one attribute of a request. -/
structure AttributeMatcher where
  attr : Attribute
  test : ValueMatcher

namespace AttributeMatcher

/-- A test of the method name. -/
def path (matcher : TextMatcher) : AttributeMatcher := ⟨.method, .text matcher⟩

/-- A test of the caller's name. -/
def authenticated (matcher : TextMatcher) : AttributeMatcher := ⟨.principal, .text matcher⟩

/-- A test of the caller's address. -/
def sourceIn (network : Network) : AttributeMatcher := ⟨.source, .network network⟩

/-- A test of the address that was called. -/
def destinationIn (network : Network) : AttributeMatcher := ⟨.destination, .network network⟩

/-- Whether a request passes. -/
def accepts (matcher : AttributeMatcher) (request : Request) : Bool :=
  (matcher.attr.value? request).any matcher.test.accepts

def description (matcher : AttributeMatcher) : String :=
  Text.record "FieldMatcher"
    [("field", matcher.attr.description), ("matcher", matcher.test.description)]

end AttributeMatcher

end AccessPolicy
