import AccessPolicy.Condition.Limits
import AccessPolicy.Condition.Trace

/-!
# Policies

A policy names what is accessed and who accesses it. It matches a request that meets both
conditions.
-/

namespace AccessPolicy

/-- A named pair of conditions. -/
structure Policy where
  name : String
  /-- What is accessed. -/
  permissions : Condition
  /-- Who accesses it. -/
  principals : Condition

namespace Policy

/-- The policy that some permission rule and some principal rule allow. Without rules on either side
it matches nothing. -/
def ofRules (name : String) (permissions principals : List Condition) : Policy :=
  ⟨name, .joinAny permissions, .joinAny principals⟩

/-- Whether a request meets both conditions. -/
def holds (policy : Policy) (request : Request) : Bool :=
  policy.permissions.holds request && policy.principals.holds request

/-- Refuses a policy with a condition beyond the limits. -/
def check (policy : Policy) : Except Error Unit := do
  policy.permissions.check
  policy.principals.check

def description (policy : Policy) : String :=
  Text.record "Policy"
    [("name", Text.quoted policy.name), ("permissions", policy.permissions.description),
      ("principals", policy.principals.description)]

end Policy

end AccessPolicy
