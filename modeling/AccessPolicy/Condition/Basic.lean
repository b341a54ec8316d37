import AccessPolicy.Condition.AttributeMatcher
import AccessPolicy.Condition.HeaderMatcher

/-!
# Conditions

Tests of a request, combined by conjunction, disjunction and negation.
-/

namespace AccessPolicy

/-- A condition on requests. -/
inductive Condition where
  | always
  /-- Some child holds. -/
  | anyOf (children : List Condition)
  /-- Every child holds. -/
  | allOf (children : List Condition)
  | not (inner : Condition)
  | header (matcher : HeaderMatcher)
  | attr (matcher : AttributeMatcher)

namespace Condition

mutual

/-- Whether a condition holds of a request. -/
def holds (request : Request) : Condition → Bool
  | .always => true
  | .anyOf children => someHolds request children
  | .allOf children => allHold request children
  | .not inner => !inner.holds request
  | .header matcher => matcher.accepts request
  | .attr matcher => matcher.accepts request

/-- Whether some condition of a list holds. -/
def someHolds (request : Request) : List Condition → Bool
  | [] => false
  | c :: rest => c.holds request || someHolds request rest

/-- Whether every condition of a list holds. -/
def allHold (request : Request) : List Condition → Bool
  | [] => true
  | c :: rest => c.holds request && allHold request rest

end

@[simp]
theorem someHolds_eq_any (request : Request) (cs : List Condition) :
    someHolds request cs = cs.any (holds request) := by
  induction cs with
  | nil => rfl
  | cons c rest ih => simp [someHolds, ih]

@[simp]
theorem allHold_eq_all (request : Request) (cs : List Condition) :
    allHold request cs = cs.all (holds request) := by
  induction cs with
  | nil => rfl
  | cons c rest ih => simp [allHold, ih]

/-- Joins conditions: the condition that all hold. A single one stands for itself. -/
def joinAll : List Condition → Condition
  | [] => .always
  | [c] => c
  | cs => .allOf cs

/-- Joins conditions: the condition that some holds. A single one stands for itself, and none at
all never hold. -/
def joinAny : List Condition → Condition
  | [] => .anyOf []
  | [c] => c
  | cs => .anyOf cs

/-- A condition that stands for itself holds as its compound would. -/
theorem holds_joinAll (request : Request) (cs : List Condition) :
    (joinAll cs).holds request = cs.all (holds request) := by
  match cs with
  | [] => simp [joinAll, holds]
  | [c] => simp [joinAll]
  | c :: d :: rest => simp [joinAll, holds]

theorem holds_joinAny (request : Request) (cs : List Condition) :
    (joinAny cs).holds request = cs.any (holds request) := by
  match cs with
  | [] => simp [joinAny, holds]
  | [c] => simp [joinAny]
  | c :: d :: rest => simp [joinAny, holds]

mutual

/-- The description of a condition. -/
def description : Condition → String
  | .always => "Any"
  | .anyOf children => Text.tagged "Or" [Text.listOf (descriptions children)]
  | .allOf children => Text.tagged "And" [Text.listOf (descriptions children)]
  | .not inner => Text.tagged "Not" [inner.description]
  | .header matcher => Text.tagged "Header" [matcher.description]
  | .attr matcher => Text.tagged "Field" [matcher.description]

/-- The descriptions of some conditions. -/
def descriptions : List Condition → List String
  | [] => []
  | c :: rest => c.description :: descriptions rest

end

end Condition

end AccessPolicy
