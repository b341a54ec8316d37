import AccessPolicy.Condition.Basic

/-!
# Traces

A trace has the shape of the condition it explains. It tells at every place whether the part there
held, and at the leaves what the part read from the request. No part is left out, also where the
outcome is clear without it.
-/

namespace AccessPolicy.Condition

/-- The explanation of what a condition decided. -/
inductive Trace where
  | always
  | header (matched : Bool) (name : String) (value : Option String)
  | attr (matched : Bool) (read : Attribute) (value : Option String) (matcher : String)
  | allOf (matched : Bool) (children : List Trace)
  | anyOf (matched : Bool) (children : List Trace)
  | not (matched : Bool) (inner : Trace)

namespace Trace

/-- Whether the part held. -/
def matched : Trace → Bool
  | .always => true
  | .header matched .. => matched
  | .attr matched .. => matched
  | .allOf matched _ => matched
  | .anyOf matched _ => matched
  | .not matched _ => matched

mutual

/-- The description of a trace. -/
def description : Trace → String
  | .always => "Any"
  | .header matched name value => Text.record "Header"
      [("matched", Text.bool matched), ("name", Text.quoted name),
        ("value", Text.optional (value.map Text.quoted))]
  | .attr matched read value matcher => Text.record "Field"
      [("matched", Text.bool matched), ("field", read.description),
        ("value", Text.optional (value.map Text.quoted)), ("matcher", Text.quoted matcher)]
  | .allOf matched children => Text.record "And"
      [("matched", Text.bool matched), ("children", Text.listOf (descriptions children))]
  | .anyOf matched children => Text.record "Or"
      [("matched", Text.bool matched), ("children", Text.listOf (descriptions children))]
  | .not matched inner => Text.record "Not"
      [("matched", Text.bool matched), ("inner", inner.description)]

/-- The descriptions of some traces. -/
def descriptions : List Trace → List String
  | [] => []
  | t :: rest => t.description :: descriptions rest

end

end Trace

mutual

/-- Evaluates a condition in full. -/
def trace (request : Request) : Condition → Trace
  | .always => .always
  | .anyOf children =>
    let parts := traces request children
    .anyOf (parts.any Trace.matched) parts
  | .allOf children =>
    let parts := traces request children
    .allOf (parts.all Trace.matched) parts
  | .not inner =>
    let part := inner.trace request
    .not (!part.matched) part
  | .header matcher =>
    let value := request.header matcher.name
    .header (matcher.acceptsValue value) matcher.name value
  | .attr matcher =>
    let value := matcher.attr.value? request
    .attr (value.any matcher.test.accepts) matcher.attr value
      matcher.test.description

/-- Evaluates some conditions in full. -/
def traces (request : Request) : List Condition → List Trace
  | [] => []
  | c :: rest => c.trace request :: traces request rest

end

mutual

/-- A trace tells whether its condition held. -/
theorem matched_trace (request : Request) (c : Condition) :
    (c.trace request).matched = c.holds request := by
  match c with
  | .always => simp [trace, Trace.matched, holds]
  | .anyOf children => simp [trace, Trace.matched, holds, any_matched_traces request children]
  | .allOf children => simp [trace, Trace.matched, holds, all_matched_traces request children]
  | .not inner =>
    rw [trace, holds, ← matched_trace request inner]
    rfl
  | .header matcher => simp [trace, Trace.matched, holds, HeaderMatcher.accepts]
  | .attr matcher => simp [trace, Trace.matched, holds, AttributeMatcher.accepts]

theorem any_matched_traces (request : Request) (cs : List Condition) :
    (traces request cs).any Trace.matched = cs.any (holds request) := by
  match cs with
  | [] => rfl
  | c :: rest => simp [traces, matched_trace request c, any_matched_traces request rest]

theorem all_matched_traces (request : Request) (cs : List Condition) :
    (traces request cs).all Trace.matched = cs.all (holds request) := by
  match cs with
  | [] => rfl
  | c :: rest => simp [traces, matched_trace request c, all_matched_traces request rest]

end

end AccessPolicy.Condition
