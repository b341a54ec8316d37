import AccessPolicy.Proofs.Engine.Explanation
import AccessPolicy.Proofs.Engine.WellFormed

/-!
# Explanations record all that a decision depends on

A leaf of a condition looks up a header or an attribute of the request and tests what it finds. A
trace records each look-up together with what was found. This module shows that a request which
answers the recorded look-ups alike is decided alike and explained alike, whatever else it holds:
no leaf of a policy that was tried is left out, and policies behind the first that matches are not
looked at.

Main results:

* `records_trace` — a trace records the look-ups of all leaves and what the request has for them;
* `trace_congr` — a condition depends on nothing but its look-ups;
* `explainPolicies_congr` — a run depends on nothing but the look-ups of the policies it tries;
* `explain_eq_iff` — when two requests have the same explanation.
-/

namespace AccessPolicy

/-- A look-up in a request. -/
inductive Lookup where
  | header (name : String)
  | attr (read : Attribute)
deriving DecidableEq, Repr

/-- What a request has for a look-up. -/
def Lookup.value? (request : Request) : Lookup → Option String
  | .header name => request.header name
  | .attr read => read.value? request

/-- Whether another request answers some look-ups as a request does. -/
def Request.AnsweredAlike (request other : Request) (lookups : List Lookup) : Prop :=
  ∀ lookup ∈ lookups, lookup.value? other = lookup.value? request

theorem Request.AnsweredAlike.left {request other : Request} {as bs : List Lookup}
    (h : request.AnsweredAlike other (as ++ bs)) : request.AnsweredAlike other as :=
  fun lookup hlookup => h lookup (List.mem_append_left bs hlookup)

theorem Request.AnsweredAlike.right {request other : Request} {as bs : List Lookup}
    (h : request.AnsweredAlike other (as ++ bs)) : request.AnsweredAlike other bs :=
  fun lookup hlookup => h lookup (List.mem_append_right as hlookup)

/-- A look-up and what was found. -/
abbrev Record := Lookup × Option String

/-- The look-up with what a request has for it. -/
def Lookup.recordOf (request : Request) (lookup : Lookup) : Record :=
  (lookup, lookup.value? request)

@[simp]
theorem map_fst_recordOf (request : Request) (lookups : List Lookup) :
    (lookups.map (Lookup.recordOf request)).map Prod.fst = lookups := by
  rw [List.map_map]
  exact List.map_id lookups

/-! ## Conditions -/

namespace Condition

mutual

/-- The look-ups of the leaves of a condition, from left to right. -/
def lookups : Condition → List Lookup
  | .always => []
  | .anyOf children => lookupsOf children
  | .allOf children => lookupsOf children
  | .not inner => inner.lookups
  | .header matcher => [.header matcher.name]
  | .attr matcher => [.attr matcher.attr]

def lookupsOf : List Condition → List Lookup
  | [] => []
  | c :: rest => c.lookups ++ lookupsOf rest

end

mutual

/-- What a trace tells about look-ups, from left to right. -/
def Trace.records : Trace → List Record
  | .always => []
  | .header _ name value => [(.header name, value)]
  | .attr _ read value _ => [(.attr read, value)]
  | .allOf _ children => Trace.recordsOf children
  | .anyOf _ children => Trace.recordsOf children
  | .not _ inner => inner.records

def Trace.recordsOf : List Trace → List Record
  | [] => []
  | t :: rest => t.records ++ Trace.recordsOf rest

end

mutual

/-- A trace skips no leaf, and records for each what the leaf tested. -/
theorem records_trace (request : Request) (c : Condition) :
    (c.trace request).records = c.lookups.map (Lookup.recordOf request) := by
  match c with
  | .always => rfl
  | .anyOf children =>
    -- the outcome may be clear after one child, but the trace has all of them
    rw [trace, Trace.records, lookups]
    exact recordsOf_traces request children
  | .allOf children =>
    rw [trace, Trace.records, lookups]
    exact recordsOf_traces request children
  | .not inner =>
    rw [trace, Trace.records, lookups]
    exact records_trace request inner
  -- a leaf tests the very value that its trace records
  | .header matcher => rfl
  | .attr matcher => rfl

theorem recordsOf_traces (request : Request) (cs : List Condition) :
    Trace.recordsOf (traces request cs) = (lookupsOf cs).map (Lookup.recordOf request) := by
  match cs with
  | [] => rfl
  | c :: rest =>
    rw [traces, Trace.recordsOf, lookupsOf, List.map_append, records_trace request c,
      recordsOf_traces request rest]

end

variable {request other : Request}

mutual

/-- A condition depends on nothing but its look-ups. -/
theorem trace_congr {c : Condition} (h : request.AnsweredAlike other c.lookups) :
    c.trace other = c.trace request := by
  match c with
  | .always => rfl
  | .anyOf children =>
    rw [lookups] at h
    rw [trace, trace, traces_congr h]
  | .allOf children =>
    rw [lookups] at h
    rw [trace, trace, traces_congr h]
  | .not inner =>
    rw [lookups] at h
    rw [trace, trace, trace_congr h]
  | .header matcher =>
    have hvalue : other.header matcher.name = request.header matcher.name :=
      h (.header matcher.name) List.mem_cons_self
    rw [trace, trace, hvalue]
  | .attr matcher =>
    have hvalue : matcher.attr.value? other = matcher.attr.value? request :=
      h (.attr matcher.attr) List.mem_cons_self
    rw [trace, trace, hvalue]

theorem traces_congr {cs : List Condition} (h : request.AnsweredAlike other (lookupsOf cs)) :
    traces other cs = traces request cs := by
  match cs with
  | [] => rfl
  | c :: rest =>
    rw [lookupsOf] at h
    rw [traces, traces, trace_congr h.left, traces_congr h.right]

end

end Condition

/-! ## Policies -/

namespace Engine

/-- The look-ups of the leaves of a policy. -/
def lookups (policy : Policy) : List Lookup :=
  policy.permissions.lookups ++ policy.principals.lookups

/-- What a step tells about look-ups. -/
def Step.records (step : Step) : List Record :=
  step.permissions.records ++ step.principals.records

/-- What an explanation tells about look-ups. -/
def Explanation.records (explanation : Explanation) : List Record :=
  explanation.steps.flatMap Step.records

/-- The look-ups that an explanation tells about. -/
def Explanation.lookups (explanation : Explanation) : List Lookup :=
  explanation.records.map Prod.fst

theorem records_ofPolicy (request : Request) (policy : Policy) :
    (Step.ofPolicy request policy).records =
      (lookups policy).map (Lookup.recordOf request) := by
  rw [Step.records, Step.ofPolicy, lookups, List.map_append, Condition.records_trace,
    Condition.records_trace]

variable {request other : Request}

theorem ofPolicy_congr {policy : Policy} (h : request.AnsweredAlike other (lookups policy)) :
    Step.ofPolicy other policy = Step.ofPolicy request policy := by
  rw [lookups] at h
  rw [Step.ofPolicy, Step.ofPolicy, Condition.trace_congr h.left, Condition.trace_congr h.right]

/-- A run over policies depends on nothing but the look-ups of the policies it tries. -/
theorem explainPolicies_congr {policies : List Policy}
    (h : request.AnsweredAlike other ((tried request policies).flatMap lookups)) :
    explainPolicies other policies = explainPolicies request policies := by
  induction policies with
  | nil => rfl
  | cons policy rest ih =>
    rw [explainPolicies, explainPolicies]
    by_cases hholds : policy.holds request = true
    · -- the run ends here, so nothing is known about the look-ups of the rest
      rw [tried_cons_of_holds rest hholds, List.flatMap_singleton] at h
      rw [ofPolicy_congr h, matched_ofPolicy, if_pos hholds, if_pos hholds]
    · -- the first policy is tried and the run goes on, with the same step in front
      rw [tried_cons_of_not_holds rest (Bool.eq_false_iff.mpr hholds), List.flatMap_cons] at h
      rw [ofPolicy_congr h.left, matched_ofPolicy, if_neg hholds, if_neg hholds, ih h.right]

/-! ## Explanations -/

variable (engine : Engine) (request other : Request)

/-- An explanation records the look-ups of all policies that were tried and what the request has for
them. -/
theorem records_explain :
    (engine.explain request).records =
      ((tried request engine.policies).flatMap lookups).map (Lookup.recordOf request) := by
  rw [Explanation.records, steps_explain, List.flatMap_map, List.map_flatMap]
  simp only [records_ofPolicy]

theorem lookups_explain :
    (engine.explain request).lookups = (tried request engine.policies).flatMap lookups := by
  rw [Explanation.lookups, records_explain, map_fst_recordOf]

/-- Two requests are decided and explained alike if and only if they answer alike all that the
explanation of the first one records, in whatever else they differ. -/
theorem explain_eq_iff :
    request.AnsweredAlike other (engine.explain request).lookups ↔
      engine.evaluate other = engine.evaluate request ∧
        engine.explain other = engine.explain request := by
  constructor
  · intro h
    -- the run alone decides, and it is the same for both requests
    rw [lookups_explain] at h
    have hexplain : engine.explain other = engine.explain request := by
      rw [explain, explain, explainPolicies_congr h]
    refine ⟨?_, hexplain⟩
    rw [← decision_explain, ← decision_explain, hexplain]
  · rintro ⟨-, hexplain⟩ lookup hlookup
    rw [lookups_explain] at hlookup
    have hrecord : lookup.recordOf request ∈ (engine.explain request).records := by
      rw [records_explain]
      exact List.mem_map_of_mem hlookup
    -- the other explanation has the very same record, of what the other request has
    rw [← hexplain, records_explain] at hrecord
    obtain ⟨found, -, hfound⟩ := List.mem_map.mp hrecord
    obtain ⟨rfl, hvalue⟩ := Prod.mk.inj hfound
    exact hvalue

/-- The requests differ in their callers, and in a header that only the second policy looks up. -/
theorem explain_eq_iff_behind_match :
    let policies : List Policy :=
      [⟨"debug", .header (.ofName "X-Debug" (.present true) false), .always⟩,
        ⟨"team", .always, .header (.ofName "X-Team" (.exact "ops") false)⟩]
    let request : Request := Call.request
      { method := "/a/b", principal := some "alice",
        headers := [("x-debug", "1"), ("x-team", "ops")] }
    let other : Request := Call.request { method := "/c/d", headers := [("x-debug", "1")] }
    ∃ engine, ofPolicies .allow policies = .ok engine ∧
      (engine.explain request).lookups = [.header "x-debug"] ∧
      engine.explain other = engine.explain request := by
  intro policies request other
  have hwell : WellFormed policies := by decide +kernel
  obtain ⟨engine, hengine⟩ := (exists_ofPolicies_iff .allow).mpr hwell
  obtain ⟨-, hpolicies⟩ := ofPolicies_eq_ok hengine
  have hlookups : (engine.explain request).lookups = [.header "x-debug"] := by
    rw [lookups_explain, hpolicies]
    decide +kernel
  have halike : request.AnsweredAlike other (engine.explain request).lookups := by
    rw [hlookups]
    intro lookup hlookup
    obtain rfl := List.mem_singleton.mp hlookup
    decide +kernel
  exact ⟨engine, hengine, hlookups, ((explain_eq_iff engine request other).mp halike).2⟩

end Engine

end AccessPolicy
