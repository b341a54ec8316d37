import AccessPolicy.Engine

/-!
# Explanations tell what was decided

A decision looks for the first policy that matches, and looks no further into a condition than it
must. An explanation tries policy after policy, each in full. This module shows that the two never
come apart: they stop at the same policy and take the same decision.

Main results:

* `matched_ofPolicy` — a step matches if and only if its policy does;
* `explainPolicies_fst`, `explainPolicies_snd` — the steps taken and the policy that matched;
* `explain_faithful` — what an explanation says about the policies and the decision.
-/

namespace AccessPolicy.Engine

/-- What a step has to say about the policy it is about. -/
structure Step.Tells (request : Request) (step : Step) (policy : Policy) : Prop where
  name : step.name = policy.name
  matched : step.matched = policy.holds request
  permissions : step.permissions.matched = policy.permissions.holds request
  principals : step.principals.matched = policy.principals.holds request

/-- An explanation that tells what an engine does with a request. -/
structure Explanation.Faithful (engine : Engine) (request : Request) (explanation : Explanation) :
    Prop where
  decision : explanation.decision = engine.evaluate request
  /-- There is a step for each policy up to and including the first that matches. -/
  length : explanation.steps.length =
    min (engine.policies.findIdx (·.holds request) + 1) engine.policies.length
  tells : ∀ i (hi : i < explanation.steps.length) (hp : i < engine.policies.length),
    explanation.steps[i].Tells request engine.policies[i]
  /-- No step before the last is a match. -/
  before_last : ∀ i (hi : i + 1 < explanation.steps.length), explanation.steps[i].matched = false
  /-- The decision names the policy of the last step if that is a match, and otherwise none. -/
  last : ∀ name, explanation.decision.policy = some name ↔
    ∃ step, explanation.steps.getLast? = some step ∧ step.matched = true ∧ step.name = name

/-! ## One step -/

@[simp]
theorem name_ofPolicy (request : Request) (policy : Policy) :
    (Step.ofPolicy request policy).name = policy.name := rfl

@[simp]
theorem matched_ofPolicy (request : Request) (policy : Policy) :
    (Step.ofPolicy request policy).matched = policy.holds request := by
  rw [Step.ofPolicy, Policy.holds, Condition.matched_trace, Condition.matched_trace]

theorem tells_ofPolicy (request : Request) (policy : Policy) :
    (Step.ofPolicy request policy).Tells request policy where
  name := rfl
  matched := matched_ofPolicy request policy
  permissions := Condition.matched_trace request policy.permissions
  principals := Condition.matched_trace request policy.principals

/-! ## A run over the policies -/

/-- The policies that are tried for a request: up to and including the first that matches. -/
def tried (request : Request) (policies : List Policy) : List Policy :=
  policies.take (policies.findIdx (·.holds request) + 1)

theorem tried_cons_of_holds {request : Request} {policy : Policy} (rest : List Policy)
    (h : policy.holds request = true) : tried request (policy :: rest) = [policy] := by
  simp [tried, List.findIdx_cons, h]

theorem tried_cons_of_not_holds {request : Request} {policy : Policy} (rest : List Policy)
    (h : policy.holds request = false) :
    tried request (policy :: rest) = policy :: tried request rest := by
  simp [tried, List.findIdx_cons, h]

/-- No policy before the last that is tried matches. -/
theorem holds_tried {request : Request} {policies : List Policy} {i : Nat}
    (hi : i + 1 < (tried request policies).length) :
    ((tried request policies)[i]).holds request = false := by
  have hlt : i < policies.findIdx (·.holds request) := by
    rw [tried, List.length_take] at hi
    omega
  simp only [tried, List.getElem_take]
  exact List.not_of_lt_findIdx hlt

/-- The last policy that is tried, if it matches, is the one that decides. -/
theorem getLast?_tried (request : Request) (policies : List Policy) :
    (tried request policies).getLast?.filter (·.holds request) =
      policies.find? (·.holds request) := by
  induction policies with
  | nil => rfl
  | cons policy rest ih =>
    rw [List.find?_cons]
    by_cases h : policy.holds request = true
    · rw [tried_cons_of_holds rest h, h]
      simp [h]
    · -- the last that is tried stands in the rest, or there is no rest and nothing matches
      rw [Bool.not_eq_true] at h
      rw [tried_cons_of_not_holds rest h, h, ← ih, List.getLast?_cons]
      cases (tried request rest).getLast? with
      | none => simp [h]
      | some last => simp

theorem explainPolicies_fst (request : Request) (policies : List Policy) :
    (explainPolicies request policies).1 =
      (tried request policies).map (Step.ofPolicy request) := by
  induction policies with
  | nil => rfl
  | cons policy rest ih =>
    by_cases h : policy.holds request = true
    · rw [explainPolicies, matched_ofPolicy, if_pos h, tried_cons_of_holds rest h]
      rfl
    · rw [explainPolicies, matched_ofPolicy, if_neg h,
        tried_cons_of_not_holds rest (Bool.eq_false_iff.mpr h), List.map_cons, ← ih]

/-- The steps stop at the very policy that decides. -/
theorem explainPolicies_snd (request : Request) (policies : List Policy) :
    (explainPolicies request policies).2 = policies.find? (·.holds request) := by
  induction policies with
  | nil => rfl
  | cons policy rest ih =>
    by_cases h : policy.holds request = true
    · rw [explainPolicies, matched_ofPolicy, if_pos h, List.find?_cons, h]
    · rw [explainPolicies, matched_ofPolicy, if_neg h, List.find?_cons, Bool.eq_false_iff.mpr h,
        ← ih]

/-! ## Explanations -/

variable (engine : Engine) (request : Request)

theorem decision_explain : (engine.explain request).decision = engine.evaluate request := by
  rw [evaluate, ← explainPolicies_snd]
  rfl

theorem steps_explain :
    (engine.explain request).steps =
      (tried request engine.policies).map (Step.ofPolicy request) :=
  explainPolicies_fst request engine.policies

/-- An explanation never tells of a decision that the engine does not take. -/
theorem explain_faithful : (engine.explain request).Faithful engine request := by
  have hsteps := steps_explain engine request
  refine ⟨decision_explain engine request, ?length, ?tells, ?before_last, ?last⟩
  case length => rw [hsteps, List.length_map, tried, List.length_take]
  case tells =>
    intro i hi hp
    simp only [hsteps, List.getElem_map, tried, List.getElem_take]
    exact tells_ofPolicy request engine.policies[i]
  case before_last =>
    intro i hi
    simp only [hsteps, List.getElem_map, matched_ofPolicy]
    exact holds_tried (by rwa [hsteps, List.length_map] at hi)
  case last =>
    intro name
    rw [decision_explain, hsteps, List.getLast?_map]
    -- both sides speak of the last policy that is tried
    have hpolicy : (engine.evaluate request).policy =
        ((tried request engine.policies).getLast?.filter (·.holds request)).map Policy.name := by
      rw [getLast?_tried]
      rfl
    rw [hpolicy]
    rcases (tried request engine.policies).getLast? with _ | policy
    · simp -- there are no policies at all
    · by_cases h : policy.holds request = true
      · rw [Option.filter_some, if_pos h]
        simp [h]
      · rw [Option.filter_some, if_neg h]
        simp [h]

end AccessPolicy.Engine
