import AccessPolicy.Proofs.Engine.WellFormed

/-!
# Decisions under changes of the policies

The verdict of an engine depends on whether some policy matches, and not on which one does; only
the name in the decision depends on the order. From this follows what an operator can rely on when
the action of an engine is switched, or when its policies are reordered or extended.

Main results:

* `verdict_evaluate` — the verdict of an engine;
* `evaluate_laws` — how the decisions of engines with related actions and policies are related.
-/

namespace AccessPolicy

/-- The verdict on the requests that some policy matches. -/
def Action.verdict : Action → Verdict
  | .allow => .allow
  | .deny => .deny

def Action.opposite : Action → Action
  | .allow => .deny
  | .deny => .allow

def Verdict.opposite : Verdict → Verdict
  | .allow => .deny
  | .deny => .allow

@[simp]
theorem Action.verdict_opposite (action : Action) :
    action.opposite.verdict = action.verdict.opposite := by
  cases action <;> rfl

theorem Verdict.opposite_ne (verdict : Verdict) : verdict.opposite ≠ verdict := by
  cases verdict <;> simp [opposite]

namespace Engine

/-- Whether some policy of a list matches a request. -/
def matched (request : Request) (policies : List Policy) : Bool :=
  policies.any (·.holds request)

/-! ## One engine -/

/-- The verdict depends on no more than the action and whether some policy matches. -/
theorem verdict_evaluate (engine : Engine) (request : Request) :
    (engine.evaluate request).verdict =
      if matched request engine.policies then engine.action.verdict
      else engine.action.verdict.opposite := by
  have hsome : (engine.policies.find? (·.holds request)).isSome =
      matched request engine.policies := List.isSome_find?
  -- what is left are four cases, of two actions with a match or without one
  rw [← hsome, evaluate, decide]
  cases engine.action <;> cases engine.policies.find? (·.holds request) <;> rfl

theorem policy_evaluate (engine : Engine) (request : Request) :
    (engine.evaluate request).policy =
      (engine.policies.find? (·.holds request)).map Policy.name := rfl

/-- An engine gives the verdict of its action just on the requests that some policy matches. -/
theorem verdict_evaluate_eq_iff (engine : Engine) (request : Request) :
    (engine.evaluate request).verdict = engine.action.verdict ↔
      matched request engine.policies = true := by
  rw [verdict_evaluate]
  split
  · next h => simp [h]
  · next h => simp [h, Verdict.opposite_ne]

/-! ## Lists of policies -/

variable {request : Request} {policies : List Policy}

theorem matched_of_sublist {longer : List Policy} (h : policies.Sublist longer)
    (hmatched : matched request policies = true) : matched request longer = true := by
  obtain ⟨policy, hpolicy, hholds⟩ := List.any_eq_true.mp hmatched
  exact List.any_eq_true.mpr ⟨policy, h.mem hpolicy, hholds⟩

/-- Behind a match nothing counts. -/
theorem find?_append_of_matched (h : matched request policies = true) (more : List Policy) :
    (policies ++ more).find? (·.holds request) = policies.find? (·.holds request) := by
  obtain ⟨policy, hpolicy, hholds⟩ := List.any_eq_true.mp h
  rw [List.find?_append]
  cases hfind : policies.find? (·.holds request) with
  | none => exact absurd hholds (List.find?_eq_none.mp hfind policy hpolicy)
  | some first => rfl

/-- Policies stay well-formed in any order. -/
theorem WellFormed.of_perm {permuted : List Policy} (h : WellFormed policies)
    (hperm : permuted.Perm policies) : WellFormed permuted where
  names := (hperm.map Policy.name).nodup_iff.mpr h.names
  limits := fun policy hpolicy => h.limits policy (hperm.mem_iff.mp hpolicy)

/-! ## Two engines -/

/-- How a decision on a request, taken by an engine of an action and some policies, is related to
the decisions of other engines. -/
structure Laws (action : Action) (policies : List Policy) (request : Request)
    (decision : Decision) : Prop where
  /-- The opposite action leads to the opposite verdict, and names the same policy. -/
  opposite : ∃ other, ofPolicies action.opposite policies = .ok other ∧
    (other.evaluate request).verdict = decision.verdict.opposite ∧
    (other.evaluate request).policy = decision.policy
  /-- In any order the policies lead to the same verdict. -/
  reorder : ∀ permuted, permuted.Perm policies →
    ∃ other, ofPolicies action permuted = .ok other ∧
      (other.evaluate request).verdict = decision.verdict
  /-- Policies put in anywhere take nothing back: what an action to allow allows, it still allows,
  and what an action to deny denies, it still denies. -/
  insert : ∀ longer other, policies.Sublist longer → ofPolicies action longer = .ok other →
    decision.verdict = action.verdict → (other.evaluate request).verdict = action.verdict
  /-- Policies put behind a match change nothing. -/
  append : ∀ more other, ofPolicies action (policies ++ more) = .ok other →
    matched request policies = true → other.evaluate request = decision

/-- All engines keep to the laws. -/
theorem evaluate_laws {action : Action} {policies : List Policy} {engine : Engine}
    (h : ofPolicies action policies = .ok engine) (request : Request) :
    Laws action policies request (engine.evaluate request) := by
  -- the limits do not depend on the action nor on the order, so the other engines exist
  have hwell : WellFormed policies := (exists_ofPolicies_iff action).mp ⟨engine, h⟩
  obtain ⟨rfl, rfl⟩ := ofPolicies_eq_ok h
  refine ⟨?opposite, ?reorder, ?insert, ?append⟩
  case opposite =>
    obtain ⟨other, hother⟩ := (exists_ofPolicies_iff engine.action.opposite).mpr hwell
    obtain ⟨haction, hpolicies⟩ := ofPolicies_eq_ok hother
    refine ⟨other, hother, ?_, ?_⟩
    · -- both verdicts turn on the same match
      rw [verdict_evaluate, verdict_evaluate, haction, hpolicies, Action.verdict_opposite,
        apply_ite Verdict.opposite]
    · rw [policy_evaluate, policy_evaluate, hpolicies]
  case reorder =>
    intro permuted hperm
    obtain ⟨other, hother⟩ := (exists_ofPolicies_iff engine.action).mpr (hwell.of_perm hperm)
    obtain ⟨haction, rfl⟩ := ofPolicies_eq_ok hother
    refine ⟨other, hother, ?_⟩
    rw [verdict_evaluate, verdict_evaluate, haction, matched, matched, hperm.any_eq]
  case insert =>
    intro longer other hsub hother hverdict
    obtain ⟨haction, rfl⟩ := ofPolicies_eq_ok hother
    rw [verdict_evaluate_eq_iff] at hverdict
    rw [← haction, verdict_evaluate_eq_iff]
    exact matched_of_sublist hsub hverdict
  case append =>
    -- here the name has to stay as well, so it is the first match that counts
    intro more other hother hmatched
    obtain ⟨haction, hpolicies⟩ := ofPolicies_eq_ok hother
    rw [evaluate, evaluate, hpolicies, find?_append_of_matched hmatched, decide, decide, haction]

/-- Two policies match, and whichever stands first is named; the verdict is the same. -/
theorem evaluate_laws_pair :
    let admin : Policy := ⟨"admin", .attr (.path (.startingWith "/admin" false)), .always⟩
    let known : Policy := ⟨"known", .always, .attr (.authenticated (.startingWith "" false))⟩
    let request : Request :=
      ⟨"/admin/drop", some "alice", fun _ => none, "10.0.0.1", "10.0.0.2"⟩
    ∃ engine, ofPolicies .deny [admin, known] = .ok engine ∧
      engine.evaluate request = ⟨.deny, some "admin"⟩ ∧
      Laws .deny [admin, known] request ⟨.deny, some "admin"⟩ := by
  intro admin known request
  have hwell : WellFormed [admin, known] := by decide +kernel
  obtain ⟨engine, hengine⟩ := (exists_ofPolicies_iff .deny).mpr hwell
  have hdecision : engine.evaluate request = ⟨.deny, some "admin"⟩ := by
    obtain ⟨haction, hpolicies⟩ := ofPolicies_eq_ok hengine
    have hparts : engine.evaluate request =
        ⟨(engine.evaluate request).verdict, (engine.evaluate request).policy⟩ := rfl
    rw [hparts, verdict_evaluate, policy_evaluate, haction, hpolicies]
    decide +kernel
  refine ⟨engine, hengine, hdecision, ?_⟩
  rw [← hdecision]
  exact evaluate_laws hengine request

end Engine

end AccessPolicy
