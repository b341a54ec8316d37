import AccessPolicy.Engine
import AccessPolicy.Proofs.Condition.Limits
import Mathlib.Tactic.MkIffOfInductiveProp

/-!
# Which policies an engine can have

An engine is built by going through its policies once, with the names seen so far at hand. This
module says directly which lists of policies are well-formed and which error tells of one that is
not, and shows that the pass over the policies decides just this. So every engine has well-formed
policies.

Main results:

* `checkPolicies_cons_eq_ok`, `checkPolicies_cons_eq_error` — what one step of the pass decides;
* `checkPolicies_eq_ok_iff`, `checkPolicies_eq_error_iff` — what the whole pass decides;
* `ofPolicies_decides_wellFormed` — the outcome of building an engine.
-/

namespace AccessPolicy

/-! ## One policy -/

/-- A policy within the limits. -/
structure Policy.WithinLimits (policy : Policy) : Prop where
  permissions : policy.permissions.outline.WithinLimits
  principals : policy.principals.outline.WithinLimits

instance (policy : Policy) : Decidable policy.WithinLimits :=
  decidable_of_iff
    (policy.permissions.outline.WithinLimits ∧ policy.principals.outline.WithinLimits)
    ⟨fun h => ⟨h.1, h.2⟩, fun h => ⟨h.permissions, h.principals⟩⟩

/-- The error that tells how a policy is beyond the limits: the permissions count before the
principals. -/
inductive Policy.Fault (policy : Policy) (e : Error) : Prop where
  | permissions (fault : policy.permissions.outline.Fault e)
  | principals (permissions_ok : policy.permissions.outline.WithinLimits)
    (fault : policy.principals.outline.Fault e)

theorem Policy.check_eq_ok_iff (policy : Policy) :
    policy.check = .ok () ↔ policy.WithinLimits := by
  rw [check, check_bind_eq_ok, Condition.check_eq_ok_iff, Condition.check_eq_ok_iff]
  exact ⟨fun h => ⟨h.1, h.2⟩, fun h => ⟨h.permissions, h.principals⟩⟩

theorem Policy.check_eq_error_iff (policy : Policy) (e : Error) :
    policy.check = .error e ↔ policy.Fault e := by
  rw [check, check_bind_eq_error, Condition.check_eq_error_iff, Condition.check_eq_ok_iff,
    Condition.check_eq_error_iff]
  constructor
  · rintro (hfault | ⟨hok, hfault⟩)
    · exact .permissions hfault
    · exact .principals hok hfault
  · intro h
    cases h with
    | permissions hfault => exact .inl hfault
    | principals hok hfault => exact .inr ⟨hok, hfault⟩

namespace Engine

/-- The error that tells what is wrong with a policy, given the names that are taken: a repeated
name counts before the limits. -/
@[mk_iff]
inductive FaultAmong (taken : List String) (policy : Policy) (e : Error) : Prop where
  | repeated (mem : policy.name ∈ taken) (error_eq : e = .duplicatePolicy policy.name)
  | limits (fresh : policy.name ∉ taken) (fault : policy.Fault e)

/-! ## Lists of policies -/

/-- Policies that an engine can have: of different names, and all within the limits. -/
structure WellFormed (policies : List Policy) : Prop where
  names : (policies.map Policy.name).Nodup
  limits : ∀ policy ∈ policies, policy.WithinLimits

instance (policies : List Policy) : Decidable (WellFormed policies) :=
  decidable_of_iff
    ((policies.map Policy.name).Nodup ∧ ∀ policy ∈ policies, policy.WithinLimits)
    ⟨fun h => ⟨h.1, h.2⟩, fun h => ⟨h.names, h.limits⟩⟩

/-- The error of the first policy that is at fault. The policies before it are well-formed, and the
ones behind it do not count. -/
def FirstFault (policies : List Policy) (e : Error) : Prop :=
  ∃ before policy behind, policies = before ++ policy :: behind ∧ WellFormed before ∧
    FaultAmong (before.map Policy.name) policy e

theorem wellFormed_nil : WellFormed [] := ⟨List.nodup_nil, by simp⟩

theorem wellFormed_cons {policy : Policy} {rest : List Policy} :
    WellFormed (policy :: rest) ↔
      policy.WithinLimits ∧ (∀ other ∈ rest, other.name ≠ policy.name) ∧ WellFormed rest := by
  constructor
  · intro h
    -- no name of the rest is that of the first policy
    obtain ⟨hfresh, hnames⟩ := List.nodup_cons.mp h.names
    obtain ⟨hpolicy, hrest⟩ := List.forall_mem_cons.mp h.limits
    refine ⟨hpolicy, fun other hother heq => hfresh ?_, hnames, hrest⟩
    rw [← heq]
    exact List.mem_map_of_mem hother
  · rintro ⟨hpolicy, hfresh, hrest⟩
    refine ⟨List.nodup_cons.mpr ⟨fun hmem => ?_, hrest.names⟩,
      List.forall_mem_cons.mpr ⟨hpolicy, hrest.limits⟩⟩
    obtain ⟨other, hother, heq⟩ := List.mem_map.mp hmem
    exact hfresh other hother heq

/-- A place in a list is either its head or a place in its tail. -/
theorem exists_eq_append_cons {α : Type} {head : α} {tail : List α} {P : List α → α → Prop} :
    (∃ before a behind, head :: tail = before ++ a :: behind ∧ P before a) ↔
      P [] head ∨ ∃ before a behind, tail = before ++ a :: behind ∧ P (head :: before) a := by
  constructor
  · rintro ⟨before, a, behind, heq, h⟩
    cases before with
    | nil =>
      obtain ⟨rfl, rfl⟩ := List.cons.inj heq
      exact .inl h
    | cons first before =>
      obtain ⟨rfl, rfl⟩ := List.cons.inj heq
      exact .inr ⟨before, a, behind, rfl, h⟩
  · rintro (h | ⟨before, a, behind, rfl, h⟩)
    · exact ⟨[], head, tail, rfl, h⟩
    · exact ⟨head :: before, a, behind, rfl, h⟩

/-! ## One step of the pass -/

theorem checkPolicies_cons (seen : List String) (policy : Policy) (rest : List Policy) :
    checkPolicies seen (policy :: rest) =
      if policy.name ∈ seen then .error (.duplicatePolicy policy.name)
      else (do policy.check; checkPolicies (policy.name :: seen) rest) := by
  rw [checkPolicies]
  by_cases hseen : policy.name ∈ seen
  · rw [if_pos hseen, if_pos (List.contains_iff_mem.mpr hseen)]
    rfl
  · rw [if_neg hseen, if_neg (fun h => hseen (List.contains_iff_mem.mp h))]

theorem checkPolicies_cons_eq_ok {seen : List String} {policy : Policy} {rest : List Policy} :
    checkPolicies seen (policy :: rest) = .ok () ↔
      policy.name ∉ seen ∧ policy.WithinLimits ∧
        checkPolicies (policy.name :: seen) rest = .ok () := by
  rw [checkPolicies_cons]
  by_cases hseen : policy.name ∈ seen
  · simp [hseen] -- the step fails
  · simp [hseen, check_bind_eq_ok, Policy.check_eq_ok_iff]

/-- A step fails through its own policy, or the rest fails behind a policy without a fault. -/
theorem checkPolicies_cons_eq_error {seen : List String} {policy : Policy} {rest : List Policy}
    {e : Error} :
    checkPolicies seen (policy :: rest) = .error e ↔
      FaultAmong seen policy e ∨
        policy.name ∉ seen ∧ policy.WithinLimits ∧
          checkPolicies (policy.name :: seen) rest = .error e := by
  rw [checkPolicies_cons, faultAmong_iff]
  by_cases hseen : policy.name ∈ seen
  · simp [hseen, eq_comm] -- the limits are not even looked at
  · simp [hseen, check_bind_eq_error, Policy.check_eq_ok_iff, Policy.check_eq_error_iff]

/-! ## The whole pass -/

/-- The pass succeeds on well-formed policies of which no name has been seen. -/
theorem checkPolicies_eq_ok_iff {seen : List String} {policies : List Policy} :
    checkPolicies seen policies = .ok () ↔
      (∀ policy ∈ policies, policy.name ∉ seen) ∧ WellFormed policies := by
  induction policies generalizing seen with
  | nil => simp [checkPolicies, wellFormed_nil]
  | cons policy rest ih =>
    rw [checkPolicies_cons_eq_ok, ih, wellFormed_cons, List.forall_mem_cons]
    -- the rest has to avoid the names seen before and the name of the first policy
    constructor
    · rintro ⟨hfresh, hpolicy, hnames, hrest⟩
      refine ⟨⟨hfresh, fun other hother hmem => ?_⟩, hpolicy, fun other hother heq => ?_, hrest⟩
      · exact hnames other hother (List.mem_cons_of_mem _ hmem)
      · exact hnames other hother (heq ▸ List.mem_cons_self)
    · rintro ⟨⟨hfresh, hseen⟩, hpolicy, hdiffer, hrest⟩
      refine ⟨hfresh, hpolicy, fun other hother hmem => ?_, hrest⟩
      rcases List.mem_cons.mp hmem with heq | hmem
      · exact hdiffer other hother heq
      · exact hseen other hother hmem

/-- The pass stops at the first policy at fault, when it has seen the names of those before it. -/
theorem checkPolicies_eq_error_iff {seen : List String} {policies : List Policy} {e : Error} :
    checkPolicies seen policies = .error e ↔
      ∃ before policy behind, policies = before ++ policy :: behind ∧
        checkPolicies seen before = .ok () ∧
        FaultAmong ((before.map Policy.name).reverse ++ seen) policy e := by
  induction policies generalizing seen with
  | nil => simp [checkPolicies]
  | cons p rest ih =>
    rw [checkPolicies_cons_eq_error, ih, exists_eq_append_cons]
    simp only [checkPolicies_cons_eq_ok, List.map_cons, List.reverse_cons, List.append_assoc,
      List.singleton_append]
    refine or_congr (by simp [checkPolicies]) ?_
    -- the first policy is the same for every place behind it
    constructor
    · rintro ⟨hfresh, hp, before, policy, behind, rfl, hbefore, hfault⟩
      exact ⟨before, policy, behind, rfl, ⟨hfresh, hp, hbefore⟩, hfault⟩
    · rintro ⟨before, policy, behind, rfl, ⟨hfresh, hp, hbefore⟩, hfault⟩
      exact ⟨hfresh, hp, before, policy, behind, rfl, hbefore, hfault⟩

theorem checkPolicies_nil_eq_ok_iff {policies : List Policy} :
    checkPolicies [] policies = .ok () ↔ WellFormed policies := by
  rw [checkPolicies_eq_ok_iff]
  simp

theorem checkPolicies_nil_eq_error_iff {policies : List Policy} {e : Error} :
    checkPolicies [] policies = .error e ↔ FirstFault policies e := by
  -- the names seen are those of the policies before, in the opposite order
  rw [checkPolicies_eq_error_iff, FirstFault]
  simp only [checkPolicies_nil_eq_ok_iff, List.append_nil, faultAmong_iff, List.mem_reverse]

/-! ## Engines -/

/-- An engine has the policies it was built from. -/
theorem ofPolicies_eq_ok {action : Action} {policies : List Policy} {engine : Engine}
    (h : ofPolicies action policies = .ok engine) :
    engine.action = action ∧ engine.policies = policies := by
  unfold ofPolicies at h
  split at h
  · obtain rfl := Except.ok.inj h
    exact ⟨rfl, rfl⟩
  · simp at h

theorem ofPolicies_of_check {policies : List Policy} (action : Action)
    (h : checkPolicies [] policies = .ok ()) :
    ofPolicies action policies = .ok ⟨action, policies, h⟩ := by
  unfold ofPolicies
  split
  · rfl
  · next hcheck =>
    rw [h] at hcheck
    simp at hcheck

theorem ofPolicies_eq_error_iff {action : Action} {policies : List Policy} {e : Error} :
    ofPolicies action policies = .error e ↔ checkPolicies [] policies = .error e := by
  unfold ofPolicies
  split
  · next hcheck => simp [hcheck]
  · next hcheck => simp [hcheck]

/-- An engine can be built just from well-formed policies. -/
theorem exists_ofPolicies_iff (action : Action) {policies : List Policy} :
    (∃ engine, ofPolicies action policies = .ok engine) ↔ WellFormed policies := by
  rw [← checkPolicies_nil_eq_ok_iff]
  constructor
  · rintro ⟨engine, h⟩
    obtain ⟨-, rfl⟩ := ofPolicies_eq_ok h
    exact engine.policies_ok
  · intro h
    exact ⟨⟨action, policies, h⟩, ofPolicies_of_check action h⟩

/-- Building an engine succeeds on well-formed policies, which it keeps as they are, and otherwise
fails with the error of the first policy at fault; so all policies of engines are well-formed. -/
theorem ofPolicies_decides_wellFormed (action : Action) (policies : List Policy) :
    ((∃ engine, ofPolicies action policies = .ok engine) ↔ WellFormed policies) ∧
      (∀ engine, ofPolicies action policies = .ok engine ↔
        engine.action = action ∧ engine.policies = policies) ∧
      (∀ e, ofPolicies action policies = .error e ↔ FirstFault policies e) ∧
      ∀ engine : Engine, WellFormed engine.policies := by
  refine ⟨exists_ofPolicies_iff action, fun engine => ⟨ofPolicies_eq_ok, ?kept⟩, fun e => ?refused,
    fun engine => checkPolicies_nil_eq_ok_iff.mp engine.policies_ok⟩
  case kept =>
    rintro ⟨rfl, rfl⟩
    exact ofPolicies_of_check engine.action engine.policies_ok
  case refused => rw [ofPolicies_eq_error_iff, checkPolicies_nil_eq_error_iff]

end Engine

end AccessPolicy
