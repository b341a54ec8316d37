import AccessPolicy.Document.Basic
import AccessPolicy.Proofs.Document.Spec
import AccessPolicy.Proofs.Engine.WellFormed
import Mathlib.Data.List.Forall2

/-!
# What documents decide

Says directly which decision a document asks for: what each rule means, when a policy matches, and
which of the policies that match is named. The engine that a document compiles to takes just this
decision. The direct reading knows neither conditions nor an order in which anything is tried.

Main results:

* `PermissionRule.holds_compile`, `PrincipalRule.holds_compile` — the condition of a rule holds of
  the requests that meet the rule;
* `PolicyRules.holds_compile` — the policy of some rules matches the requests that meet the rules;
* `compile_decides` — the engine of a document takes the decision the document asks for.
-/

namespace AccessPolicy

/-! ## The direct reading -/

mutual

/-- Whether a request meets a permission rule. -/
def PermissionRule.Meets (request : Request) : PermissionRule → Prop
  | .any _ => True
  | .allOf rules => PermissionRule.AllMeet request rules
  | .anyOf rules => PermissionRule.SomeMeets request rules
  | .not rule => ¬ rule.Meets request
  | .header spec => spec.Meets request
  | .path spec => spec.Meets request.method
  | .destination spec => spec.Meets request.destination

def PermissionRule.AllMeet (request : Request) : List PermissionRule → Prop
  | [] => True
  | rule :: rest => rule.Meets request ∧ PermissionRule.AllMeet request rest

def PermissionRule.SomeMeets (request : Request) : List PermissionRule → Prop
  | [] => False
  | rule :: rest => rule.Meets request ∨ PermissionRule.SomeMeets request rest

end

mutual

/-- Whether a request meets a principal rule. -/
def PrincipalRule.Meets (request : Request) : PrincipalRule → Prop
  | .any _ => True
  | .allOf rules => PrincipalRule.AllMeet request rules
  | .anyOf rules => PrincipalRule.SomeMeets request rules
  | .not rule => ¬ rule.Meets request
  | .authenticated name =>
    ∃ principal, request.principal = some principal ∧
      ∀ spec, name = some spec → spec.Meets principal
  | .source spec => spec.Meets request.source
  | .header spec => spec.Meets request
  | .path spec => spec.Meets request.method

def PrincipalRule.AllMeet (request : Request) : List PrincipalRule → Prop
  | [] => True
  | rule :: rest => rule.Meets request ∧ PrincipalRule.AllMeet request rest

def PrincipalRule.SomeMeets (request : Request) : List PrincipalRule → Prop
  | [] => False
  | rule :: rest => rule.Meets request ∨ PrincipalRule.SomeMeets request rest

end

theorem PermissionRule.allMeet_iff (request : Request) (rules : List PermissionRule) :
    AllMeet request rules ↔ ∀ rule ∈ rules, rule.Meets request := by
  induction rules with
  | nil => simp [AllMeet]
  | cons rule rest ih => simp [AllMeet, ih]

theorem PermissionRule.someMeets_iff (request : Request) (rules : List PermissionRule) :
    SomeMeets request rules ↔ ∃ rule ∈ rules, rule.Meets request := by
  induction rules with
  | nil => simp [SomeMeets]
  | cons rule rest ih => simp [SomeMeets, ih]

theorem PrincipalRule.allMeet_iff (request : Request) (rules : List PrincipalRule) :
    AllMeet request rules ↔ ∀ rule ∈ rules, rule.Meets request := by
  induction rules with
  | nil => simp [AllMeet]
  | cons rule rest ih => simp [AllMeet, ih]

theorem PrincipalRule.someMeets_iff (request : Request) (rules : List PrincipalRule) :
    SomeMeets request rules ↔ ∃ rule ∈ rules, rule.Meets request := by
  induction rules with
  | nil => simp [SomeMeets]
  | cons rule rest ih => simp [SomeMeets, ih]

/-- A request meets the rules of a policy if it meets some permission rule and some principal rule.
-/
def PolicyRules.Meets (request : Request) (rules : PolicyRules) : Prop :=
  (∃ rule ∈ rules.permissions, rule.Meets request) ∧ ∃ rule ∈ rules.principals, rule.Meets request

/-- Whether the policy of a name matches a request. -/
def Document.Matches (document : Document) (request : Request) (name : String) : Prop :=
  ∃ rules, (name, rules) ∈ document.policies.entries ∧ rules.Meets request

/-- The decision that a document asks for. -/
structure Document.Decides (document : Document) (request : Request) (decision : Decision) :
    Prop where
  /-- The policy named is the first in the order of names that matches. -/
  named : ∀ name, decision.policy = some name → document.Matches request name ∧
    ∀ other, document.Matches request other → name ≤ other
  unnamed : decision.policy = none → ∀ name, ¬ document.Matches request name
  verdict : decision.verdict = .allow ↔
    (document.action = .deny ↔ ∀ name, ¬ document.Matches request name)

theorem Document.Decides.policy_eq {document : Document} {request : Request} {d d' : Decision}
    (h : document.Decides request d) (h' : document.Decides request d') : d.policy = d'.policy := by
  -- a name that only one of them gives matches for it and does not match for the other
  rcases hname : d.policy with _ | name <;> rcases hname' : d'.policy with _ | name'
  · rfl
  · exact absurd (h'.named name' hname').1 (h.unnamed hname name')
  · exact absurd (h.named name hname).1 (h'.unnamed hname' name)
  · obtain ⟨hmatches, hleast⟩ := h.named name hname
    obtain ⟨hmatches', hleast'⟩ := h'.named name' hname'
    rw [Std.le_antisymm (hleast name' hmatches') (hleast' name hmatches)]

/-- A document asks for one decision at most. -/
theorem Document.Decides.unique {document : Document} {request : Request} {d d' : Decision}
    (h : document.Decides request d) (h' : document.Decides request d') : d = d' := by
  have hpolicy := h.policy_eq h'
  have hallow : d.verdict = .allow ↔ d'.verdict = .allow := h.verdict.trans h'.verdict.symm
  obtain ⟨verdict, policy⟩ := d
  obtain ⟨verdict', policy'⟩ := d'
  obtain rfl : policy = policy' := hpolicy
  cases verdict <;> cases verdict' <;> simp_all

/-! ## Rules -/

variable (request : Request)

/-- Conditions that hold in turn where some rules are met. -/
abbrev HoldWhere {Rule : Type} (Meets : Rule → Prop) (rules : List Rule)
    (conditions : List Condition) : Prop :=
  List.Forall₂ (fun rule condition => condition.holds request = true ↔ Meets rule) rules conditions

variable {request}

theorem HoldWhere.all_iff {Rule : Type} {Meets : Rule → Prop} {rules : List Rule}
    {conditions : List Condition} (h : HoldWhere request Meets rules conditions) :
    conditions.all (·.holds request) = true ↔ ∀ rule ∈ rules, Meets rule := by
  induction h with
  | nil => simp
  | cons hhead _ ih => simp only [List.all_cons, Bool.and_eq_true, hhead, ih, List.forall_mem_cons]

theorem HoldWhere.any_iff {Rule : Type} {Meets : Rule → Prop} {rules : List Rule}
    {conditions : List Condition} (h : HoldWhere request Meets rules conditions) :
    conditions.any (·.holds request) = true ↔ ∃ rule ∈ rules, Meets rule := by
  induction h with
  | nil => simp
  | cons hhead _ ih =>
    simp only [List.any_cons, Bool.or_eq_true, hhead, ih, List.exists_mem_cons_iff]

theorem compileAny_eq_ok {flag : Bool} {what : String} {condition : Condition}
    (h : compileAny flag what = .ok condition) : condition = .always := by
  unfold compileAny at h
  split at h
  · exact (Except.ok.inj h).symm
  · simp at h

variable (request)

mutual

theorem PermissionRule.holds_compile {rule : PermissionRule} {condition : Condition}
    (h : rule.compile = .ok condition) : condition.holds request = true ↔ rule.Meets request := by
  match rule with
  | .any flag =>
    obtain rfl := compileAny_eq_ok h
    simp [Condition.holds, PermissionRule.Meets]
  | .allOf rules =>
    obtain ⟨conditions, hconditions, h⟩ := bind_eq_ok.mp h
    obtain rfl := Except.ok.inj h
    have hwhere := PermissionRule.holdWhere_compileAll hconditions
    rw [Condition.holds, Condition.allHold_eq_all, hwhere.all_iff, PermissionRule.Meets,
      PermissionRule.allMeet_iff]
  | .anyOf rules =>
    obtain ⟨conditions, hconditions, h⟩ := bind_eq_ok.mp h
    obtain rfl := Except.ok.inj h
    have hwhere := PermissionRule.holdWhere_compileAll hconditions
    rw [Condition.holds, Condition.someHolds_eq_any, hwhere.any_iff, PermissionRule.Meets,
      PermissionRule.someMeets_iff]
  | .not rule =>
    obtain ⟨inner, hinner, h⟩ := bind_eq_ok.mp h
    obtain rfl := Except.ok.inj h
    have hiff := PermissionRule.holds_compile hinner
    rw [Condition.holds, PermissionRule.Meets, ← hiff, Bool.not_eq_true', Bool.not_eq_true]
  | .header spec =>
    obtain ⟨matcher, hmatcher, h⟩ := bind_eq_ok.mp h
    obtain rfl := Except.ok.inj h
    exact HeaderSpec.accepts_compile hmatcher request
  | .path spec =>
    obtain ⟨matcher, hmatcher, h⟩ := bind_eq_ok.mp h
    obtain rfl := Except.ok.inj h
    exact TextSpec.accepts_compile hmatcher request.method
  | .destination spec =>
    obtain ⟨network, hnetwork, h⟩ := bind_eq_ok.mp h
    obtain rfl := Except.ok.inj h
    exact NetworkSpec.matchesText_compile hnetwork request.destination

theorem PermissionRule.holdWhere_compileAll {rules : List PermissionRule}
    {conditions : List Condition} (h : PermissionRule.compileAll rules = .ok conditions) :
    HoldWhere request (PermissionRule.Meets request) rules conditions := by
  match rules with
  | [] =>
    obtain rfl := Except.ok.inj h
    exact List.Forall₂.nil
  | rule :: rest =>
    obtain ⟨condition, hcondition, h⟩ := bind_eq_ok.mp h
    obtain ⟨conditions, hconditions, h⟩ := bind_eq_ok.mp h
    obtain rfl := Except.ok.inj h
    exact List.Forall₂.cons (PermissionRule.holds_compile hcondition)
      (PermissionRule.holdWhere_compileAll hconditions)

end

/-- Without a specification only the presence of the caller's name counts. -/
theorem holds_compileAuthenticated {name : Option TextSpec} {condition : Condition}
    (h : compileAuthenticated name = .ok condition) :
    condition.holds request = true ↔ ∃ principal, request.principal = some principal ∧
      ∀ spec, name = some spec → spec.Meets principal := by
  cases name with
  | none =>
    obtain rfl := Except.ok.inj h
    simp [Condition.holds, AttributeMatcher.accepts, AttributeMatcher.authenticated,
      Attribute.value?, ValueMatcher.accepts, Option.any_eq_true, TextMatcher.startingWith,
      TextMatcher.accepts, TextMatcher.foldIf]
  | some spec =>
    obtain ⟨matcher, hmatcher, h⟩ := bind_eq_ok.mp h
    obtain rfl := Except.ok.inj h
    simp [Condition.holds, AttributeMatcher.accepts, AttributeMatcher.authenticated,
      Attribute.value?, ValueMatcher.accepts, Option.any_eq_true,
      TextSpec.accepts_compile hmatcher]

mutual

theorem PrincipalRule.holds_compile {rule : PrincipalRule} {condition : Condition}
    (h : rule.compile = .ok condition) : condition.holds request = true ↔ rule.Meets request := by
  match rule with
  | .any flag =>
    obtain rfl := compileAny_eq_ok h
    simp [Condition.holds, PrincipalRule.Meets]
  | .allOf rules =>
    obtain ⟨conditions, hconditions, h⟩ := bind_eq_ok.mp h
    obtain rfl := Except.ok.inj h
    have hwhere := PrincipalRule.holdWhere_compileAll hconditions
    rw [Condition.holds, Condition.allHold_eq_all, hwhere.all_iff, PrincipalRule.Meets,
      PrincipalRule.allMeet_iff]
  | .anyOf rules =>
    obtain ⟨conditions, hconditions, h⟩ := bind_eq_ok.mp h
    obtain rfl := Except.ok.inj h
    have hwhere := PrincipalRule.holdWhere_compileAll hconditions
    rw [Condition.holds, Condition.someHolds_eq_any, hwhere.any_iff, PrincipalRule.Meets,
      PrincipalRule.someMeets_iff]
  | .not rule =>
    obtain ⟨inner, hinner, h⟩ := bind_eq_ok.mp h
    obtain rfl := Except.ok.inj h
    have hiff := PrincipalRule.holds_compile hinner
    rw [Condition.holds, PrincipalRule.Meets, ← hiff, Bool.not_eq_true', Bool.not_eq_true]
  | .authenticated name =>
    rw [holds_compileAuthenticated request h, PrincipalRule.Meets]
  | .source spec =>
    obtain ⟨network, hnetwork, h⟩ := bind_eq_ok.mp h
    obtain rfl := Except.ok.inj h
    exact NetworkSpec.matchesText_compile hnetwork request.source
  | .header spec =>
    obtain ⟨matcher, hmatcher, h⟩ := bind_eq_ok.mp h
    obtain rfl := Except.ok.inj h
    exact HeaderSpec.accepts_compile hmatcher request
  | .path spec =>
    obtain ⟨matcher, hmatcher, h⟩ := bind_eq_ok.mp h
    obtain rfl := Except.ok.inj h
    exact TextSpec.accepts_compile hmatcher request.method

theorem PrincipalRule.holdWhere_compileAll {rules : List PrincipalRule}
    {conditions : List Condition} (h : PrincipalRule.compileAll rules = .ok conditions) :
    HoldWhere request (PrincipalRule.Meets request) rules conditions := by
  match rules with
  | [] =>
    obtain rfl := Except.ok.inj h
    exact List.Forall₂.nil
  | rule :: rest =>
    obtain ⟨condition, hcondition, h⟩ := bind_eq_ok.mp h
    obtain ⟨conditions, hconditions, h⟩ := bind_eq_ok.mp h
    obtain rfl := Except.ok.inj h
    exact List.Forall₂.cons (PrincipalRule.holds_compile hcondition)
      (PrincipalRule.holdWhere_compileAll hconditions)

end

/-! ## Policies -/

theorem PolicyRules.holds_compile {rules : PolicyRules} {name : String} {policy : Policy}
    (h : rules.compile name = .ok policy) :
    policy.name = name ∧ (policy.holds request = true ↔ rules.Meets request) := by
  obtain ⟨permissions, hpermissions, h⟩ := bind_eq_ok.mp h
  obtain ⟨principals, hprincipals, h⟩ := bind_eq_ok.mp h
  obtain rfl := Except.ok.inj h
  refine ⟨rfl, ?_⟩
  -- a condition that is alone is taken as it is, which does not change what holds
  have hsome := PermissionRule.holdWhere_compileAll request hpermissions
  have hsome' := PrincipalRule.holdWhere_compileAll request hprincipals
  rw [Policy.holds, Policy.ofRules, Bool.and_eq_true, Condition.holds_joinAny,
    Condition.holds_joinAny, hsome.any_iff, hsome'.any_iff, Meets]

/-- A policy that stands for an entry of a document. -/
structure StandsFor (request : Request) (entry : String × PolicyRules) (policy : Policy) :
    Prop where
  name : policy.name = entry.1
  holds : policy.holds request = true ↔ entry.2.Meets request

theorem PolicyRules.standsFor_compileAll {entries : List (String × PolicyRules)}
    {policies : List Policy} (h : PolicyRules.compileAll entries = .ok policies) :
    List.Forall₂ (StandsFor request) entries policies := by
  induction entries generalizing policies with
  | nil =>
    obtain rfl := Except.ok.inj h
    exact .nil
  | cons entry rest ih =>
    obtain ⟨policy, hpolicy, h⟩ := bind_eq_ok.mp h
    obtain ⟨policies, hpolicies, h⟩ := bind_eq_ok.mp h
    obtain rfl := Except.ok.inj h
    obtain ⟨hname, hholds⟩ := PolicyRules.holds_compile request hpolicy
    exact .cons ⟨hname, hholds⟩ (ih hpolicies)

variable {request}

/-- Where no policy matches, no entry does. -/
theorem not_meets_of_find?_eq_none {entries : List (String × PolicyRules)} {policies : List Policy}
    (h : List.Forall₂ (StandsFor request) entries policies)
    (hnone : policies.find? (·.holds request) = none) :
    ∀ entry ∈ entries, ¬ entry.2.Meets request := by
  induction h with
  | nil => simp
  | cons hhead _ ih =>
    rw [List.find?_cons] at hnone
    split at hnone
    · simp at hnone
    · next hfalse =>
      rw [List.forall_mem_cons]
      exact ⟨fun hmeets => by simp [hhead.holds.mpr hmeets] at hfalse, ih hnone⟩

/-- The first policy that matches stands for the entry of the least name that does. -/
theorem least_of_find?_eq_some {entries : List (String × PolicyRules)} {policies : List Policy}
    (h : List.Forall₂ (StandsFor request) entries policies) (hascending : NameMap.Ascending entries)
    {policy : Policy} (hsome : policies.find? (·.holds request) = some policy) :
    (∃ entry ∈ entries, entry.1 = policy.name ∧ entry.2.Meets request) ∧
      ∀ entry ∈ entries, entry.2.Meets request → policy.name ≤ entry.1 := by
  induction h with
  | nil => simp at hsome
  | @cons head first rest policies hhead hrest ih =>
    obtain ⟨hfirst, hascending⟩ := List.pairwise_cons.mp hascending
    rw [List.find?_cons] at hsome
    split at hsome
    · -- the first policy matches, and every other name is larger
      next htrue =>
      obtain rfl := Option.some.inj hsome
      refine ⟨⟨head, List.mem_cons_self, hhead.name.symm, hhead.holds.mp htrue⟩, ?_⟩
      intro entry hentry _
      rw [hhead.name]
      rcases List.mem_cons.mp hentry with rfl | hentry
      · exact Std.le_refl _
      · exact Std.le_of_lt (hfirst entry hentry)
    · -- the first policy does not match, so its entry does not count
      next hfalse =>
      obtain ⟨⟨entry, hentry, hname, hmeets⟩, hleast⟩ := ih hascending hsome
      refine ⟨⟨entry, List.mem_cons_of_mem _ hentry, hname, hmeets⟩, ?_⟩
      rw [List.forall_mem_cons]
      exact ⟨fun hmeets => by simp [hhead.holds.mpr hmeets] at hfalse, hleast⟩

/-! ## Documents -/

/-- An engine allows what no policy matches if and only if its action is to deny. -/
theorem Engine.verdict_decide (engine : Engine) (first : Option Policy) :
    (engine.decide first).verdict = .allow ↔ (engine.action = .deny ↔ first = none) := by
  unfold Engine.decide
  cases engine.action <;> cases first <;> simp

/-- The engine of a document decides as the document asks for. -/
theorem Document.decides_evaluate {document : Document} {engine : Engine}
    (h : document.compile = .ok engine) (request : Request) :
    document.Decides request (engine.evaluate request) := by
  obtain ⟨policies, hpolicies, h⟩ := bind_eq_ok.mp h
  obtain ⟨haction, hsame⟩ := Engine.ofPolicies_eq_ok h
  have hstands := PolicyRules.standsFor_compileAll request hpolicies
  have hverdict := engine.verdict_decide (policies.find? (·.holds request))
  rw [haction] at hverdict
  rw [Engine.evaluate, hsame]
  rcases hfind : policies.find? (·.holds request) with _ | policy
  · -- no policy matches, so no entry of the document does
    rw [hfind] at hverdict ⊢
    have hnone : ∀ name, ¬ document.Matches request name := by
      rintro name ⟨rules, hentry, hmeets⟩
      exact not_meets_of_find?_eq_none hstands hfind _ hentry hmeets
    refine ⟨fun name hname => ?_, fun _ => hnone, ?_⟩
    · simp [Engine.decide] at hname
    · rw [hverdict]
      simp [hnone]
  · -- the first policy that matches has the least name of those that match
    rw [hfind] at hverdict ⊢
    obtain ⟨⟨⟨name, rules⟩, hentry, hname, hmeets⟩, hleast⟩ :=
      least_of_find?_eq_some hstands document.policies.ascending hfind
    obtain rfl : name = policy.name := hname
    have hmatches : document.Matches request policy.name := ⟨rules, hentry, hmeets⟩
    refine ⟨?named, fun hname => ?unnamed, ?verdict⟩
    case named =>
      intro name hname
      obtain rfl := Option.some.inj hname
      refine ⟨hmatches, ?_⟩
      rintro other ⟨rules, hother, hmeets⟩
      exact hleast _ hother hmeets
    case unnamed => simp [Engine.decide] at hname
    case verdict =>
      have hsome : ¬ ∀ name, ¬ document.Matches request name := fun h => h policy.name hmatches
      rw [hverdict]
      simp [hsome]

/-- A compiled document decides on every request just as the document asks for. -/
theorem Document.compile_decides {document : Document} {engine : Engine}
    (h : document.compile = .ok engine) (request : Request) (decision : Decision) :
    engine.evaluate request = decision ↔ document.Decides request decision := by
  have hdecides := document.decides_evaluate h request
  constructor
  · rintro rfl
    exact hdecides
  · intro hdecision
    exact hdecides.unique hdecision

/-- Both policies match, and the name that comes first decides although it was written last. -/
theorem Document.compile_decides_two :
    let document : Document := {
      action := .deny
      policies := .ofList
        [("b", ⟨[.any true], [.any true]⟩),
          ("a", ⟨[.anyOf [.path { startsWith := some "/admin" }]], [.not (.authenticated none)]⟩)] }
    let request : Request := ⟨"/admin/drop", none, fun _ => none, "10.0.0.1", "10.0.0.2"⟩
    (∃ engine, document.compile = .ok engine) ∧ document.Decides request ⟨.deny, some "a"⟩ := by
  intro document request
  let policies : List Policy :=
    [.ofRules "a" [.anyOf [.attr (.path (.startingWith "/admin" false))]]
        [.not (.attr (.authenticated (.startingWith "" false)))],
      .ofRules "b" [.always] [.always]]
  -- the map has put the names in order
  have hpolicies : PolicyRules.compileAll document.policies.entries = .ok policies := by rfl
  have hcheck : checkPolicies [] policies = .ok () := by
    simp [policies, checkPolicies, Policy.ofRules, Policy.check, Condition.joinAny, Condition.check,
      Condition.depth, Condition.deepestFrom, Condition.children, Condition.checkWidth,
      Condition.checkCompound, Condition.checkWidths, maxDepth, maxChildren]
    rfl
  have hcompile : document.compile = .ok ⟨.deny, policies, hcheck⟩ := by
    rw [Document.compile, hpolicies]
    exact Engine.ofPolicies_of_check .deny hcheck
  obtain ⟨policy, hfind, hname⟩ : ∃ policy, policies.find? (·.holds request) = some policy ∧
      policy.name = "a" := Option.map_eq_some_iff.mp (by decide +kernel)
  refine ⟨⟨_, hcompile⟩, (Document.compile_decides hcompile request _).mp ?_⟩
  rw [Engine.evaluate, hfind, Engine.decide]
  simp [hname]

end AccessPolicy
