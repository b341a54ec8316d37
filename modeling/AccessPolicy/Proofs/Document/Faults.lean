import AccessPolicy.Proofs.Document.Choice
import AccessPolicy.Proofs.Document.Limits
import AccessPolicy.Proofs.Document.Order

/-!
# The error that a document is refused with

A document may have many faults, and is refused with one. This module lists them all, in two groups:
the faults of its rules, which keep a rule from being compiled, and the faults of its limits, which
are those of conditions that nest too deep or are too wide. Each group is told policy by policy in
the order of names, permissions before principals. A document is refused with the first fault of its
rules, and with the first fault of its limits only if no rule of any policy is at fault.

Main results:

* `reports_compile`, `reports_compileAll` — rules are refused with their first fault;
* `Condition.reports_check` — a condition is refused with the first fault of its outline;
* `Engine.reports_checkPolicies` — policies of different names are refused for their limits alone;
* `Document.ofRule_of_mem_ruleFaults` — a fault of a rule is never about limits or names;
* `Document.compile_reports_first` — what a document is refused with.
-/

namespace AccessPolicy

/-! ## The faults of rules -/

/-- The fault of a rule that matches everything: it must not be switched off. -/
def anyFaults (flag : Bool) (what : String) : List Error :=
  if flag then [] else [.invalidConfig (what ++ " \x60any\x60 must be true when set")]

mutual

/-- The faults of a permission rule, from left to right. -/
def PermissionRule.faults : PermissionRule → List Error
  | .any flag => anyFaults flag "permission"
  | .allOf rules => PermissionRule.allFaults rules
  | .anyOf rules => PermissionRule.allFaults rules
  | .not rule => rule.faults
  | .header spec => faultsOf spec.compile
  | .path spec => faultsOf spec.compile
  | .destination spec => faultsOf spec.compile

def PermissionRule.allFaults : List PermissionRule → List Error
  | [] => []
  | rule :: rest => rule.faults ++ PermissionRule.allFaults rest

end

mutual

/-- The faults of a principal rule, from left to right. -/
def PrincipalRule.faults : PrincipalRule → List Error
  | .any flag => anyFaults flag "principal"
  | .allOf rules => PrincipalRule.allFaults rules
  | .anyOf rules => PrincipalRule.allFaults rules
  | .not rule => rule.faults
  | .authenticated none => []
  | .authenticated (some spec) => faultsOf spec.compile
  | .source spec => faultsOf spec.compile
  | .header spec => faultsOf spec.compile
  | .path spec => faultsOf spec.compile

def PrincipalRule.allFaults : List PrincipalRule → List Error
  | [] => []
  | rule :: rest => rule.faults ++ PrincipalRule.allFaults rest

end

/-- The faults of the rules of a policy. -/
def PolicyRules.ruleFaults (rules : PolicyRules) : List Error :=
  PermissionRule.allFaults rules.permissions ++ PrincipalRule.allFaults rules.principals

/-- The faults of all rules of a document, policy by policy in the order of their names. -/
def Document.ruleFaults (document : Document) : List Error :=
  document.policies.entries.flatMap (·.2.ruleFaults)

/-! ## The faults of limits -/

/-- How an outline is beyond the limits: that it is too deep, and which of its compounds are too wide,
from the outside in and from left to right. -/
def Outline.faults (o : Outline) : List Error :=
  (if maxDepth < o.height then [.depthExceeded o.height maxDepth] else []) ++
    (o.widths.filter (maxChildren < ·)).map (.tooManyChildren · maxChildren)

/-- The outline of a list of rules: a rule that stands alone is taken as it is. -/
def Outline.joined : List Outline → Outline
  | [o] => o
  | os => .compound os

/-- How the rules of a policy are beyond the limits. -/
def PolicyRules.limitFaults (rules : PolicyRules) : List Error :=
  (Outline.joined (PermissionRule.outlines rules.permissions)).faults ++
    (Outline.joined (PrincipalRule.outlines rules.principals)).faults

/-- How a document is beyond the limits, policy by policy in the order of their names. -/
def Document.limitFaults (document : Document) : List Error :=
  document.policies.entries.flatMap (·.2.limitFaults)

/-! ## Rules are refused with their first fault -/

theorem reports_compileAny (flag : Bool) (what : String) :
    Reports (compileAny flag what) (anyFaults flag what) := by
  cases flag with
  | false => exact reports_faultsOf (.error _)
  | true => exact reports_ok _

mutual

theorem PermissionRule.reports_compile (rule : PermissionRule) :
    Reports rule.compile rule.faults := by
  match rule with
  | .any flag =>
    rw [compile, faults]
    exact reports_compileAny flag "permission"
  | .allOf rules | .anyOf rules =>
    rw [compile, faults]
    exact (PermissionRule.reports_compileAll rules).bind_pure
  | .not inner =>
    rw [compile, faults]
    exact (PermissionRule.reports_compile inner).bind_pure
  | .header spec | .path spec | .destination spec =>
    -- a leaf has the fault of its specification
    rw [compile, faults]
    exact (reports_faultsOf spec.compile).bind_pure

theorem PermissionRule.reports_compileAll (rules : List PermissionRule) :
    Reports (compileAll rules) (allFaults rules) := by
  match rules with
  | [] =>
    rw [compileAll, allFaults]
    exact reports_ok []
  | rule :: rest =>
    rw [compileAll, allFaults]
    refine (PermissionRule.reports_compile rule).bind fun condition _ => ?_
    exact (PermissionRule.reports_compileAll rest).bind_pure

end

theorem reports_compileAuthenticated (name : Option TextSpec) :
    Reports (compileAuthenticated name) (PrincipalRule.authenticated name).faults := by
  cases name with
  | none =>
    rw [PrincipalRule.faults]
    exact reports_ok _
  | some spec =>
    rw [PrincipalRule.faults]
    exact (reports_faultsOf spec.compile).bind_pure

mutual

theorem PrincipalRule.reports_compile (rule : PrincipalRule) :
    Reports rule.compile rule.faults := by
  match rule with
  | .any flag =>
    rw [compile, faults]
    exact reports_compileAny flag "principal"
  | .allOf rules | .anyOf rules =>
    rw [compile, faults]
    exact (PrincipalRule.reports_compileAll rules).bind_pure
  | .not inner =>
    rw [compile, faults]
    exact (PrincipalRule.reports_compile inner).bind_pure
  | .authenticated name =>
    rw [compile]
    exact reports_compileAuthenticated name
  | .source spec | .header spec | .path spec =>
    rw [compile, faults]
    exact (reports_faultsOf spec.compile).bind_pure

theorem PrincipalRule.reports_compileAll (rules : List PrincipalRule) :
    Reports (compileAll rules) (allFaults rules) := by
  match rules with
  | [] =>
    rw [compileAll, allFaults]
    exact reports_ok []
  | rule :: rest =>
    rw [compileAll, allFaults]
    refine (PrincipalRule.reports_compile rule).bind fun condition _ => ?_
    exact (PrincipalRule.reports_compileAll rest).bind_pure

end

theorem PolicyRules.reports_compile (rules : PolicyRules) (name : String) :
    Reports (rules.compile name) rules.ruleFaults := by
  rw [compile, ruleFaults]
  -- principals are looked at only if all permissions can be compiled
  refine (PermissionRule.reports_compileAll rules.permissions).bind fun permissions _ => ?_
  exact (PrincipalRule.reports_compileAll rules.principals).bind_pure

theorem PolicyRules.reports_compileAll (entries : List (String × PolicyRules)) :
    Reports (compileAll entries) (entries.flatMap (·.2.ruleFaults)) := by
  induction entries with
  | nil => exact reports_ok []
  | cons entry rest ih =>
    rw [compileAll, List.flatMap_cons]
    have hpolicy : Reports (entry.2.compile entry.1) entry.2.ruleFaults :=
      reports_compile entry.2 entry.1
    exact hpolicy.bind fun policy _ => ih.bind_pure

/-! ## Conditions are refused with the first fault of their limits -/

theorem Condition.reports_refuseWidths (widths : List Nat) :
    Reports (refuseWidths widths)
      ((widths.filter (maxChildren < ·)).map (.tooManyChildren · maxChildren)) := by
  intro e
  rw [refuseWidths, List.head?_map, List.head?_filter]
  cases widths.find? (maxChildren < ·) with
  | none => simp
  | some width => simp

theorem Condition.reports_check (c : Condition) : Reports c.check c.outline.faults := by
  rw [check, depth_eq_height, Outline.faults]
  by_cases hdeep : maxDepth < c.outline.height
  · -- depth comes first, so the widths do not count here
    rw [if_pos hdeep, if_pos hdeep]
    intro e
    simp
  · rw [if_neg hdeep, if_neg hdeep, checkWidth_eq]
    exact reports_refuseWidths c.outline.widths

/-- How a policy is beyond the limits. -/
def Policy.limitFaults (policy : Policy) : List Error :=
  policy.permissions.outline.faults ++ policy.principals.outline.faults

theorem Policy.reports_check (policy : Policy) : Reports policy.check policy.limitFaults := by
  rw [check, limitFaults]
  exact policy.permissions.reports_check.bind fun _ _ => policy.principals.reports_check

/-- Policies of different names are refused for their limits alone. -/
theorem Engine.reports_checkPolicies {seen : List String} {policies : List Policy}
    (hnames : (policies.map Policy.name).Nodup) (hfresh : ∀ policy ∈ policies, policy.name ∉ seen) :
    Reports (checkPolicies seen policies) (policies.flatMap Policy.limitFaults) := by
  induction policies generalizing seen with
  | nil => exact reports_ok ()
  | cons policy rest ih =>
    obtain ⟨hname, hrest⟩ := List.nodup_cons.mp hnames
    obtain ⟨hpolicy, hbehind⟩ := List.forall_mem_cons.mp hfresh
    rw [checkPolicies_cons, if_neg hpolicy, List.flatMap_cons]
    refine policy.reports_check.bind fun _ _ => ih hrest fun other hother hmem => ?_
    -- the name that has just been seen is not repeated either
    rcases List.mem_cons.mp hmem with heq | hmem
    · exact hname (heq ▸ List.mem_map_of_mem hother)
    · exact hbehind other hother hmem

theorem Engine.reports_ofPolicies (action : Action) {policies : List Policy}
    (hnames : (policies.map Policy.name).Nodup) :
    Reports (ofPolicies action policies) (policies.flatMap Policy.limitFaults) := by
  intro e
  rw [ofPolicies_eq_error_iff]
  exact reports_checkPolicies hnames (by simp) e

/-! ## What rules can be refused for -/

/-- An error that is found in a rule, not in how rules nest or in how policies are named. -/
def Error.OfRule : Error → Prop
  | .depthExceeded .. | .tooManyChildren .. | .duplicatePolicy .. => False
  | _ => True

/-- An error that tells of a limit on how rules nest. -/
def Error.OfLimits : Error → Prop
  | .depthExceeded .. | .tooManyChildren .. => True
  | _ => False

theorem Error.OfRule.not_ofLimits {e : Error} (h : e.OfRule) : ¬ e.OfLimits := by
  cases e with
  | depthExceeded | tooManyChildren => exact h.elim
  | _ => exact id

theorem Error.OfSpec.ofRule {e : Error} (h : e.OfSpec) : e.OfRule := by
  cases e with
  | depthExceeded | tooManyChildren | duplicatePolicy => exact h.elim
  | _ => trivial

theorem TextSpec.failsWith_compile (spec : TextSpec) : FailsWith Error.OfRule spec.compile :=
  spec.ofSpec_compile.mono fun _ => Error.OfSpec.ofRule

theorem HeaderSpec.failsWith_compile (spec : HeaderSpec) : FailsWith Error.OfRule spec.compile :=
  spec.ofSpec_compile.mono fun _ => Error.OfSpec.ofRule

theorem NetworkSpec.failsWith_compile (spec : NetworkSpec) :
    FailsWith Error.OfRule spec.compile := by
  unfold compile Network.ofText
  split
  · exact failsWith_error trivial
  split
  · exact failsWith_ok _
  · exact failsWith_error trivial

theorem ofRule_of_mem_anyFaults {flag : Bool} {what : String} :
    ∀ e ∈ anyFaults flag what, e.OfRule := by
  cases flag <;> simp [anyFaults, Error.OfRule]

mutual

theorem PermissionRule.ofRule_of_mem_faults (rule : PermissionRule) :
    ∀ e ∈ rule.faults, e.OfRule := by
  match rule with
  | .any flag =>
    rw [faults]
    exact ofRule_of_mem_anyFaults
  | .allOf rules | .anyOf rules =>
    rw [faults]
    exact PermissionRule.ofRule_of_mem_allFaults rules
  | .not inner =>
    rw [faults]
    exact PermissionRule.ofRule_of_mem_faults inner
  | .header spec | .path spec | .destination spec =>
    rw [faults]
    exact spec.failsWith_compile.of_mem

theorem PermissionRule.ofRule_of_mem_allFaults (rules : List PermissionRule) :
    ∀ e ∈ allFaults rules, e.OfRule := by
  match rules with
  | [] =>
    rw [allFaults]
    simp
  | rule :: rest =>
    rw [allFaults, List.forall_mem_append]
    exact ⟨PermissionRule.ofRule_of_mem_faults rule, PermissionRule.ofRule_of_mem_allFaults rest⟩

end

mutual

theorem PrincipalRule.ofRule_of_mem_faults (rule : PrincipalRule) :
    ∀ e ∈ rule.faults, e.OfRule := by
  match rule with
  | .any flag =>
    rw [faults]
    exact ofRule_of_mem_anyFaults
  | .allOf rules | .anyOf rules =>
    rw [faults]
    exact PrincipalRule.ofRule_of_mem_allFaults rules
  | .not inner =>
    rw [faults]
    exact PrincipalRule.ofRule_of_mem_faults inner
  | .authenticated none =>
    rw [faults]
    simp
  | .authenticated (some spec) | .source spec | .header spec | .path spec =>
    rw [faults]
    exact spec.failsWith_compile.of_mem

theorem PrincipalRule.ofRule_of_mem_allFaults (rules : List PrincipalRule) :
    ∀ e ∈ allFaults rules, e.OfRule := by
  match rules with
  | [] =>
    rw [allFaults]
    simp
  | rule :: rest =>
    rw [allFaults, List.forall_mem_append]
    exact ⟨PrincipalRule.ofRule_of_mem_faults rule, PrincipalRule.ofRule_of_mem_allFaults rest⟩

end

theorem Document.ofRule_of_mem_ruleFaults {document : Document} {e : Error}
    (h : e ∈ document.ruleFaults) : e.OfRule := by
  obtain ⟨entry, -, h⟩ := List.mem_flatMap.mp h
  rcases List.mem_append.mp h with h | h
  · exact PermissionRule.ofRule_of_mem_allFaults _ e h
  · exact PrincipalRule.ofRule_of_mem_allFaults _ e h

/-! ## The limits of rules and of their policies -/

theorem outline_joinAny (cs : List Condition) :
    (Condition.joinAny cs).outline = Outline.joined (Condition.outlines cs) := by
  match cs with
  | [] => rfl
  | [_] => rfl
  | _ :: _ :: _ => rfl

theorem PolicyRules.limitFaults_compile {rules : PolicyRules} {name : String} {policy : Policy}
    (h : rules.compile name = .ok policy) : policy.limitFaults = rules.limitFaults := by
  obtain ⟨permissions, hpermissions, h⟩ := bind_eq_ok.mp h
  obtain ⟨principals, hprincipals, h⟩ := bind_eq_ok.mp h
  obtain rfl := Except.ok.inj h
  rw [Policy.limitFaults, Policy.ofRules, outline_joinAny, outline_joinAny, limitFaults,
    PermissionRule.outlines_compileAll hpermissions, PrincipalRule.outlines_compileAll hprincipals]

theorem PolicyRules.limitFaults_compileAll {entries : List (String × PolicyRules)}
    {policies : List Policy} (h : compileAll entries = .ok policies) :
    policies.flatMap Policy.limitFaults = entries.flatMap (·.2.limitFaults) := by
  induction entries generalizing policies with
  | nil =>
    obtain rfl := Except.ok.inj h
    rfl
  | cons entry rest ih =>
    obtain ⟨policy, hpolicy, h⟩ := bind_eq_ok.mp h
    obtain ⟨policies, hpolicies, h⟩ := bind_eq_ok.mp h
    obtain rfl := Except.ok.inj h
    rw [List.flatMap_cons, List.flatMap_cons, limitFaults_compile hpolicy, ih hpolicies]

/-- Compiling a document reports the faults of all its rules before those of its limits. -/
theorem Document.reports_compile (document : Document) :
    Reports document.compile (document.ruleFaults ++ document.limitFaults) := by
  rw [compile, ruleFaults, limitFaults]
  -- the engine is built only if all rules of all policies can be compiled
  refine (PolicyRules.reports_compileAll document.policies.entries).bind fun policies hpolicies => ?_
  have hnames : (policies.map Policy.name).Nodup := by
    -- the names come from a map, so none is repeated
    rw [(PolicyRules.withinLimits_compileAll hpolicies).1]
    exact document.policies.nodup_names
  rw [← PolicyRules.limitFaults_compileAll hpolicies]
  exact Engine.reports_ofPolicies document.action hnames

theorem Outline.ofLimits_of_mem_faults {o : Outline} {e : Error} (h : e ∈ o.faults) :
    e.OfLimits := by
  rcases List.mem_append.mp h with h | h
  · split at h
    · obtain rfl := List.mem_singleton.mp h
      trivial
    · cases h
  · obtain ⟨width, -, rfl⟩ := List.mem_map.mp h
    trivial

theorem Document.ofLimits_of_mem_limitFaults {document : Document} {e : Error}
    (h : e ∈ document.limitFaults) : e.OfLimits := by
  obtain ⟨entry, -, h⟩ := List.mem_flatMap.mp h
  rcases List.mem_append.mp h with h | h
  · exact Outline.ofLimits_of_mem_faults h
  · exact Outline.ofLimits_of_mem_faults h

/-! ## Documents -/

theorem Document.compile_eq_error_iff (document : Document) (e : Error) :
    document.compile = .error e ↔
      document.ruleFaults.head? = some e ∨
      document.ruleFaults = [] ∧ document.limitFaults.head? = some e := by
  rw [document.reports_compile e, List.head?_append, Option.or_eq_some_iff, List.head?_eq_none_iff]

/-- A document is refused with the first fault of its rules, and if they have none with the first
fault of its limits; it is an error about limits just in the latter case, so no fault of a rule is
hidden by a limit. A document without faults is compiled, and one with faults is not. Policies come
in the order of their names, and no error says that a name is repeated. -/
theorem Document.compile_reports_first (document : Document) :
    (∀ e, document.compile = .error e ↔
      document.ruleFaults.head? = some e ∨
      document.ruleFaults = [] ∧ document.limitFaults.head? = some e) ∧
    (∀ e, document.compile = .error e → (e.OfLimits ↔ document.ruleFaults = [])) ∧
    (∀ name, document.compile ≠ .error (.duplicatePolicy name)) ∧
    ((∃ engine, document.compile = .ok engine) ↔
      document.ruleFaults = [] ∧ document.limitFaults = []) ∧
    document.policies.entries.Pairwise (fun a b => CodePointsBefore a.1 b.1) := by
  refine ⟨document.compile_eq_error_iff, ?_, ?_, ?_, ?_⟩
  · intro e h
    rcases (document.compile_eq_error_iff e).mp h with hrule | ⟨hnone, hlimit⟩
    · -- a fault of a rule, and it is not about limits
      have hmem : e ∈ document.ruleFaults := List.mem_of_mem_head? hrule
      exact iff_of_false (ofRule_of_mem_ruleFaults hmem).not_ofLimits (List.ne_nil_of_mem hmem)
    · have hmem : e ∈ document.limitFaults := List.mem_of_mem_head? hlimit
      exact iff_of_true (ofLimits_of_mem_limitFaults hmem) hnone
  · intro name h
    -- such an error is neither about a rule nor about limits
    rcases List.mem_append.mp (document.reports_compile.mem h) with hmem | hmem
    · exact ofRule_of_mem_ruleFaults hmem
    · exact ofLimits_of_mem_limitFaults hmem
  · rw [document.reports_compile.exists_ok_iff, List.append_eq_nil_iff]
  · exact document.policies.ascending.imp codePointsBefore_iff_lt.mpr

/-- The first policy nests too deep, but a rule of the second one is told of. -/
example :
    let deep : PolicyRules := ⟨[Nat.repeat .not 32 (.any true)], []⟩
    let off : PolicyRules := ⟨[], [.any false]⟩
    Document.compile ⟨.allow, .ofList [("a", deep), ("b", off)]⟩ =
      .error (.invalidConfig "principal \x60any\x60 must be true when set") := by
  rfl

end AccessPolicy
