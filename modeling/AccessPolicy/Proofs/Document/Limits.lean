import AccessPolicy.Document.Basic
import AccessPolicy.Proofs.Document.NameMap
import AccessPolicy.Proofs.Engine.WellFormed

/-!
# Which documents compile

A document compiles if every part of its rules can be compiled on its own and if the rules of each
policy are within the limits. The limits are stated here for the rules as they are written. A list
of several rules costs one level of depth, since it turns into a compound; a rule that stands alone
is taken as it is.

Main results:

* `exists_compile_iff` — which rules can be compiled;
* `outline_compile` — a condition has the outline of its rule;
* `withinLimits_joinAny_iff` — what the limits ask of a list of rules;
* `compile_succeeds_iff` — which documents compile.
-/

namespace AccessPolicy

/-! ## Rules as they are written -/

mutual

/-- Whether every part of a permission rule can be compiled. -/
def PermissionRule.Valid : PermissionRule → Prop
  | .any flag => flag = true
  | .allOf rules => PermissionRule.AllValid rules
  | .anyOf rules => PermissionRule.AllValid rules
  | .not rule => rule.Valid
  | .header spec => ∃ matcher, spec.compile = .ok matcher
  | .path spec => ∃ matcher, spec.compile = .ok matcher
  | .destination spec => ∃ network, spec.compile = .ok network

def PermissionRule.AllValid : List PermissionRule → Prop
  | [] => True
  | rule :: rest => rule.Valid ∧ PermissionRule.AllValid rest

end

mutual

/-- Whether every part of a principal rule can be compiled. -/
def PrincipalRule.Valid : PrincipalRule → Prop
  | .any flag => flag = true
  | .allOf rules => PrincipalRule.AllValid rules
  | .anyOf rules => PrincipalRule.AllValid rules
  | .not rule => rule.Valid
  | .authenticated none => True
  | .authenticated (some spec) => ∃ matcher, spec.compile = .ok matcher
  | .source spec => ∃ network, spec.compile = .ok network
  | .header spec => ∃ matcher, spec.compile = .ok matcher
  | .path spec => ∃ matcher, spec.compile = .ok matcher

def PrincipalRule.AllValid : List PrincipalRule → Prop
  | [] => True
  | rule :: rest => rule.Valid ∧ PrincipalRule.AllValid rest

end

mutual

/-- The outline of a permission rule. -/
def PermissionRule.outline : PermissionRule → Outline
  | .allOf rules => .compound (PermissionRule.outlines rules)
  | .anyOf rules => .compound (PermissionRule.outlines rules)
  | .not rule => .not rule.outline
  | _ => .leaf

def PermissionRule.outlines : List PermissionRule → List Outline
  | [] => []
  | rule :: rest => rule.outline :: PermissionRule.outlines rest

end

mutual

/-- The outline of a principal rule. -/
def PrincipalRule.outline : PrincipalRule → Outline
  | .allOf rules => .compound (PrincipalRule.outlines rules)
  | .anyOf rules => .compound (PrincipalRule.outlines rules)
  | .not rule => .not rule.outline
  | _ => .leaf

def PrincipalRule.outlines : List PrincipalRule → List Outline
  | [] => []
  | rule :: rest => rule.outline :: PrincipalRule.outlines rest

end

/-- What the limits ask of the outlines of a list of rules. A rule that stands alone may use the
whole depth; several rules are parts of a compound, which counts as one level. -/
def ListWithinLimits : List Outline → Prop
  | [] => True
  | [o] => o.height ≤ maxDepth ∧ ∀ width ∈ o.widths, width ≤ maxChildren
  | os => os.length ≤ maxChildren ∧
      ∀ o ∈ os, o.height < maxDepth ∧ ∀ width ∈ o.widths, width ≤ maxChildren

instance : DecidablePred ListWithinLimits
  | [] => inferInstanceAs (Decidable True)
  | [_] => inferInstanceAs (Decidable (_ ∧ _))
  | _ :: _ :: _ => inferInstanceAs (Decidable (_ ∧ _))

/-- Rules of a policy of which every part can be compiled. -/
structure PolicyRules.Valid (rules : PolicyRules) : Prop where
  permissions : PermissionRule.AllValid rules.permissions
  principals : PrincipalRule.AllValid rules.principals

/-- Rules of a policy within the limits. -/
structure PolicyRules.WithinLimits (rules : PolicyRules) : Prop where
  permissions : ListWithinLimits (PermissionRule.outlines rules.permissions)
  principals : ListWithinLimits (PrincipalRule.outlines rules.principals)

/-! ## Which rules can be compiled -/

theorem exists_compileAny_iff {flag : Bool} {what : String} :
    (∃ condition, compileAny flag what = .ok condition) ↔ flag = true := by
  cases flag <;> simp [compileAny]

mutual

theorem PermissionRule.exists_compile_iff (rule : PermissionRule) :
    (∃ condition, rule.compile = .ok condition) ↔ rule.Valid := by
  -- each kind of rule turns into a condition as soon as its parts do
  match rule with
  | .any flag => rw [compile, exists_compileAny_iff, Valid]
  | .allOf rules =>
    rw [compile, exists_bind_pure_eq_ok, PermissionRule.exists_compileAll_iff rules, Valid]
  | .anyOf rules =>
    rw [compile, exists_bind_pure_eq_ok, PermissionRule.exists_compileAll_iff rules, Valid]
  | .not inner =>
    rw [compile, exists_bind_pure_eq_ok, PermissionRule.exists_compile_iff inner, Valid]
  | .header spec => rw [compile, exists_bind_pure_eq_ok, Valid]
  | .path spec => rw [compile, exists_bind_pure_eq_ok, Valid]
  | .destination spec => rw [compile, exists_bind_pure_eq_ok, Valid]

theorem PermissionRule.exists_compileAll_iff (rules : List PermissionRule) :
    (∃ conditions, compileAll rules = .ok conditions) ↔ AllValid rules := by
  match rules with
  | [] => simp [compileAll, AllValid]
  | rule :: rest =>
    rw [compileAll, exists_bind_bind_pure_eq_ok, PermissionRule.exists_compile_iff rule,
      PermissionRule.exists_compileAll_iff rest, AllValid]

end

theorem exists_compileAuthenticated_iff {name : Option TextSpec} :
    (∃ condition, compileAuthenticated name = .ok condition) ↔
      (PrincipalRule.authenticated name).Valid := by
  cases name with
  | none => exact iff_of_true ⟨_, rfl⟩ trivial -- there is nothing to compile
  | some spec => exact exists_bind_pure_eq_ok

mutual

theorem PrincipalRule.exists_compile_iff (rule : PrincipalRule) :
    (∃ condition, rule.compile = .ok condition) ↔ rule.Valid := by
  match rule with
  | .any flag => rw [compile, exists_compileAny_iff, Valid]
  | .allOf rules =>
    rw [compile, exists_bind_pure_eq_ok, PrincipalRule.exists_compileAll_iff rules, Valid]
  | .anyOf rules =>
    rw [compile, exists_bind_pure_eq_ok, PrincipalRule.exists_compileAll_iff rules, Valid]
  | .not inner =>
    rw [compile, exists_bind_pure_eq_ok, PrincipalRule.exists_compile_iff inner, Valid]
  | .authenticated name => rw [compile, exists_compileAuthenticated_iff]
  | .source spec => rw [compile, exists_bind_pure_eq_ok, Valid]
  | .header spec => rw [compile, exists_bind_pure_eq_ok, Valid]
  | .path spec => rw [compile, exists_bind_pure_eq_ok, Valid]

theorem PrincipalRule.exists_compileAll_iff (rules : List PrincipalRule) :
    (∃ conditions, compileAll rules = .ok conditions) ↔ AllValid rules := by
  match rules with
  | [] => simp [compileAll, AllValid]
  | rule :: rest =>
    rw [compileAll, exists_bind_bind_pure_eq_ok, PrincipalRule.exists_compile_iff rule,
      PrincipalRule.exists_compileAll_iff rest, AllValid]

end

/-! ## What conditions rules turn into -/

theorem outline_compileAny {flag : Bool} {what : String} {condition : Condition}
    (h : compileAny flag what = .ok condition) : condition.outline = .leaf := by
  unfold compileAny at h
  split at h
  · obtain rfl := Except.ok.inj h
    rfl
  · simp at h

mutual

/-- A condition has the outline of its rule. -/
theorem PermissionRule.outline_compile {rule : PermissionRule} {condition : Condition}
    (h : rule.compile = .ok condition) : condition.outline = rule.outline := by
  match rule with
  | .any flag => exact outline_compileAny h
  | .allOf rules =>
    obtain ⟨conditions, hconditions, h⟩ := bind_eq_ok.mp h
    obtain rfl := Except.ok.inj h
    rw [Condition.outline, outline, PermissionRule.outlines_compileAll hconditions]
  | .anyOf rules =>
    obtain ⟨conditions, hconditions, h⟩ := bind_eq_ok.mp h
    obtain rfl := Except.ok.inj h
    rw [Condition.outline, outline, PermissionRule.outlines_compileAll hconditions]
  | .not rule =>
    obtain ⟨inner, hinner, h⟩ := bind_eq_ok.mp h
    obtain rfl := Except.ok.inj h
    rw [Condition.outline, outline, PermissionRule.outline_compile hinner]
  | .header spec | .path spec | .destination spec =>
    -- whatever a leaf tests, it has no parts
    obtain ⟨test, -, h⟩ := bind_eq_ok.mp h
    obtain rfl := Except.ok.inj h
    rfl

theorem PermissionRule.outlines_compileAll {rules : List PermissionRule}
    {conditions : List Condition} (h : compileAll rules = .ok conditions) :
    Condition.outlines conditions = outlines rules := by
  match rules with
  | [] =>
    obtain rfl := Except.ok.inj h
    rfl
  | rule :: rest =>
    obtain ⟨condition, hcondition, h⟩ := bind_eq_ok.mp h
    obtain ⟨conditions, hconditions, h⟩ := bind_eq_ok.mp h
    obtain rfl := Except.ok.inj h
    rw [Condition.outlines, outlines, PermissionRule.outline_compile hcondition,
      PermissionRule.outlines_compileAll hconditions]

end

mutual

theorem PrincipalRule.outline_compile {rule : PrincipalRule} {condition : Condition}
    (h : rule.compile = .ok condition) : condition.outline = rule.outline := by
  match rule with
  | .any flag => exact outline_compileAny h
  | .allOf rules =>
    obtain ⟨conditions, hconditions, h⟩ := bind_eq_ok.mp h
    obtain rfl := Except.ok.inj h
    rw [Condition.outline, outline, PrincipalRule.outlines_compileAll hconditions]
  | .anyOf rules =>
    obtain ⟨conditions, hconditions, h⟩ := bind_eq_ok.mp h
    obtain rfl := Except.ok.inj h
    rw [Condition.outline, outline, PrincipalRule.outlines_compileAll hconditions]
  | .not rule =>
    obtain ⟨inner, hinner, h⟩ := bind_eq_ok.mp h
    obtain rfl := Except.ok.inj h
    rw [Condition.outline, outline, PrincipalRule.outline_compile hinner]
  | .authenticated none =>
    obtain rfl := Except.ok.inj h
    rfl
  | .authenticated (some spec) | .source spec | .header spec | .path spec =>
    obtain ⟨test, -, h⟩ := bind_eq_ok.mp h
    obtain rfl := Except.ok.inj h
    rfl

theorem PrincipalRule.outlines_compileAll {rules : List PrincipalRule}
    {conditions : List Condition} (h : compileAll rules = .ok conditions) :
    Condition.outlines conditions = outlines rules := by
  match rules with
  | [] =>
    obtain rfl := Except.ok.inj h
    rfl
  | rule :: rest =>
    obtain ⟨condition, hcondition, h⟩ := bind_eq_ok.mp h
    obtain ⟨conditions, hconditions, h⟩ := bind_eq_ok.mp h
    obtain rfl := Except.ok.inj h
    rw [Condition.outlines, outlines, PrincipalRule.outline_compile hcondition,
      PrincipalRule.outlines_compileAll hconditions]

end

/-! ## Lists of rules -/

/-- The parts of a compound within the limits. -/
theorem Outline.withinLimits_compound_iff {parts : List Outline} :
    (Outline.compound parts).WithinLimits ↔
      parts.length ≤ maxChildren ∧ ∀ part ∈ parts,
        part.height < maxDepth ∧ ∀ width ∈ part.widths, width ≤ maxChildren := by
  have hheight : (Outline.compound parts).height ≤ maxDepth ↔
      ∀ part ∈ parts, part.height < maxDepth := by
    -- even a compound without parts takes a level, so the limit has to leave room for one
    obtain ⟨n, hn⟩ : ∃ n, maxDepth = n + 1 := ⟨_, rfl⟩
    rw [height, hn, Nat.add_le_add_iff_right, highest_le_iff]
    simp only [Nat.lt_succ_iff]
  constructor
  · intro h
    refine ⟨h.widths_le _ List.mem_cons_self, fun part hpart => ?_⟩
    refine ⟨hheight.mp h.height_le part hpart, fun width hwidth => ?_⟩
    exact h.widths_le width (List.mem_cons_of_mem _ (mem_widthsOf.mpr ⟨part, hpart, hwidth⟩))
  · rintro ⟨hlength, hparts⟩
    refine ⟨hheight.mpr fun part hpart => (hparts part hpart).1, fun width hwidth => ?_⟩
    rcases List.mem_cons.mp hwidth with rfl | hwidth
    · exact hlength
    · obtain ⟨part, hpart, hwidth⟩ := mem_widthsOf.mp hwidth
      exact (hparts part hpart).2 width hwidth

/-- The condition that joins a list is within the limits just where the list is. -/
theorem withinLimits_joinAny_iff (cs : List Condition) :
    (Condition.joinAny cs).outline.WithinLimits ↔ ListWithinLimits (Condition.outlines cs) := by
  match cs with
  | [] => exact iff_of_true (by decide) trivial
  | [c] =>
    -- the condition stands for itself
    show c.outline.WithinLimits ↔ ListWithinLimits [c.outline]
    exact ⟨fun h => ⟨h.height_le, h.widths_le⟩, fun h => ⟨h.1, h.2⟩⟩
  | c :: d :: rest =>
    -- the conditions are parts of a compound, so each has one level less
    show (Outline.compound (Condition.outlines (c :: d :: rest))).WithinLimits ↔ _
    rw [Outline.withinLimits_compound_iff]
    rfl

/-- A rule of 31 negations may stand alone, but not beside another rule. -/
example :
    ListWithinLimits [Nat.repeat .not 31 .leaf] ∧
      ¬ ListWithinLimits [Nat.repeat .not 31 .leaf, .leaf] := by
  decide +kernel

/-! ## Policies -/

theorem PolicyRules.exists_compile_iff (rules : PolicyRules) (name : String) :
    (∃ policy, rules.compile name = .ok policy) ↔ rules.Valid := by
  rw [compile, exists_bind_bind_pure_eq_ok, PermissionRule.exists_compileAll_iff,
    PrincipalRule.exists_compileAll_iff]
  exact ⟨fun h => ⟨h.1, h.2⟩, fun h => ⟨h.permissions, h.principals⟩⟩

theorem PolicyRules.withinLimits_compile {rules : PolicyRules} {name : String} {policy : Policy}
    (h : rules.compile name = .ok policy) :
    policy.name = name ∧ (policy.WithinLimits ↔ rules.WithinLimits) := by
  obtain ⟨permissions, hpermissions, h⟩ := bind_eq_ok.mp h
  obtain ⟨principals, hprincipals, h⟩ := bind_eq_ok.mp h
  obtain rfl := Except.ok.inj h
  refine ⟨rfl, ?_⟩
  have hpermissions' := withinLimits_joinAny_iff permissions
  have hprincipals' := withinLimits_joinAny_iff principals
  rw [PermissionRule.outlines_compileAll hpermissions] at hpermissions'
  rw [PrincipalRule.outlines_compileAll hprincipals] at hprincipals'
  constructor
  · intro h
    exact ⟨hpermissions'.mp h.permissions, hprincipals'.mp h.principals⟩
  · intro h
    exact ⟨hpermissions'.mpr h.permissions, hprincipals'.mpr h.principals⟩

theorem PolicyRules.exists_compileAll_iff (entries : List (String × PolicyRules)) :
    (∃ policies, compileAll entries = .ok policies) ↔ ∀ entry ∈ entries, entry.2.Valid := by
  induction entries with
  | nil => simp [compileAll]
  | cons entry rest ih =>
    rw [compileAll, exists_bind_bind_pure_eq_ok, exists_compile_iff, ih, List.forall_mem_cons]

/-- The policies of some entries have the names of the entries, and are within the limits where the
entries are. -/
theorem PolicyRules.withinLimits_compileAll {entries : List (String × PolicyRules)}
    {policies : List Policy} (h : compileAll entries = .ok policies) :
    policies.map Policy.name = entries.map Prod.fst ∧
      ((∀ policy ∈ policies, policy.WithinLimits) ↔ ∀ entry ∈ entries, entry.2.WithinLimits) := by
  induction entries generalizing policies with
  | nil =>
    obtain rfl := Except.ok.inj h
    simp
  | cons entry rest ih =>
    obtain ⟨policy, hpolicy, h⟩ := bind_eq_ok.mp h
    obtain ⟨policies, hpolicies, h⟩ := bind_eq_ok.mp h
    obtain rfl := Except.ok.inj h
    obtain ⟨hname, hlimits⟩ := withinLimits_compile hpolicy
    obtain ⟨hnames, hrest⟩ := ih hpolicies
    rw [List.map_cons, List.map_cons, hname, hnames, List.forall_mem_cons, List.forall_mem_cons,
      hlimits, hrest]
    exact ⟨rfl, Iff.rfl⟩

/-! ## Documents -/

/-- A document compiles if and only if every part of its rules can be compiled and the rules of all
its policies are within the limits. -/
theorem Document.compile_succeeds_iff (document : Document) :
    (∃ engine, document.compile = .ok engine) ↔
      ∀ entry ∈ document.policies.entries, entry.2.Valid ∧ entry.2.WithinLimits := by
  constructor
  · rintro ⟨engine, h⟩ entry hentry
    -- the rules were compiled before the engine was built
    obtain ⟨policies, hpolicies, h⟩ := bind_eq_ok.mp h
    have hwell := (Engine.exists_ofPolicies_iff document.action).mp ⟨engine, h⟩
    have hvalid := (PolicyRules.exists_compileAll_iff _).mp ⟨policies, hpolicies⟩
    obtain ⟨-, hlimits⟩ := PolicyRules.withinLimits_compileAll hpolicies
    exact ⟨hvalid entry hentry, hlimits.mp hwell.limits entry hentry⟩
  · intro h
    obtain ⟨policies, hpolicies⟩ := (PolicyRules.exists_compileAll_iff _).mpr
      fun entry hentry => (h entry hentry).1
    obtain ⟨hnames, hlimits⟩ := PolicyRules.withinLimits_compileAll hpolicies
    -- the names come from a map, so none is repeated
    have hwell : Engine.WellFormed policies := by
      refine ⟨?_, hlimits.mpr fun entry hentry => (h entry hentry).2⟩
      rw [hnames]
      exact document.policies.nodup_names
    obtain ⟨engine, hengine⟩ := (Engine.exists_ofPolicies_iff document.action).mpr hwell
    exact ⟨engine, bind_eq_ok.mpr ⟨policies, hpolicies, hengine⟩⟩

end AccessPolicy
