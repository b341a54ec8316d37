import AccessPolicy.Document.NameMap
import AccessPolicy.Document.Spec
import AccessPolicy.Engine

/-!
# Documents

A document states an action and policies by name. Each policy lists rules about what is accessed
and rules about who accesses it; a request meets a list if it meets one of its rules.
-/

namespace AccessPolicy

/-- A rule about what is accessed. -/
inductive PermissionRule where
  /-- Everything; must be `true`. -/
  | any (flag : Bool)
  | allOf (rules : List PermissionRule)
  | anyOf (rules : List PermissionRule)
  | not (rule : PermissionRule)
  | header (spec : HeaderSpec)
  /-- The name of the method. -/
  | path (spec : TextSpec)
  /-- The address that is called. -/
  | destination (spec : NetworkSpec)

/-- A rule about who accesses. -/
inductive PrincipalRule where
  /-- Everyone; must be `true`. -/
  | any (flag : Bool)
  | allOf (rules : List PrincipalRule)
  | anyOf (rules : List PrincipalRule)
  | not (rule : PrincipalRule)
  /-- The caller is authenticated; the name may be tested further. -/
  | authenticated (name : Option TextSpec)
  /-- The address of the caller. -/
  | source (spec : NetworkSpec)
  | header (spec : HeaderSpec)
  /-- The name of the method. -/
  | path (spec : TextSpec)

/-- The two lists of rules of a policy. -/
structure PolicyRules where
  permissions : List PermissionRule := []
  principals : List PrincipalRule := []

/-- A document. -/
structure Document where
  action : Action
  policies : NameMap PolicyRules := .empty

/-! ## From rules to conditions -/

/-- The condition of a rule that matches everything, which must not be switched off; `what` names
the kind of rule. -/
def compileAny (flag : Bool) (what : String) : Except Error Condition :=
  if flag then .ok .always
  else .error (.invalidConfig (what ++ " \x60any\x60 must be true when set"))

mutual

/-- The condition that a permission rule states. -/
def PermissionRule.compile : PermissionRule → Except Error Condition
  | .any flag => compileAny flag "permission"
  | .allOf rules => do return .allOf (← PermissionRule.compileAll rules)
  | .anyOf rules => do return .anyOf (← PermissionRule.compileAll rules)
  | .not rule => do return .not (← rule.compile)
  | .header spec => do return .header (← spec.compile)
  | .path spec => do return .attr (.path (← spec.compile))
  | .destination spec => do return .attr (.destinationIn (← spec.compile))

/-- The conditions of some permission rules, up to the first that is refused. -/
def PermissionRule.compileAll : List PermissionRule → Except Error (List Condition)
  | [] => .ok []
  | rule :: rest => do
    let condition ← rule.compile
    return condition :: (← PermissionRule.compileAll rest)

end

/-- The condition that the caller is authenticated under a name. Every name starts with the empty
text, so without a specification only the name's presence counts. -/
def compileAuthenticated (name : Option TextSpec) : Except Error Condition := do
  let matcher ← match name with
    | some spec => spec.compile
    | none => pure (.startingWith "" false)
  return .attr (.authenticated matcher)

mutual

/-- The condition that a principal rule states. -/
def PrincipalRule.compile : PrincipalRule → Except Error Condition
  | .any flag => compileAny flag "principal"
  | .allOf rules => do return .allOf (← PrincipalRule.compileAll rules)
  | .anyOf rules => do return .anyOf (← PrincipalRule.compileAll rules)
  | .not rule => do return .not (← rule.compile)
  | .authenticated name => compileAuthenticated name
  | .source spec => do return .attr (.sourceIn (← spec.compile))
  | .header spec => do return .header (← spec.compile)
  | .path spec => do return .attr (.path (← spec.compile))

/-- The conditions of some principal rules, up to the first that is refused. -/
def PrincipalRule.compileAll : List PrincipalRule → Except Error (List Condition)
  | [] => .ok []
  | rule :: rest => do
    let condition ← rule.compile
    return condition :: (← PrincipalRule.compileAll rest)

end

/-- The policy that rules state under a name. -/
def PolicyRules.compile (rules : PolicyRules) (name : String) : Except Error Policy := do
  let permissions ← PermissionRule.compileAll rules.permissions
  let principals ← PrincipalRule.compileAll rules.principals
  return .ofRules name permissions principals

/-- The policies of some entries, up to the first that is refused. -/
def PolicyRules.compileAll : List (String × PolicyRules) → Except Error (List Policy)
  | [] => .ok []
  | (name, rules) :: rest => do
    let policy ← rules.compile name
    return policy :: (← PolicyRules.compileAll rest)

/-- The engine that a document describes. Its policies are tried in the order of their names. -/
def Document.compile (document : Document) : Except Error Engine := do
  Engine.ofPolicies document.action (← PolicyRules.compileAll document.policies.entries)

/-! ## Descriptions -/

mutual

def PermissionRule.description : PermissionRule → String
  | .any flag => Text.tagged "Any" [Text.bool flag]
  | .allOf rules =>
    Text.record "AndRules" [("rules", Text.listOf (PermissionRule.descriptions rules))]
  | .anyOf rules =>
    Text.record "OrRules" [("rules", Text.listOf (PermissionRule.descriptions rules))]
  | .not rule => Text.tagged "NotRule" [rule.description]
  | .header spec => Text.tagged "Header" [spec.description]
  | .path spec => Text.tagged "UrlPath" [spec.description]
  | .destination spec => Text.tagged "DestinationIp" [spec.description]

def PermissionRule.descriptions : List PermissionRule → List String
  | [] => []
  | rule :: rest => rule.description :: PermissionRule.descriptions rest

end

mutual

def PrincipalRule.description : PrincipalRule → String
  | .any flag => Text.tagged "Any" [Text.bool flag]
  | .allOf rules =>
    Text.record "AndIds" [("ids", Text.listOf (PrincipalRule.descriptions rules))]
  | .anyOf rules =>
    Text.record "OrIds" [("ids", Text.listOf (PrincipalRule.descriptions rules))]
  | .not rule => Text.tagged "NotId" [rule.description]
  | .authenticated name => Text.record "Authenticated"
      [("principal_name", Text.optional (name.map TextSpec.description))]
  | .source spec => Text.tagged "SourceIp" [spec.description]
  | .header spec => Text.tagged "Header" [spec.description]
  | .path spec => Text.tagged "UrlPath" [spec.description]

def PrincipalRule.descriptions : List PrincipalRule → List String
  | [] => []
  | rule :: rest => rule.description :: PrincipalRule.descriptions rest

end

def PolicyRules.description (rules : PolicyRules) : String :=
  Text.record "PolicyConfig"
    [("permissions", Text.listOf (PermissionRule.descriptions rules.permissions)),
      ("principals", Text.listOf (PrincipalRule.descriptions rules.principals))]

end AccessPolicy
