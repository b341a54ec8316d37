import AccessPolicy.Policy

/-!
# Engines

An engine holds an action and policies in order. The first policy that matches a request decides:
an engine whose action is to allow admits exactly the requests that some policy matches, and one
whose action is to deny admits exactly the others.
-/

namespace AccessPolicy

/-- What it means for a request that a policy matches it. -/
inductive Action where
  | allow
  | deny
deriving DecidableEq, Repr

def Action.description : Action → String
  | .allow => "Allow"
  | .deny => "Deny"

/-- What happens to a request. -/
inductive Verdict where
  | allow
  | deny
deriving DecidableEq, Repr

namespace Verdict

/-- The word for a verdict. -/
def text : Verdict → String
  | .allow => "ALLOW"
  | .deny => "DENY"

def description : Verdict → String
  | .allow => "Allow"
  | .deny => "Deny"

end Verdict

/-- A verdict, and the policy that led to it if one matched. -/
structure Decision where
  verdict : Verdict
  policy : Option String
deriving DecidableEq, Repr

namespace Decision

/-- The verdict, with the name of the policy in parentheses. -/
def text (decision : Decision) : String :=
  match decision.policy with
  | some name => decision.verdict.text ++ " (" ++ name ++ ")"
  | none => decision.verdict.text

def description (decision : Decision) : String :=
  Text.record "Decision"
    [("decision", decision.verdict.description),
      ("matched_policy_name", Text.optional (decision.policy.map Text.quoted))]

end Decision

/-- Refuses the first policy, in order, that repeats the name of an earlier one or is beyond the
limits; `seen` lists the names of the earlier ones. -/
def checkPolicies (seen : List String) : List Policy → Except Error Unit
  | [] => .ok ()
  | policy :: rest => do
    if seen.contains policy.name then throw (.duplicatePolicy policy.name)
    policy.check
    checkPolicies (policy.name :: seen) rest

/-- Policies in order, all within the limits and of different names, and what a match means. -/
structure Engine where
  action : Action
  policies : List Policy
  policies_ok : checkPolicies [] policies = .ok ()

namespace Engine

/-- Builds an engine. -/
def ofPolicies (action : Action) (policies : List Policy) : Except Error Engine :=
  match h : checkPolicies [] policies with
  | .ok () => .ok ⟨action, policies, h⟩
  | .error e => .error e

/-- The decision when the given policy, or none, is the first to match. -/
def decide (engine : Engine) (first : Option Policy) : Decision :=
  let allowed := (engine.action == .deny) == first.isNone
  ⟨if allowed then .allow else .deny, first.map Policy.name⟩

/-- Decides on a request. -/
def evaluate (engine : Engine) (request : Request) : Decision :=
  engine.decide (engine.policies.find? (·.holds request))

/-! ## Explanations -/

/-- What one policy made of a request. -/
structure Step where
  name : String
  matched : Bool
  permissions : Condition.Trace
  principals : Condition.Trace

/-- Explains what one policy makes of a request. -/
def Step.ofPolicy (request : Request) (policy : Policy) : Step :=
  let permissions := policy.permissions.trace request
  let principals := policy.principals.trace request
  ⟨policy.name, permissions.matched && principals.matched, permissions, principals⟩

/-- A decision with the policies tried for it, in order. -/
structure Explanation where
  decision : Decision
  steps : List Step

/-- Tries policies in order up to the first match: the steps taken and the policy that matched. -/
def explainPolicies (request : Request) : List Policy → List Step × Option Policy
  | [] => ([], none)
  | policy :: rest =>
    let step := Step.ofPolicy request policy
    if step.matched then ([step], some policy)
    else
      let (steps, first) := explainPolicies request rest
      (step :: steps, first)

/-- Decides on a request and explains the decision. -/
def explain (engine : Engine) (request : Request) : Explanation :=
  let (steps, first) := explainPolicies request engine.policies
  ⟨engine.decide first, steps⟩

/-! ## Texts -/

def description (engine : Engine) : String :=
  Text.record "AuthorizationEngine"
    [("action", engine.action.description),
      ("policies", Text.listOf (engine.policies.map fun policy => Text.quoted policy.name))]

def Step.description (step : Step) : String :=
  Text.record "PolicyStep"
    [("name", Text.quoted step.name), ("matched", Text.bool step.matched),
      ("permissions", step.permissions.description), ("principals", step.principals.description)]

/-- One line of an explanation. -/
def Step.text (step : Step) : String :=
  "  policy " ++ Text.quoted step.name
    ++ ": permissions=" ++ Text.bool step.permissions.matched
    ++ " principals=" ++ Text.bool step.principals.matched
    ++ " => " ++ (if step.matched then "MATCH" else "no match")

def Explanation.description (explanation : Explanation) : String :=
  Text.record "EvalTrace"
    [("decision", explanation.decision.description),
      ("steps", Text.listOf (explanation.steps.map Step.description))]

/-- The decision and one line for each policy tried. -/
def Explanation.text (explanation : Explanation) : String :=
  explanation.decision.text ++ "\n"
    ++ String.join (explanation.steps.map fun step => step.text ++ "\n")

end Engine

end AccessPolicy
