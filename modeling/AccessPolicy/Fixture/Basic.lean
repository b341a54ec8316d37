import AccessPolicy.Document.Basic
import AccessPolicy.Request

/-!
# Fixtures

A fixture is a document together with what is expected of it: either decisions on some calls, or a
part of the message with which the document is refused.
-/

namespace AccessPolicy

/-- A call as a fixture describes it, its headers as a map. -/
structure CallSpec where
  method : String := ""
  principal : Option String := none
  headers : NameMap String := .empty
  source : String := ""
  destination : String := ""

/-- The call that is described. Its headers are added in the order of their names. -/
def CallSpec.call (spec : CallSpec) : Call :=
  let call : Call := {
    method := spec.method
    principal := spec.principal
    source := spec.source
    destination := spec.destination }
  call.withHeaders spec.headers.entries

/-- A call and the decision expected on it. -/
structure Case where
  name : String
  spec : CallSpec := {}
  expected : Decision

/-- A document with expectations. -/
structure Fixture where
  name : String
  description : String := ""
  document : Document
  /-- A part of the message with which the document is to be refused. Then the cases do not count. -/
  expectedError : Option String := none
  cases : List Case := []

/-- What came of a case. -/
structure CaseResult where
  name : String
  expected : Decision
  actual : Decision

namespace CaseResult

def passed (result : CaseResult) : Bool :=
  result.actual == result.expected

end CaseResult

/-- The description of an expected decision. -/
def Decision.expectation (decision : Decision) : String :=
  Text.record "Expect"
    [("decision", decision.verdict.description),
      ("policy", Text.optional (decision.policy.map Text.quoted))]

/-- What an engine makes of a case. -/
def Case.run (engine : Engine) (case_ : Case) : CaseResult :=
  ⟨case_.name, case_.expected, engine.evaluate case_.spec.call.request⟩

namespace Fixture

/-- The results of all cases, unless the document is refused. -/
def run (fixture : Fixture) : Except Error (List CaseResult) := do
  let engine ← fixture.document.compile
  return fixture.cases.map (Case.run engine)

/-! ## Complaints -/

/-- Why a fixture fails. -/
inductive Complaint where
  /-- The decision on a case is not the expected one. -/
  | wrongDecision (result : CaseResult)
  /-- The document is refused with a message that lacks the expected part. -/
  | wrongError (error : Error) (expected : String)
  /-- The document was to be refused, and is not. -/
  | noError (expected : String)
  /-- The document is refused and should not be. -/
  | refused (error : Error)

/-- Why the fixture fails, if it does: the first wrong decision, or what is wrong with the error.
The expected part is looked for in the message as it reads with the reasons that are known. -/
def complaintGiven (reason : String → Option String) (fixture : Fixture) : Option Complaint :=
  match fixture.run, fixture.expectedError with
  | .ok results, none => (results.find? fun result => !result.passed).map .wrongDecision
  | .ok _, some expected => some (.noError expected)
  | .error e, some expected =>
    if Text.occursIn expected.toList (e.messageWith reason).toList then none
    else some (.wrongError e expected)
  | .error e, none => some (.refused e)

/-- Why the fixture fails, if it does, where no reasons are known. -/
def complaint? (fixture : Fixture) : Option Complaint :=
  fixture.complaintGiven fun _ => none

/-- The text of a complaint about the fixture of a name. -/
def Complaint.message (name : String) : Complaint → String
  | .wrongDecision result =>
    "Fixture '" ++ name ++ "' case '" ++ result.name ++ "' failed: expected "
      ++ result.expected.expectation ++ ", got " ++ result.actual.description
  | .wrongError e expected =>
    "Fixture '" ++ name ++ "' failed with '" ++ e.message ++ "', expected error containing '"
      ++ expected ++ "'"
  | .noError expected =>
    "Fixture '" ++ name ++ "' compiled, expected error containing '" ++ expected ++ "'"
  | .refused e => "Fixture '" ++ name ++ "' failed to compile: " ++ e.message

end Fixture

end AccessPolicy
