import AccessPolicy.Document.OfYaml
import AccessPolicy.Fixture.Basic

/-!
# Fixtures from YAML

A text holds one fixture in each of its documents. The records of fixtures refuse keys they do not
know.
-/

namespace AccessPolicy

/-- Reads the description of a call. -/
def CallSpec.ofYaml (levels : Nat) (yaml : Yaml) : Option CallSpec := do
  let fields ← yaml.fields? levels ["method", "principal", "headers", "source", "destination"] true
  return {
    method := ← fields.withDefault "method" "" Yaml.text?
    principal := ← fields.optional "principal" Yaml.text?
    headers := ← fields.withDefault "headers" .empty (Yaml.map? (levels - 1) Yaml.text?)
    source := ← fields.withDefault "source" "" Yaml.text?
    destination := ← fields.withDefault "destination" "" Yaml.text? }

/-- Reads an expected decision. -/
def Decision.ofYaml (levels : Nat) (yaml : Yaml) : Option Decision := do
  let fields ← yaml.fields? levels ["decision", "policy"] true
  return {
    verdict := ← fields.required "decision" Verdict.ofYaml
    policy := ← fields.optional "policy" Yaml.text? }

/-- Reads a case. -/
def Case.ofYaml (levels : Nat) (yaml : Yaml) : Option Case := do
  let fields ← yaml.fields? levels ["name", "request", "expect"] true
  return {
    name := ← fields.required "name" Yaml.text?
    spec := ← fields.withDefault "request" {} (CallSpec.ofYaml (levels - 1))
    expected := ← fields.required "expect" (Decision.ofYaml (levels - 1)) }

namespace Fixture

/-- Reads a fixture that may nest some levels. -/
def ofYaml (levels : Nat) (yaml : Yaml) : Option Fixture := do
  let fields ← yaml.fields? levels ["name", "description", "config", "expect_error", "cases"] true
  return {
    name := ← fields.required "name" Yaml.text?
    description := ← fields.withDefault "description" "" Yaml.text?
    document := ← fields.required "config" (Document.ofYaml (levels - 1))
    expectedError := ← fields.optional "expect_error" Yaml.text?
    cases := ← fields.withDefault "cases" []
      (Yaml.list? (levels - 1) (Case.ofYaml (levels - 2))) }

/-- The fixtures of a text. -/
def allOfYamlText (text : String) : Option (List Fixture) := do
  (← Yaml.documents text).mapM (ofYaml Yaml.levelLimit)

/-- The fixture of a text that holds one document. -/
def ofYamlText (text : String) : Option Fixture := do
  match ← Yaml.documents text with
  | [yaml] => ofYaml Yaml.levelLimit yaml
  | _ => none

end Fixture

end AccessPolicy
