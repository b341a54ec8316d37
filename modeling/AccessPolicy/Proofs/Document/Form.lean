import AccessPolicy.Document.Basic
import AccessPolicy.Proofs.Json.Form
import AccessPolicy.Proofs.Json.Grammar

/-!
# How documents are written

The forms of a document in JSON, from the writer's side: which values write a document, and which
texts spell these values. A rule is an object whose only key names the kind of rule. Specifications,
policies and documents are records; a member that is absent or has its usual value may be left out.
The integers of a document are those that their machine types hold.
-/

namespace AccessPolicy

open Json

/-! ## Specifications -/

def TextSpec.forms (spec : TextSpec) : List FieldForm :=
  [.optional "exact" WritesText spec.exact, .optional "prefix" WritesText spec.startsWith,
    .optional "suffix" WritesText spec.endsWith, .optional "contains" WritesText spec.contains,
    .optional "safe_regex" WritesText spec.pattern,
    .default "ignore_case" WritesBool false spec.ignoreCase]

def TextSpec.WrittenAs (spec : TextSpec) : Json → Prop :=
  RecordOf spec.forms

/-- An integer of 64 bits. -/
def WritesInt64 (n : Int) (json : Json) : Prop :=
  Text.fitsInt64 n ∧ WritesInteger n json

/-- An integer of 32 bits without a sign. -/
def WritesUInt32 (n : Nat) (json : Json) : Prop :=
  n ≤ 0xFFFFFFFF ∧ WritesInteger n json

def RangeSpec.forms (spec : RangeSpec) : List FieldForm :=
  [.always "start" (WritesInt64 spec.first), .always "end" (WritesInt64 spec.last)]

def RangeSpec.WrittenAs (spec : RangeSpec) : Json → Prop :=
  RecordOf spec.forms

def HeaderSpec.forms (spec : HeaderSpec) : List FieldForm :=
  [.always "name" (WritesText spec.name), .optional "exact_match" WritesText spec.exact,
    .optional "safe_regex_match" WritesText spec.pattern,
    .optional "range_match" RangeSpec.WrittenAs spec.range,
    .optional "present_match" WritesBool spec.present,
    .optional "prefix_match" WritesText spec.startsWith,
    .optional "suffix_match" WritesText spec.endsWith,
    .default "invert_match" WritesBool false spec.inverted]

def HeaderSpec.WrittenAs (spec : HeaderSpec) : Json → Prop :=
  RecordOf spec.forms

def NetworkSpec.forms (spec : NetworkSpec) : List FieldForm :=
  [.always "address_prefix" (WritesText spec.address),
    .always "prefix_len" (WritesUInt32 spec.length)]

def NetworkSpec.WrittenAs (spec : NetworkSpec) : Json → Prop :=
  RecordOf spec.forms

/-! ## Rules -/

mutual

/-- The values that write a permission rule. -/
def PermissionRule.WrittenAs : PermissionRule → Json → Prop
  | .any flag => Tagged "any" (WritesBool flag)
  | .allOf rules =>
    Tagged "and_rules" (RecordOf [.always "rules" (PermissionRule.ListWrittenAs rules)])
  | .anyOf rules =>
    Tagged "or_rules" (RecordOf [.always "rules" (PermissionRule.ListWrittenAs rules)])
  | .not rule => Tagged "not_rule" rule.WrittenAs
  | .header spec => Tagged "header" spec.WrittenAs
  | .path spec => Tagged "url_path" spec.WrittenAs
  | .destination spec => Tagged "destination_ip" spec.WrittenAs

/-- The values that write a list of permission rules. -/
def PermissionRule.ListWrittenAs : List PermissionRule → Json → Prop
  | [], json => json = .array []
  | rule :: rest, json => ∃ item items, json = .array (item :: items) ∧ rule.WrittenAs item ∧
    PermissionRule.ListWrittenAs rest (.array items)

end

mutual

/-- The values that write a principal rule. -/
def PrincipalRule.WrittenAs : PrincipalRule → Json → Prop
  | .any flag => Tagged "any" (WritesBool flag)
  | .allOf rules => Tagged "and_ids" (RecordOf [.always "ids" (PrincipalRule.ListWrittenAs rules)])
  | .anyOf rules => Tagged "or_ids" (RecordOf [.always "ids" (PrincipalRule.ListWrittenAs rules)])
  | .not rule => Tagged "not_id" rule.WrittenAs
  | .authenticated name =>
    Tagged "authenticated" (RecordOf [.optional "principal_name" TextSpec.WrittenAs name])
  | .source spec => Tagged "source_ip" spec.WrittenAs
  | .header spec => Tagged "header" spec.WrittenAs
  | .path spec => Tagged "url_path" spec.WrittenAs

/-- The values that write a list of principal rules. -/
def PrincipalRule.ListWrittenAs : List PrincipalRule → Json → Prop
  | [], json => json = .array []
  | rule :: rest, json => ∃ item items, json = .array (item :: items) ∧ rule.WrittenAs item ∧
    PrincipalRule.ListWrittenAs rest (.array items)

end

/-! ## Documents -/

def PolicyRules.forms (rules : PolicyRules) : List FieldForm :=
  [.default "permissions" PermissionRule.ListWrittenAs [] rules.permissions,
    .default "principals" PrincipalRule.ListWrittenAs [] rules.principals]

def PolicyRules.WrittenAs (rules : PolicyRules) : Json → Prop :=
  RecordOf rules.forms

/-- A map is written as an object with its entries in any order. -/
def NameMap.WrittenAs {α : Type} (P : α → Json → Prop) (map : NameMap α) (json : Json) : Prop :=
  ∃ (entries : List (String × α)) (members : List (Json × Json)), entries.Perm map.entries ∧
    List.Forall₂ (fun (name, a) (key, value) => key = .string (some name) ∧ P a value)
      entries members ∧
    json = .object members

/-- The words for an action. -/
def Action.words : Action → List String
  | .allow => ["ALLOW", "allow"]
  | .deny => ["DENY", "deny"]

/-- An action is written as a word, or as an object with the word as its only key. -/
def Action.WrittenAs (action : Action) (json : Json) : Prop :=
  ∃ word ∈ action.words, json = .string (some word) ∨ Tagged word (· = .null) json

def Document.forms (document : Document) : List FieldForm :=
  [.always "action" document.action.WrittenAs,
    .default "policies" (NameMap.WrittenAs PolicyRules.WrittenAs) .empty document.policies]

def Document.WrittenAs (document : Document) : Json → Prop :=
  RecordOf document.forms

/-- The texts of a document. -/
def Document.SpelledBy (document : Document) (text : String) : Prop :=
  ∃ json, document.WrittenAs json ∧ json.SpelledBy text

end AccessPolicy
