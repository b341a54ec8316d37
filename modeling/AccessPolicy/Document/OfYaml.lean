import AccessPolicy.Document.Basic
import AccessPolicy.Yaml.Reader

/-!
# Documents from YAML

How the records and choices of a document are written in YAML. A rule is a mapping whose only key
names the kind of rule. Records refuse keys they do not know; the contents of compound rules and of
`authenticated` ignore them.
-/

namespace AccessPolicy

/-! ## Specifications -/

def TextSpec.ofYaml (levels : Nat) (yaml : Yaml) : Option TextSpec := do
  let fields ← yaml.fields? levels
    ["exact", "prefix", "suffix", "contains", "safe_regex", "ignore_case"] true
  return {
    exact := ← fields.optional "exact" Yaml.text?
    startsWith := ← fields.optional "prefix" Yaml.text?
    endsWith := ← fields.optional "suffix" Yaml.text?
    contains := ← fields.optional "contains" Yaml.text?
    pattern := ← fields.optional "safe_regex" Yaml.text?
    ignoreCase := ← fields.withDefault "ignore_case" false Yaml.bool? }

def RangeSpec.ofYaml (levels : Nat) (yaml : Yaml) : Option RangeSpec := do
  let fields ← yaml.fields? levels ["start", "end"] true
  return {
    first := ← fields.required "start" Yaml.int64?
    last := ← fields.required "end" Yaml.int64? }

def HeaderSpec.ofYaml (levels : Nat) (yaml : Yaml) : Option HeaderSpec := do
  let fields ← yaml.fields? levels
    ["name", "exact_match", "safe_regex_match", "range_match", "present_match", "prefix_match",
      "suffix_match", "invert_match"] true
  return {
    name := ← fields.required "name" Yaml.text?
    exact := ← fields.optional "exact_match" Yaml.text?
    pattern := ← fields.optional "safe_regex_match" Yaml.text?
    range := ← fields.optional "range_match" (RangeSpec.ofYaml (levels - 1))
    present := ← fields.optional "present_match" Yaml.bool?
    startsWith := ← fields.optional "prefix_match" Yaml.text?
    endsWith := ← fields.optional "suffix_match" Yaml.text?
    inverted := ← fields.withDefault "invert_match" false Yaml.bool? }

def NetworkSpec.ofYaml (levels : Nat) (yaml : Yaml) : Option NetworkSpec := do
  let fields ← yaml.fields? levels ["address_prefix", "prefix_len"] true
  return {
    address := ← fields.required "address_prefix" Yaml.text?
    length := ← fields.required "prefix_len" Yaml.uint32? }

/-! ## Rules -/

mutual

/-- Reads a permission rule that may nest some levels. -/
def PermissionRule.ofYaml : Nat → Yaml → Option PermissionRule
  | 0, _ => none
  | levels + 1, yaml => do
    let (kind, content) ← yaml.choice? (levels + 1)
    match kind with
    | "any" => return .any (← content.bool?)
    | "and_rules" => return .allOf (← PermissionRule.compoundOfYaml levels content)
    | "or_rules" => return .anyOf (← PermissionRule.compoundOfYaml levels content)
    | "not_rule" => return .not (← PermissionRule.ofYaml levels content)
    | "header" => return .header (← HeaderSpec.ofYaml levels content)
    | "url_path" => return .path (← TextSpec.ofYaml levels content)
    | "destination_ip" => return .destination (← NetworkSpec.ofYaml levels content)
    | _ => none

/-- Reads the record of a compound permission rule. -/
def PermissionRule.compoundOfYaml : Nat → Yaml → Option (List PermissionRule)
  | 0, _ => none
  | levels + 1, yaml => do
    let fields ← yaml.fields? (levels + 1) ["rules"] false
    fields.required "rules" (PermissionRule.listOfYaml levels)

/-- Reads a list of permission rules. -/
def PermissionRule.listOfYaml : Nat → Yaml → Option (List PermissionRule)
  | 0, yaml => yaml.list? 0 fun _ => none
  | levels + 1, yaml => yaml.list? (levels + 1) (PermissionRule.ofYaml levels)

end

mutual

/-- Reads a principal rule that may nest some levels. -/
def PrincipalRule.ofYaml : Nat → Yaml → Option PrincipalRule
  | 0, _ => none
  | levels + 1, yaml => do
    let (kind, content) ← yaml.choice? (levels + 1)
    match kind with
    | "any" => return .any (← content.bool?)
    | "and_ids" => return .allOf (← PrincipalRule.compoundOfYaml levels content)
    | "or_ids" => return .anyOf (← PrincipalRule.compoundOfYaml levels content)
    | "not_id" => return .not (← PrincipalRule.ofYaml levels content)
    | "authenticated" =>
      let fields ← content.fields? levels ["principal_name"] false
      return .authenticated (← fields.optional "principal_name" (TextSpec.ofYaml (levels - 1)))
    | "source_ip" => return .source (← NetworkSpec.ofYaml levels content)
    | "header" => return .header (← HeaderSpec.ofYaml levels content)
    | "url_path" => return .path (← TextSpec.ofYaml levels content)
    | _ => none

/-- Reads the record of a compound principal rule. -/
def PrincipalRule.compoundOfYaml : Nat → Yaml → Option (List PrincipalRule)
  | 0, _ => none
  | levels + 1, yaml => do
    let fields ← yaml.fields? (levels + 1) ["ids"] false
    fields.required "ids" (PrincipalRule.listOfYaml levels)

/-- Reads a list of principal rules. -/
def PrincipalRule.listOfYaml : Nat → Yaml → Option (List PrincipalRule)
  | 0, yaml => yaml.list? 0 fun _ => none
  | levels + 1, yaml => yaml.list? (levels + 1) (PrincipalRule.ofYaml levels)

end

/-! ## Documents -/

def PolicyRules.ofYaml (levels : Nat) (yaml : Yaml) : Option PolicyRules := do
  let fields ← yaml.fields? levels ["permissions", "principals"] true
  return {
    permissions := ← fields.withDefault "permissions" [] (PermissionRule.listOfYaml (levels - 1))
    principals := ← fields.withDefault "principals" [] (PrincipalRule.listOfYaml (levels - 1)) }

/-- Reads a word for an action. -/
def Action.ofYaml (yaml : Yaml) : Option Action := do
  match ← yaml.text? with
  | "ALLOW" | "allow" => return .allow
  | "DENY" | "deny" => return .deny
  | _ => none

/-- Reads a word for a verdict. -/
def Verdict.ofYaml (yaml : Yaml) : Option Verdict := do
  match ← yaml.text? with
  | "ALLOW" | "allow" => return .allow
  | "DENY" | "deny" => return .deny
  | _ => none

def Document.ofYaml (levels : Nat) (yaml : Yaml) : Option Document := do
  let fields ← yaml.fields? levels ["action", "policies"] true
  return {
    action := ← fields.required "action" Action.ofYaml
    policies := ← fields.withDefault "policies" .empty
      (Yaml.map? (levels - 1) (PolicyRules.ofYaml (levels - 2))) }

/-- Reads a document from a text of one YAML document. -/
def Document.ofYamlText (text : String) : Option Document := do
  match ← Yaml.documents text with
  | [yaml] => Document.ofYaml Yaml.levelLimit yaml
  | _ => none

end AccessPolicy
