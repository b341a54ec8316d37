import AccessPolicy.Document.Basic
import AccessPolicy.Fraction
import AccessPolicy.Json.Reader

/-!
# Documents from JSON

How the records and choices of a document are written in JSON. A rule is an object whose only key
names the kind of rule. Records refuse keys they do not know; the contents of compound rules and of
`authenticated` ignore them.
-/

namespace AccessPolicy

open Json

/-! ## Specifications -/

/-- A field that holds an optional text. -/
def Json.Field.optionalText {σ : Type} (name : String) (set : σ → Option String → σ) : Field σ where
  name
  read json s := do return set s (← readOptional readText json)

/-- A field that holds a truth value. -/
def Json.Field.bool {σ : Type} (name : String) (set : σ → Bool → σ) : Field σ where
  name
  read json s := do return set s (← readBool json)

/-- How a test of a text is written. -/
def TextSpec.shape : Shape TextSpec where
  label := "struct StringMatchSpec"
  fields := [
    .optionalText "exact" fun s v => { s with exact := v },
    .optionalText "prefix" fun s v => { s with startsWith := v },
    .optionalText "suffix" fun s v => { s with endsWith := v },
    .optionalText "contains" fun s v => { s with contains := v },
    .optionalText "safe_regex" fun s v => { s with pattern := v },
    .bool "ignore_case" fun s v => { s with ignoreCase := v }]

def TextSpec.ofJson (levels : Nat) : Json → Json.Result TextSpec :=
  TextSpec.shape.read levels {}

/-- How a range is written. -/
def RangeSpec.shape : Shape RangeSpec where
  label := "struct RangeSpec"
  fields := [
    { name := "start", required := true
      read := fun json s => do return { s with first := ← readInt64 json } },
    { name := "end", required := true
      read := fun json s => do return { s with last := ← readInt64 json } }]

def RangeSpec.ofJson (levels : Nat) : Json → Json.Result RangeSpec :=
  RangeSpec.shape.read levels ⟨0, 0⟩

/-- How a test of a header is written, in a place that leaves some levels for its range. -/
def HeaderSpec.shape (levels : Nat) : Shape HeaderSpec where
  label := "struct HeaderMatchSpec"
  fields := [
    { name := "name", required := true
      read := fun json s => do return { s with name := ← readText json } },
    .optionalText "exact_match" fun s v => { s with exact := v },
    .optionalText "safe_regex_match" fun s v => { s with pattern := v },
    { name := "range_match"
      read := fun json s => do
        return { s with range := ← readOptional (RangeSpec.ofJson levels) json } },
    { name := "present_match"
      read := fun json s => do return { s with present := ← readOptional readBool json } },
    .optionalText "prefix_match" fun s v => { s with startsWith := v },
    .optionalText "suffix_match" fun s v => { s with endsWith := v },
    .bool "invert_match" fun s v => { s with inverted := v }]

def HeaderSpec.ofJson (levels : Nat) : Json → Json.Result HeaderSpec :=
  (HeaderSpec.shape (levels - 1)).read levels { name := "" }

/-- How a network is written. -/
def NetworkSpec.shape : Shape NetworkSpec where
  label := "struct CidrSpec"
  fields := [
    { name := "address_prefix", required := true
      read := fun json s => do return { s with address := ← readText json } },
    { name := "prefix_len", required := true
      read := fun json s => do return { s with length := (← readUInt32 json).toNat } }]

def NetworkSpec.ofJson (levels : Nat) : Json → Json.Result NetworkSpec :=
  NetworkSpec.shape.read levels ⟨"", 0⟩

/-! ## Rules -/

/-- The kinds of permission rules. -/
def PermissionRule.kinds : Alternatives :=
  [("any", .value), ("and_rules", .record), ("or_rules", .record), ("not_rule", .value),
    ("header", .value), ("url_path", .value), ("destination_ip", .value)]

/-- The record of a compound rule: its list of rules. -/
def compoundShape {α : Type} (label field : String) (read : Json → Json.Result (List α)) :
    Shape (List α) where
  label
  fields := [{ name := field, required := true, read := fun json _ => read json }]
  strict := false

mutual

/-- Reads a permission rule that may nest some levels. -/
def PermissionRule.ofJson : Nat → Json → Json.Result PermissionRule
  | 0, json => readChoice kinds 0 (fun _ _ => .error .malformed) json
  | levels + 1, json => readChoice kinds (levels + 1) (fun kind content => match kind with
      | "any" => do return .any (← readBool content)
      | "and_rules" => do
        return .allOf (← compoundOfJson "struct variant PermissionConfig::AndRules" levels content)
      | "or_rules" => do
        return .anyOf (← compoundOfJson "struct variant PermissionConfig::OrRules" levels content)
      | "not_rule" => do return .not (← PermissionRule.ofJson levels content)
      | "header" => do return .header (← HeaderSpec.ofJson levels content)
      | "url_path" => do return .path (← TextSpec.ofJson levels content)
      | _ => do return .destination (← NetworkSpec.ofJson levels content)) json

/-- Reads the record of a compound permission rule. -/
def PermissionRule.compoundOfJson (label : String) :
    Nat → Json → Json.Result (List PermissionRule)
  | 0, json => (compoundShape label "rules" fun _ => .error .malformed).read 0 [] json
  | levels + 1, json =>
    (compoundShape label "rules" (PermissionRule.listOfJson levels)).read (levels + 1) [] json

/-- Reads a list of permission rules. -/
def PermissionRule.listOfJson : Nat → Json → Json.Result (List PermissionRule)
  | 0, json => readList 0 (fun _ => .error .malformed) json
  | levels + 1, json => readList (levels + 1) (PermissionRule.ofJson levels) json

end

/-- The kinds of principal rules. -/
def PrincipalRule.kinds : Alternatives :=
  [("any", .value), ("and_ids", .record), ("or_ids", .record), ("not_id", .value),
    ("authenticated", .record), ("source_ip", .value), ("header", .value), ("url_path", .value)]

/-- The record of the rule on authentication, in a place that leaves some levels for the name. -/
def authenticatedShape (levels : Nat) : Shape (Option TextSpec) where
  label := "struct variant PrincipalConfig::Authenticated"
  fields := [{ name := "principal_name"
               read := fun json _ => readOptional (TextSpec.ofJson levels) json }]
  strict := false

mutual

/-- Reads a principal rule that may nest some levels. -/
def PrincipalRule.ofJson : Nat → Json → Json.Result PrincipalRule
  | 0, json => readChoice kinds 0 (fun _ _ => .error .malformed) json
  | levels + 1, json => readChoice kinds (levels + 1) (fun kind content => match kind with
      | "any" => do return .any (← readBool content)
      | "and_ids" => do
        return .allOf (← compoundOfJson "struct variant PrincipalConfig::AndIds" levels content)
      | "or_ids" => do
        return .anyOf (← compoundOfJson "struct variant PrincipalConfig::OrIds" levels content)
      | "not_id" => do return .not (← PrincipalRule.ofJson levels content)
      | "authenticated" => do
        return .authenticated (← (authenticatedShape (levels - 1)).read levels none content)
      | "source_ip" => do return .source (← NetworkSpec.ofJson levels content)
      | "header" => do return .header (← HeaderSpec.ofJson levels content)
      | _ => do return .path (← TextSpec.ofJson levels content)) json

/-- Reads the record of a compound principal rule. -/
def PrincipalRule.compoundOfJson (label : String) :
    Nat → Json → Json.Result (List PrincipalRule)
  | 0, json => (compoundShape label "ids" fun _ => .error .malformed).read 0 [] json
  | levels + 1, json =>
    (compoundShape label "ids" (PrincipalRule.listOfJson levels)).read (levels + 1) [] json

/-- Reads a list of principal rules. -/
def PrincipalRule.listOfJson : Nat → Json → Json.Result (List PrincipalRule)
  | 0, json => readList 0 (fun _ => .error .malformed) json
  | levels + 1, json => readList (levels + 1) (PrincipalRule.ofJson levels) json

end

/-! ## Documents -/

/-- How the rules of a policy are written, in a place that leaves some levels for the lists. -/
def PolicyRules.shape (levels : Nat) : Shape PolicyRules where
  label := "struct PolicyConfig"
  fields := [
    { name := "permissions"
      read := fun json s => do
        return { s with permissions := ← PermissionRule.listOfJson levels json } },
    { name := "principals"
      read := fun json s => do
        return { s with principals := ← PrincipalRule.listOfJson levels json } }]

def PolicyRules.ofJson (levels : Nat) : Json → Json.Result PolicyRules :=
  (PolicyRules.shape (levels - 1)).read levels {}

/-- Reads policies by name. Of two of one name the last one counts. -/
def PolicyRules.mapOfJson (levels : Nat) : Json → Json.Result (NameMap PolicyRules) :=
  readMap levels NameMap.empty fun map name json => do
    return map.insert name (← PolicyRules.ofJson (levels - 1) json)

/-- The words for actions and verdicts. -/
def actionWords : Alternatives :=
  [("ALLOW", .none), ("allow", .none), ("DENY", .none), ("deny", .none)]

/-- Reads a word for an action. -/
def Action.ofJson (levels : Nat) : Json → Json.Result Action :=
  readChoice actionWords levels fun word content => do
    readNothing content
    return if word = "ALLOW" || word = "allow" then .allow else .deny

/-- Reads a word for a verdict. -/
def Verdict.ofJson (levels : Nat) : Json → Json.Result Verdict :=
  readChoice actionWords levels fun word content => do
    readNothing content
    return if word = "ALLOW" || word = "allow" then .allow else .deny

/-- How a document is written, in a place that leaves some levels for its fields. -/
def Document.shape (levels : Nat) : Shape Document where
  label := "struct RbacConfig"
  fields := [
    { name := "action", required := true
      read := fun json s => do return { s with action := ← Action.ofJson levels json } },
    { name := "policies"
      read := fun json s => do
        return { s with policies := ← PolicyRules.mapOfJson levels json } }]

def Document.ofJson (levels : Nat) : Json → Json.Result Document :=
  (Document.shape (levels - 1)).read levels { action := .allow }

/-- Reads a document from JSON text. -/
def Document.ofJsonText : String → Json.Result Document :=
  readAll Document.ofJson

/-- How a fraction is written. -/
def Fraction.shape : Shape (UInt32 × UInt32) where
  label := "struct FractionConfig"
  fields := [
    { name := "numerator", required := true
      read := fun json s => do return (← readUInt32 json, s.2) },
    { name := "denominator", required := true
      read := fun json s => do return (s.1, ← readUInt32 json) }]

def Fraction.ofJson (levels : Nat) (json : Json) : Json.Result Fraction := do
  let (numerator, denominator) ← Fraction.shape.read levels (0, 0) json
  match Fraction.ofParts numerator denominator with
  | .ok fraction => return fraction
  | .error e => throw (.mismatch (.refused e))

end AccessPolicy
