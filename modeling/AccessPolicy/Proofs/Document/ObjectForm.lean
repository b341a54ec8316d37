import AccessPolicy.Proofs.Document.Form
import AccessPolicy.Proofs.Yaml.Fields

/-!
# Documents in object form

The forms of a document in which every record is an object, every rule an object of one key, every
action a word and every integer without leading zeros. These are among the forms of the document in
JSON.

Main results:

* `Document.writtenAs_of_objectForm` — object forms are forms.
-/

namespace AccessPolicy

open Json

/-! ## Specifications -/

def TextSpec.ObjectForm (spec : TextSpec) : Json → Prop :=
  ObjectOf spec.forms

def RangeSpec.objectForms (spec : RangeSpec) : List FieldForm :=
  [.always "start" fun json => Text.fitsInt64 spec.first ∧ json = .integer spec.first,
    .always "end" fun json => Text.fitsInt64 spec.last ∧ json = .integer spec.last]

def RangeSpec.ObjectForm (spec : RangeSpec) : Json → Prop :=
  ObjectOf spec.objectForms

def HeaderSpec.objectForms (spec : HeaderSpec) : List FieldForm :=
  [.always "name" (WritesText spec.name), .optional "exact_match" WritesText spec.exact,
    .optional "safe_regex_match" WritesText spec.pattern,
    .optional "range_match" RangeSpec.ObjectForm spec.range,
    .optional "present_match" WritesBool spec.present,
    .optional "prefix_match" WritesText spec.startsWith,
    .optional "suffix_match" WritesText spec.endsWith,
    .default "invert_match" WritesBool false spec.inverted]

def HeaderSpec.ObjectForm (spec : HeaderSpec) : Json → Prop :=
  ObjectOf spec.objectForms

def NetworkSpec.objectForms (spec : NetworkSpec) : List FieldForm :=
  [.always "address_prefix" (WritesText spec.address),
    .always "prefix_len" fun json => spec.length ≤ 0xFFFFFFFF ∧ json = .integer spec.length]

def NetworkSpec.ObjectForm (spec : NetworkSpec) : Json → Prop :=
  ObjectOf spec.objectForms

/-! ## Rules -/

mutual

/-- The objects that write a permission rule. -/
def PermissionRule.ObjectForm : PermissionRule → Json → Prop
  | .any flag => Tagged "any" (WritesBool flag)
  | .allOf rules =>
    Tagged "and_rules" (ObjectOf [.always "rules" (PermissionRule.ListObjectForm rules)])
  | .anyOf rules =>
    Tagged "or_rules" (ObjectOf [.always "rules" (PermissionRule.ListObjectForm rules)])
  | .not rule => Tagged "not_rule" rule.ObjectForm
  | .header spec => Tagged "header" spec.ObjectForm
  | .path spec => Tagged "url_path" spec.ObjectForm
  | .destination spec => Tagged "destination_ip" spec.ObjectForm

/-- The arrays of objects that write a list of permission rules. -/
def PermissionRule.ListObjectForm : List PermissionRule → Json → Prop
  | [], json => json = .array []
  | rule :: rest, json => ∃ item items, json = .array (item :: items) ∧ rule.ObjectForm item ∧
    PermissionRule.ListObjectForm rest (.array items)

end

mutual

/-- The objects that write a principal rule. -/
def PrincipalRule.ObjectForm : PrincipalRule → Json → Prop
  | .any flag => Tagged "any" (WritesBool flag)
  | .allOf rules =>
    Tagged "and_ids" (ObjectOf [.always "ids" (PrincipalRule.ListObjectForm rules)])
  | .anyOf rules =>
    Tagged "or_ids" (ObjectOf [.always "ids" (PrincipalRule.ListObjectForm rules)])
  | .not rule => Tagged "not_id" rule.ObjectForm
  | .authenticated name =>
    Tagged "authenticated" (ObjectOf [.optional "principal_name" TextSpec.ObjectForm name])
  | .source spec => Tagged "source_ip" spec.ObjectForm
  | .header spec => Tagged "header" spec.ObjectForm
  | .path spec => Tagged "url_path" spec.ObjectForm

/-- The arrays of objects that write a list of principal rules. -/
def PrincipalRule.ListObjectForm : List PrincipalRule → Json → Prop
  | [], json => json = .array []
  | rule :: rest, json => ∃ item items, json = .array (item :: items) ∧ rule.ObjectForm item ∧
    PrincipalRule.ListObjectForm rest (.array items)

end

/-! ## Documents -/

def PolicyRules.objectForms (rules : PolicyRules) : List FieldForm :=
  [.default "permissions" PermissionRule.ListObjectForm [] rules.permissions,
    .default "principals" PrincipalRule.ListObjectForm [] rules.principals]

def PolicyRules.ObjectForm (rules : PolicyRules) : Json → Prop :=
  ObjectOf rules.objectForms

/-- An action is written as a word. -/
def Action.WritesWord (action : Action) (json : Json) : Prop :=
  ∃ word ∈ action.words, json = .string (some word)

def Document.objectForms (document : Document) : List FieldForm :=
  [.always "action" document.action.WritesWord,
    .default "policies" (NameMap.WrittenAs PolicyRules.ObjectForm) .empty document.policies]

/-- The object form of a document. -/
def Document.ObjectForm (document : Document) : Json → Prop :=
  ObjectOf document.objectForms

/-! ## Object forms among all forms -/

theorem narrows_always {name : String} {P Q : Json → Prop} (h : ∀ json, P json → Q json) :
    (FieldForm.always name P).Narrows (.always name Q) :=
  ⟨rfl, h, id⟩

theorem narrows_optional {α : Type} {name : String} {P Q : α → Json → Prop}
    (h : ∀ a json, P a json → Q a json) (value : Option α) :
    (FieldForm.optional name P value).Narrows (.optional name Q value) := by
  refine ⟨rfl, fun json hjson => ?_, id⟩
  cases value with
  | none => exact hjson
  | some a => exact h a json hjson

theorem narrows_default {α : Type} {name : String} {P Q : α → Json → Prop} {blank value : α}
    (h : ∀ json, P value json → Q value json) :
    (FieldForm.default name P blank value).Narrows (.default name Q blank value) :=
  ⟨rfl, h, id⟩

theorem TextSpec.writtenAs_of_objectForm {spec : TextSpec} {json : Json}
    (h : spec.ObjectForm json) : spec.WrittenAs json :=
  h.recordOf (List.forall₂_same.mpr fun form _ => .refl form)

theorem RangeSpec.writtenAs_of_objectForm {spec : RangeSpec} {json : Json}
    (h : spec.ObjectForm json) : spec.WrittenAs json := by
  have hint (n : Int) (json : Json) (h : Text.fitsInt64 n ∧ json = .integer n) :
      WritesInt64 n json := by
    obtain ⟨hfits, rfl⟩ := h
    exact ⟨hfits, writesInteger_integer n⟩
  exact h.recordOf (.cons (narrows_always (hint _)) (.cons (narrows_always (hint _)) .nil))

theorem HeaderSpec.writtenAs_of_objectForm {spec : HeaderSpec} {json : Json}
    (h : spec.ObjectForm json) : spec.WrittenAs json := by
  -- all fields are the same but the range, whose integers have no fraction or exponent
  refine h.recordOf (.cons (.refl _) <| .cons (.refl _) <| .cons (.refl _) <| .cons ?_ <|
    .cons (.refl _) <| .cons (.refl _) <| .cons (.refl _) <| .cons (.refl _) .nil)
  exact narrows_optional (fun _ _ => RangeSpec.writtenAs_of_objectForm) spec.range

theorem NetworkSpec.writtenAs_of_objectForm {spec : NetworkSpec} {json : Json}
    (h : spec.ObjectForm json) : spec.WrittenAs json := by
  have hint (json : Json) (h : spec.length ≤ 0xFFFFFFFF ∧ json = .integer spec.length) :
      WritesUInt32 spec.length json := by
    obtain ⟨hfits, rfl⟩ := h
    exact ⟨hfits, writesInteger_integer spec.length⟩
  exact h.recordOf (.cons (.refl _) (.cons (narrows_always hint) .nil))

mutual

theorem PermissionRule.writtenAs_of_objectForm (rule : PermissionRule) {json : Json}
    (h : rule.ObjectForm json) : rule.WrittenAs json := by
  match rule with
  | .any flag => exact h
  | .allOf rules | .anyOf rules =>
    refine Tagged.imp h fun content hcontent => hcontent.recordOf (.cons (narrows_always ?_) .nil)
    exact fun json => PermissionRule.listWrittenAs_of_objectForm rules
  | .not inner => exact Tagged.imp h fun content => PermissionRule.writtenAs_of_objectForm inner
  | .header spec => exact Tagged.imp h fun content => HeaderSpec.writtenAs_of_objectForm
  | .path spec => exact Tagged.imp h fun content => TextSpec.writtenAs_of_objectForm
  | .destination spec => exact Tagged.imp h fun content => NetworkSpec.writtenAs_of_objectForm

theorem PermissionRule.listWrittenAs_of_objectForm (rules : List PermissionRule) {json : Json}
    (h : PermissionRule.ListObjectForm rules json) : PermissionRule.ListWrittenAs rules json := by
  match rules with
  | [] => exact h
  | rule :: rest =>
    obtain ⟨item, items, rfl, hitem, hitems⟩ := h
    exact ⟨item, items, rfl, PermissionRule.writtenAs_of_objectForm rule hitem,
      PermissionRule.listWrittenAs_of_objectForm rest hitems⟩

end

mutual

theorem PrincipalRule.writtenAs_of_objectForm (rule : PrincipalRule) {json : Json}
    (h : rule.ObjectForm json) : rule.WrittenAs json := by
  match rule with
  | .any flag => exact h
  | .allOf rules | .anyOf rules =>
    refine Tagged.imp h fun content hcontent => hcontent.recordOf (.cons (narrows_always ?_) .nil)
    exact fun json => PrincipalRule.listWrittenAs_of_objectForm rules
  | .not inner => exact Tagged.imp h fun content => PrincipalRule.writtenAs_of_objectForm inner
  | .authenticated name =>
    refine Tagged.imp h fun content hcontent => hcontent.recordOf (.cons ?_ .nil)
    exact narrows_optional (fun _ _ => TextSpec.writtenAs_of_objectForm) name
  | .source spec => exact Tagged.imp h fun content => NetworkSpec.writtenAs_of_objectForm
  | .header spec => exact Tagged.imp h fun content => HeaderSpec.writtenAs_of_objectForm
  | .path spec => exact Tagged.imp h fun content => TextSpec.writtenAs_of_objectForm

theorem PrincipalRule.listWrittenAs_of_objectForm (rules : List PrincipalRule) {json : Json}
    (h : PrincipalRule.ListObjectForm rules json) : PrincipalRule.ListWrittenAs rules json := by
  match rules with
  | [] => exact h
  | rule :: rest =>
    obtain ⟨item, items, rfl, hitem, hitems⟩ := h
    exact ⟨item, items, rfl, PrincipalRule.writtenAs_of_objectForm rule hitem,
      PrincipalRule.listWrittenAs_of_objectForm rest hitems⟩

end

theorem PolicyRules.writtenAs_of_objectForm {rules : PolicyRules} {json : Json}
    (h : rules.ObjectForm json) : rules.WrittenAs json :=
  h.recordOf (.cons (narrows_default fun _ => PermissionRule.listWrittenAs_of_objectForm _)
    (.cons (narrows_default fun _ => PrincipalRule.listWrittenAs_of_objectForm _) .nil))

theorem NameMap.WrittenAs.imp {α : Type} {P Q : α → Json → Prop} {map : NameMap α} {json : Json}
    (h : map.WrittenAs P json) (himp : ∀ a json, P a json → Q a json) : map.WrittenAs Q json := by
  obtain ⟨entries, members, hperm, hmembers, rfl⟩ := h
  refine ⟨entries, members, hperm, hmembers.imp ?_, rfl⟩
  rintro ⟨name, a⟩ ⟨key, value⟩ ⟨hkey, hvalue⟩
  exact ⟨hkey, himp a value hvalue⟩

theorem Document.writtenAs_of_objectForm {document : Document} {json : Json}
    (h : document.ObjectForm json) : document.WrittenAs json := by
  refine h.recordOf (.cons (narrows_always ?_) (.cons (narrows_default ?_) .nil))
  · -- a word is one of the two ways to write an action
    rintro json ⟨word, hword, rfl⟩
    exact ⟨word, hword, .inl rfl⟩
  · exact fun json hjson => hjson.imp fun _ _ => PolicyRules.writtenAs_of_objectForm

end AccessPolicy
