import AccessPolicy.Document.OfYaml
import AccessPolicy.Proofs.Document.ObjectForm
import AccessPolicy.Proofs.Document.Written

/-!
# Object forms in YAML

What the readers of YAML make of the object form of a specification, a rule, a policy or a document.
Levels are counted as for JSON: a rule takes up at most three of them for each level of its own
outline.

Main results:

* `PermissionRule.ofYaml_of_objectForm`, `PrincipalRule.ofYaml_of_objectForm` — rules, and how many
  levels they need;
* `Document.ofYaml_of_objectForm` — documents whose rules respect the limit on depth.
-/

namespace AccessPolicy

open Json Yaml

theorem optionalText_of_writes (s : String) (json : Json) (h : WritesText s json) :
    json.asYaml.text? = some s ∧ json.asYaml.isNull = false := by
  refine ⟨text?_of_writes h, ?_⟩
  obtain rfl := h
  rfl

theorem optionalBool_of_writes (b : Bool) (json : Json) (h : WritesBool b json) :
    json.asYaml.bool? = some b ∧ json.asYaml.isNull = false := by
  refine ⟨bool?_of_writes h, ?_⟩
  obtain rfl := h
  cases b <;> rfl

/-- A record is never taken for nothing. -/
theorem isNull_of_objectOf {forms : List FieldForm} {json : Json} (h : ObjectOf forms json) :
    json.asYaml.isNull = false := by
  obtain ⟨members, -, rfl⟩ := h
  rfl

/-! ## Specifications -/

theorem TextSpec.ofYaml_of_objectForm {spec : TextSpec} {json : Json} (h : spec.ObjectForm json)
    {levels : Nat} (hlevels : levels ≠ 0) : TextSpec.ofYaml levels json.asYaml = some spec := by
  obtain ⟨members, hmembers, rfl⟩ := h
  have hforms : (spec.forms.map FieldForm.name).Nodup := by
    simp [forms, FieldForm.optional, FieldForm.default]
  have hfields : (ofMembers members).asYaml.fields? levels
      ["exact", "prefix", "suffix", "contains", "safe_regex", "ignore_case"] true =
        some (fieldsOf members) := fields?_ofMembers hmembers rfl hlevels true
  have htext (name : String) (value : Option String)
      (hform : .optional name WritesText value ∈ spec.forms) :
      (fieldsOf members).optional name Yaml.text? = some value :=
    optional_of_members hmembers hforms hform optionalText_of_writes
  have hcase : (fieldsOf members).withDefault "ignore_case" false Yaml.bool? =
      some spec.ignoreCase :=
    withDefault_of_members hmembers hforms (P := WritesBool) (by simp [forms])
      fun _ => bool?_of_writes
  rw [TextSpec.ofYaml, hfields]
  simp only [Option.bind_eq_bind, Option.bind_some, hcase,
    htext "exact" spec.exact (by simp [forms]), htext "prefix" spec.startsWith (by simp [forms]),
    htext "suffix" spec.endsWith (by simp [forms]),
    htext "contains" spec.contains (by simp [forms]),
    htext "safe_regex" spec.pattern (by simp [forms])]
  rfl

theorem RangeSpec.ofYaml_of_objectForm {spec : RangeSpec} {json : Json} (h : spec.ObjectForm json)
    {levels : Nat} (hlevels : levels ≠ 0) : RangeSpec.ofYaml levels json.asYaml = some spec := by
  obtain ⟨members, hmembers, rfl⟩ := h
  have hforms : (spec.objectForms.map FieldForm.name).Nodup := by
    simp [objectForms, FieldForm.always]
  have hfields : (ofMembers members).asYaml.fields? levels ["start", "end"] true =
      some (fieldsOf members) := fields?_ofMembers hmembers rfl hlevels true
  have hint (name : String) (n : Int)
      (hform : .always name (fun json => Text.fitsInt64 n ∧ json = .integer n) ∈ spec.objectForms) :
      (fieldsOf members).required name Yaml.int64? = some n := by
    refine required_of_members hmembers hforms hform ?_
    rintro json ⟨hfits, rfl⟩
    exact int64?_integer hfits
  rw [RangeSpec.ofYaml, hfields]
  simp only [Option.bind_eq_bind, Option.bind_some,
    hint "start" spec.first (by simp [objectForms]), hint "end" spec.last (by simp [objectForms])]
  rfl

/-- A test of a header needs one more level than its range. -/
theorem HeaderSpec.ofYaml_of_objectForm {spec : HeaderSpec} {json : Json} (h : spec.ObjectForm json)
    {levels : Nat} (hlevels : 2 ≤ levels) : HeaderSpec.ofYaml levels json.asYaml = some spec := by
  obtain ⟨members, hmembers, rfl⟩ := h
  have hforms : (spec.objectForms.map FieldForm.name).Nodup := by
    simp [objectForms, FieldForm.always, FieldForm.optional, FieldForm.default]
  have hfields : (ofMembers members).asYaml.fields? levels
      ["name", "exact_match", "safe_regex_match", "range_match", "present_match", "prefix_match",
        "suffix_match", "invert_match"] true = some (fieldsOf members) :=
    fields?_ofMembers hmembers rfl (by omega) true
  have hname : (fieldsOf members).required "name" Yaml.text? = some spec.name :=
    required_of_members hmembers hforms (P := WritesText spec.name) (by simp [objectForms])
      fun _ => text?_of_writes
  have htext (name : String) (value : Option String)
      (hform : .optional name WritesText value ∈ spec.objectForms) :
      (fieldsOf members).optional name Yaml.text? = some value :=
    optional_of_members hmembers hforms hform optionalText_of_writes
  have hrange : (fieldsOf members).optional "range_match" (RangeSpec.ofYaml (levels - 1)) =
      some spec.range :=
    optional_of_members hmembers hforms (P := RangeSpec.ObjectForm) (by simp [objectForms])
      fun _ _ hjson =>
        ⟨RangeSpec.ofYaml_of_objectForm hjson (by omega), isNull_of_objectOf hjson⟩
  have hpresent : (fieldsOf members).optional "present_match" Yaml.bool? = some spec.present :=
    optional_of_members hmembers hforms (P := WritesBool) (by simp [objectForms])
      optionalBool_of_writes
  have hinverted : (fieldsOf members).withDefault "invert_match" false Yaml.bool? =
      some spec.inverted :=
    withDefault_of_members hmembers hforms (P := WritesBool) (by simp [objectForms])
      fun _ => bool?_of_writes
  rw [HeaderSpec.ofYaml, hfields]
  simp only [Option.bind_eq_bind, Option.bind_some, hname, hrange, hpresent, hinverted,
    htext "exact_match" spec.exact (by simp [objectForms]),
    htext "safe_regex_match" spec.pattern (by simp [objectForms]),
    htext "prefix_match" spec.startsWith (by simp [objectForms]),
    htext "suffix_match" spec.endsWith (by simp [objectForms])]
  rfl

theorem NetworkSpec.ofYaml_of_objectForm {spec : NetworkSpec} {json : Json}
    (h : spec.ObjectForm json) {levels : Nat} (hlevels : levels ≠ 0) :
    NetworkSpec.ofYaml levels json.asYaml = some spec := by
  obtain ⟨members, hmembers, rfl⟩ := h
  have hforms : (spec.objectForms.map FieldForm.name).Nodup := by
    simp [objectForms, FieldForm.always]
  have hfields : (ofMembers members).asYaml.fields? levels ["address_prefix", "prefix_len"] true =
      some (fieldsOf members) := fields?_ofMembers hmembers rfl hlevels true
  have haddress : (fieldsOf members).required "address_prefix" Yaml.text? = some spec.address :=
    required_of_members hmembers hforms (P := WritesText spec.address) (by simp [objectForms])
      fun _ => text?_of_writes
  have hlength : (fieldsOf members).required "prefix_len" Yaml.uint32? = some spec.length := by
    refine required_of_members hmembers hforms
      (P := fun json => spec.length ≤ 0xFFFFFFFF ∧ json = .integer spec.length)
      (by simp [objectForms]) ?_
    rintro json ⟨hfits, rfl⟩
    exact uint32?_integer hfits
  rw [NetworkSpec.ofYaml, hfields]
  simp only [Option.bind_eq_bind, Option.bind_some, haddress, hlength]
  rfl

/-! ## Rules -/

/-- A record of one field that must be there. -/
theorem required_of_objectOf {α : Type} {name : String} {P : Json → Prop} {read : Yaml → Option α}
    {value : α} {json : Json} (h : ObjectOf [.always name P] json)
    (hread : ∀ json, P json → read json.asYaml = some value) {levels : Nat} (hlevels : levels ≠ 0) :
    ∃ fields, json.asYaml.fields? levels [name] false = some fields ∧
      fields.required name read = some value := by
  obtain ⟨members, hmembers, rfl⟩ := h
  exact ⟨fieldsOf members, fields?_ofMembers hmembers rfl hlevels false,
    required_of_members hmembers (List.nodup_singleton _) List.mem_cons_self hread⟩

theorem PermissionRule.compoundOfYaml_of_list {rules : List PermissionRule} {levels : Nat}
    (hlist : ∀ json, PermissionRule.ListObjectForm rules json →
      PermissionRule.listOfYaml (levels + 1) json.asYaml = some rules) {json : Json}
    (h : ObjectOf [.always "rules" (PermissionRule.ListObjectForm rules)] json) :
    PermissionRule.compoundOfYaml (levels + 2) json.asYaml = some rules := by
  obtain ⟨fields, hfields, hrequired⟩ :=
    required_of_objectOf h hlist (Nat.succ_ne_zero (levels + 1))
  rw [PermissionRule.compoundOfYaml, hfields]
  exact hrequired

mutual

/-- A permission rule is read where three levels are left for each level of the rule: a compound
takes up one itself, one for its record and one for its list. -/
theorem PermissionRule.ofYaml_of_objectForm (rule : PermissionRule) {json : Json} {levels : Nat}
    (h : rule.ObjectForm json) (hlevels : 3 * rule.outline.height ≤ levels) :
    PermissionRule.ofYaml levels json.asYaml = some rule := by
  -- every rule has a level of its own, so there are three levels at least
  obtain ⟨n, rfl⟩ : ∃ n, levels = n + 3 := by
    have hpos := rule.outline.height_pos
    exact ⟨levels - 3, by omega⟩
  rw [PermissionRule.ofYaml]
  match rule with
  | .any flag =>
    obtain ⟨content, hcontent, hchoice⟩ := choice?_of_tagged h (Nat.succ_ne_zero (n + 2))
    simp [hchoice, bool?_of_writes hcontent]
  | .allOf rules | .anyOf rules =>
    obtain ⟨content, hcontent, hchoice⟩ := choice?_of_tagged h (Nat.succ_ne_zero (n + 2))
    rw [outline, Outline.height] at hlevels
    have hlist : ∀ json, PermissionRule.ListObjectForm rules json →
        PermissionRule.listOfYaml (n + 1) json.asYaml = some rules := fun json hjson =>
      PermissionRule.listOfYaml_of_objectForm rules hjson (by omega)
    simp [hchoice, PermissionRule.compoundOfYaml_of_list hlist hcontent]
  | .not inner =>
    -- the negated rule stands right under the key
    obtain ⟨content, hcontent, hchoice⟩ := choice?_of_tagged h (Nat.succ_ne_zero (n + 2))
    rw [outline, Outline.height] at hlevels
    have hlevels : 3 * inner.outline.height ≤ n + 2 := by omega
    simp [hchoice, PermissionRule.ofYaml_of_objectForm inner hcontent hlevels]
  | .header spec =>
    obtain ⟨content, hcontent, hchoice⟩ := choice?_of_tagged h (Nat.succ_ne_zero (n + 2))
    have hread := HeaderSpec.ofYaml_of_objectForm hcontent (show 2 ≤ n + 2 by omega)
    simp [hchoice, hread]
  | .path spec =>
    obtain ⟨content, hcontent, hchoice⟩ := choice?_of_tagged h (Nat.succ_ne_zero (n + 2))
    have hread := TextSpec.ofYaml_of_objectForm hcontent (show n + 2 ≠ 0 by omega)
    simp [hchoice, hread]
  | .destination spec =>
    obtain ⟨content, hcontent, hchoice⟩ := choice?_of_tagged h (Nat.succ_ne_zero (n + 2))
    have hread := NetworkSpec.ofYaml_of_objectForm hcontent (show n + 2 ≠ 0 by omega)
    simp [hchoice, hread]

theorem PermissionRule.listOfYaml_of_objectForm (rules : List PermissionRule) {json : Json}
    {levels : Nat} (h : PermissionRule.ListObjectForm rules json)
    (hlevels : 3 * Outline.highest (outlines rules) ≤ levels) :
    PermissionRule.listOfYaml (levels + 1) json.asYaml = some rules := by
  rw [PermissionRule.listOfYaml]
  match rules with
  | [] =>
    obtain rfl := h
    exact list?_nil (by omega)
  | rule :: rest =>
    obtain ⟨item, items, rfl, hitem, hitems⟩ := h
    rw [outlines, Outline.highest] at hlevels
    have hrest := PermissionRule.listOfYaml_of_objectForm rest hitems
      (show 3 * Outline.highest (outlines rest) ≤ levels by omega)
    rw [PermissionRule.listOfYaml] at hrest
    exact list?_cons (PermissionRule.ofYaml_of_objectForm rule hitem (by omega)) hrest

end

theorem PrincipalRule.compoundOfYaml_of_list {rules : List PrincipalRule} {levels : Nat}
    (hlist : ∀ json, PrincipalRule.ListObjectForm rules json →
      PrincipalRule.listOfYaml (levels + 1) json.asYaml = some rules) {json : Json}
    (h : ObjectOf [.always "ids" (PrincipalRule.ListObjectForm rules)] json) :
    PrincipalRule.compoundOfYaml (levels + 2) json.asYaml = some rules := by
  obtain ⟨fields, hfields, hrequired⟩ :=
    required_of_objectOf h hlist (Nat.succ_ne_zero (levels + 1))
  rw [PrincipalRule.compoundOfYaml, hfields]
  exact hrequired

mutual

/-- A principal rule takes up as many levels as a permission rule of the same outline. -/
theorem PrincipalRule.ofYaml_of_objectForm (rule : PrincipalRule) {json : Json} {levels : Nat}
    (h : rule.ObjectForm json) (hlevels : 3 * rule.outline.height ≤ levels) :
    PrincipalRule.ofYaml levels json.asYaml = some rule := by
  -- every rule has a level of its own, so there are three levels at least
  obtain ⟨n, rfl⟩ : ∃ n, levels = n + 3 := by
    have hpos := rule.outline.height_pos
    exact ⟨levels - 3, by omega⟩
  rw [PrincipalRule.ofYaml]
  match rule with
  | .any flag =>
    obtain ⟨content, hcontent, hchoice⟩ := choice?_of_tagged h (Nat.succ_ne_zero (n + 2))
    simp [hchoice, bool?_of_writes hcontent]
  | .allOf rules | .anyOf rules =>
    obtain ⟨content, hcontent, hchoice⟩ := choice?_of_tagged h (Nat.succ_ne_zero (n + 2))
    rw [outline, Outline.height] at hlevels
    have hlist : ∀ json, PrincipalRule.ListObjectForm rules json →
        PrincipalRule.listOfYaml (n + 1) json.asYaml = some rules := fun json hjson =>
      PrincipalRule.listOfYaml_of_objectForm rules hjson (by omega)
    simp [hchoice, PrincipalRule.compoundOfYaml_of_list hlist hcontent]
  | .not inner =>
    -- the negated rule stands right under the key
    obtain ⟨content, hcontent, hchoice⟩ := choice?_of_tagged h (Nat.succ_ne_zero (n + 2))
    rw [outline, Outline.height] at hlevels
    have hlevels : 3 * inner.outline.height ≤ n + 2 := by omega
    simp [hchoice, PrincipalRule.ofYaml_of_objectForm inner hcontent hlevels]
  | .header spec =>
    obtain ⟨content, hcontent, hchoice⟩ := choice?_of_tagged h (Nat.succ_ne_zero (n + 2))
    have hread := HeaderSpec.ofYaml_of_objectForm hcontent (show 2 ≤ n + 2 by omega)
    simp [hchoice, hread]
  | .path spec =>
    obtain ⟨content, hcontent, hchoice⟩ := choice?_of_tagged h (Nat.succ_ne_zero (n + 2))
    have hread := TextSpec.ofYaml_of_objectForm hcontent (show n + 2 ≠ 0 by omega)
    simp [hchoice, hread]
  | .authenticated name =>
    obtain ⟨content, hcontent, hchoice⟩ := choice?_of_tagged h (Nat.succ_ne_zero (n + 2))
    obtain ⟨members, hmembers, rfl⟩ := hcontent
    have hfields := fields?_ofMembers hmembers rfl (show n + 2 ≠ 0 by omega) false
    have hname :
        (fieldsOf members).optional "principal_name" (TextSpec.ofYaml (n + 1)) = some name :=
      optional_of_members hmembers (List.nodup_singleton _) List.mem_cons_self fun _ _ hjson =>
        ⟨TextSpec.ofYaml_of_objectForm hjson (Nat.succ_ne_zero n), isNull_of_objectOf hjson⟩
    simp only [List.map_cons, List.map_nil, FieldForm.optional] at hfields
    simp [hchoice, hfields, hname]
  | .source spec =>
    obtain ⟨content, hcontent, hchoice⟩ := choice?_of_tagged h (Nat.succ_ne_zero (n + 2))
    have hread := NetworkSpec.ofYaml_of_objectForm hcontent (show n + 2 ≠ 0 by omega)
    simp [hchoice, hread]

theorem PrincipalRule.listOfYaml_of_objectForm (rules : List PrincipalRule) {json : Json}
    {levels : Nat} (h : PrincipalRule.ListObjectForm rules json)
    (hlevels : 3 * Outline.highest (outlines rules) ≤ levels) :
    PrincipalRule.listOfYaml (levels + 1) json.asYaml = some rules := by
  rw [PrincipalRule.listOfYaml]
  match rules with
  | [] =>
    obtain rfl := h
    exact list?_nil (by omega)
  | rule :: rest =>
    obtain ⟨item, items, rfl, hitem, hitems⟩ := h
    rw [outlines, Outline.highest] at hlevels
    have hrest := PrincipalRule.listOfYaml_of_objectForm rest hitems
      (show 3 * Outline.highest (outlines rest) ≤ levels by omega)
    rw [PrincipalRule.listOfYaml] at hrest
    exact list?_cons (PrincipalRule.ofYaml_of_objectForm rule hitem (by omega)) hrest

end

/-! ## Policies and documents -/

theorem PolicyRules.ofYaml_of_objectForm {rules : PolicyRules} (hdepth : rules.RespectsDepth)
    {json : Json} (h : rules.ObjectForm json) {levels : Nat} (hlevels : 3 * maxDepth + 2 ≤ levels) :
    PolicyRules.ofYaml levels json.asYaml = some rules := by
  obtain ⟨n, hn⟩ : ∃ n, levels - 1 = n + 1 := ⟨levels - 2, by omega⟩
  obtain ⟨members, hmembers, rfl⟩ := h
  have hforms : (rules.objectForms.map FieldForm.name).Nodup := by
    simp [objectForms, FieldForm.default]
  have hfields : (ofMembers members).asYaml.fields? levels ["permissions", "principals"] true =
      some (fieldsOf members) := fields?_ofMembers hmembers rfl (by omega) true
  -- the record and the list take up a level each, and the rules have the rest
  have hpermissions : (fieldsOf members).withDefault "permissions" []
      (PermissionRule.listOfYaml (n + 1)) = some rules.permissions := by
    have hheight := Outline.highest_le_iff.mpr hdepth.permissions
    exact withDefault_of_members hmembers hforms (P := PermissionRule.ListObjectForm)
      (by simp [objectForms]) fun json hjson =>
        PermissionRule.listOfYaml_of_objectForm _ hjson (by omega)
  have hprincipals : (fieldsOf members).withDefault "principals" []
      (PrincipalRule.listOfYaml (n + 1)) = some rules.principals := by
    have hheight := Outline.highest_le_iff.mpr hdepth.principals
    exact withDefault_of_members hmembers hforms (P := PrincipalRule.ListObjectForm)
      (by simp [objectForms]) fun json hjson =>
        PrincipalRule.listOfYaml_of_objectForm _ hjson (by omega)
  rw [PolicyRules.ofYaml, hfields, hn]
  simp only [Option.bind_eq_bind, Option.bind_some, hpermissions, hprincipals]
  rfl

/-- What writes a map has a member for each entry, with the name of the entry. -/
theorem exists_members_of_writtenAs {α : Type} {P : α → Json → Prop} {map : NameMap α} {json : Json}
    (h : map.WrittenAs P json) :
    ∃ (entries : List (String × α)) (members : List (String × Json)), entries.Perm map.entries ∧
      List.Forall₂ (fun entry member => member.1 = entry.1 ∧ P entry.2 member.2) entries members ∧
      json = ofMembers members := by
  obtain ⟨entries, members, hperm, hmembers, rfl⟩ := h
  refine ⟨entries, ?_⟩
  suffices hnamed : ∃ named : List (String × Json),
      List.Forall₂ (fun entry member => member.1 = entry.1 ∧ P entry.2 member.2) entries named ∧
        members = named.map fun member => entry member.1 member.2 by
    obtain ⟨named, hnamed, rfl⟩ := hnamed
    exact ⟨named, hperm, hnamed, rfl⟩
  clear hperm
  induction hmembers with
  | nil => exact ⟨[], .nil, rfl⟩
  | @cons first member _ _ hhead _ ih =>
    obtain ⟨name, a⟩ := first
    obtain ⟨key, value⟩ := member
    obtain ⟨rfl, hvalue⟩ := hhead
    obtain ⟨named, hnamed, rfl⟩ := ih
    exact ⟨(name, value) :: named, .cons ⟨rfl, hvalue⟩ hnamed, rfl⟩

/-- Entries are read one by one, with the names that they have in JSON. -/
theorem map?_of_written {α : Type} {read : Yaml → Option α} {P : α → Json → Prop}
    {map : NameMap α} {json : Json} (h : map.WrittenAs P json)
    (hread : ∀ entry ∈ map.entries, ∀ json, P entry.2 json → read json.asYaml = some entry.2)
    {levels : Nat} (hlevels : levels ≠ 0) : json.asYaml.map? levels read = some map := by
  obtain ⟨entries, members, hperm, hmembers, rfl⟩ := exists_members_of_writtenAs h
  have hnames : (entries.map Prod.fst).Nodup := (hperm.map Prod.fst).nodup_iff.mpr map.nodup_names
  -- no name is repeated, so the map holds all entries
  have hmap : NameMap.ofList entries = map :=
    NameMap.eq_of_perm ((NameMap.perm_ofList_iff.mpr hnames).trans hperm)
  have hentries : ∀ entry ∈ entries, ∀ json, P entry.2 json → read json.asYaml = some entry.2 :=
    fun entry hentry => hread entry (hperm.mem_iff.mp hentry)
  have hvalues : List.Forall₂ (fun field entry => (read field.2).map (field.1, ·) = some entry)
      (fieldsOf members) entries := by
    clear h hperm hnames hmap
    induction hmembers with
    | nil => exact .nil
    | @cons entry member _ _ hhead _ ih =>
      obtain ⟨hentry, hrest⟩ := List.forall_mem_cons.mp hentries
      obtain ⟨hname, hvalue⟩ := hhead
      refine .cons ?_ (ih hrest)
      rw [hentry member.2 hvalue, hname]
      rfl
  rw [map?, entries?_ofMembers members hlevels, Option.bind_eq_bind, Option.bind_some]
  exact Option.bind_eq_some_iff.mpr ⟨entries, mapM_of_forall₂ hvalues, congrArg some hmap⟩

theorem Action.ofYaml_of_writesWord {action : Action} {json : Json} (h : action.WritesWord json) :
    Action.ofYaml json.asYaml = some action := by
  obtain ⟨word, hword, rfl⟩ := h
  cases action <;> simp only [words, List.mem_cons, List.not_mem_nil, or_false] at hword <;>
    rcases hword with rfl | rfl <;> rfl

/-- The levels of a text are enough for every document that respects the limit on depth. -/
theorem Document.ofYaml_of_objectForm {document : Document} (hdepth : document.RespectsDepth)
    {json : Json} (h : document.ObjectForm json) :
    Document.ofYaml Yaml.levelLimit json.asYaml = some document := by
  obtain ⟨members, hmembers, rfl⟩ := h
  have hforms : (document.objectForms.map FieldForm.name).Nodup := by
    simp [objectForms, FieldForm.always, FieldForm.default]
  have hfields : (ofMembers members).asYaml.fields? Yaml.levelLimit ["action", "policies"] true =
      some (fieldsOf members) := fields?_ofMembers hmembers rfl (by decide) true
  have haction : (fieldsOf members).required "action" Action.ofYaml = some document.action :=
    required_of_members hmembers hforms (P := document.action.WritesWord) (by simp [objectForms])
      fun _ => Action.ofYaml_of_writesWord
  have hpolicies : (fieldsOf members).withDefault "policies" .empty
      (Yaml.map? (Yaml.levelLimit - 1) (PolicyRules.ofYaml (Yaml.levelLimit - 2))) =
        some document.policies := by
    refine withDefault_of_members hmembers hforms (P := NameMap.WrittenAs PolicyRules.ObjectForm)
      (by simp [objectForms]) fun json hjson => map?_of_written hjson ?_ (by decide)
    intro entry hentry json hjson
    exact PolicyRules.ofYaml_of_objectForm (hdepth entry hentry) hjson (by decide)
  rw [Document.ofYaml, hfields]
  simp only [Option.bind_eq_bind, Option.bind_some, haction, hpolicies]
  rfl

end AccessPolicy
