import AccessPolicy.Document.OfJson
import AccessPolicy.Proofs.Document.Form
import AccessPolicy.Proofs.Document.Limits

/-!
# Documents are read as they are written

The readers of specifications, rules, policies and documents, each on the values that write one of
them. Levels are counted on the way. A rule takes up at most three of them for each level of its own
outline, since a compound stands in an object, in a record and in a list; around the rules of a
policy stand the list, the policy, the map of policies and the document.

Main results:

* `TextSpec.follows`, `HeaderSpec.follows`, … — which fields of a record are read as what;
* `PermissionRule.ofJson_of_written`, `PrincipalRule.ofJson_of_written` — rules, and how many levels
  they need;
* `Document.ofJson_of_written` — documents whose rules respect the limit on depth.
-/

namespace AccessPolicy

open Json

section Fields

variable {σ : Type} {state : List String → σ}

theorem Json.Field.follows_optionalText {name : String} {set : σ → Option String → σ}
    {value : Option String} (hset : ∀ seen, set (state seen) value = state (name :: seen)) :
    (Field.optionalText name set).Follows (.optional name WritesText value) state :=
  follows_optional (fun _ _ => readText_of_writes) nofun hset

theorem Json.Field.follows_bool {name : String} {set : σ → Bool → σ} {blank value : Bool}
    (hset : ∀ seen, set (state seen) value = state (name :: seen)) :
    (Field.bool name set).Follows (.default name WritesBool blank value) state :=
  follows_default (fun _ => readBool_of_writes) hset

end Fields

/-! ## Specifications -/

/-- What a reader has of a test of a text once it has read some names. -/
def TextSpec.state (spec : TextSpec) (seen : List String) : TextSpec where
  exact := part seen "exact" spec.exact none
  startsWith := part seen "prefix" spec.startsWith none
  endsWith := part seen "suffix" spec.endsWith none
  contains := part seen "contains" spec.contains none
  pattern := part seen "safe_regex" spec.pattern none
  ignoreCase := part seen "ignore_case" spec.ignoreCase false

theorem TextSpec.follows (spec : TextSpec) :
    TextSpec.shape.Follows spec.forms spec.state spec where
  names := by decide
  fields := by
    refine .cons (Field.follows_optionalText ?_) <|
      .cons (Field.follows_optionalText ?_) <|
      .cons (Field.follows_optionalText ?_) <|
      .cons (Field.follows_optionalText ?_) <|
      .cons (Field.follows_optionalText ?_) <|
      .cons (Field.follows_bool ?_) .nil
    all_goals simp [state, part]
  whole seen h := by
    simp only [forms, List.forall_mem_cons, FieldForm.optional, FieldForm.default] at h
    simp [state, part_eq, h]

theorem TextSpec.ofJson_of_written {spec : TextSpec} {json : Json} {levels : Nat}
    (h : spec.WrittenAs json) (hlevels : levels ≠ 0) : TextSpec.ofJson levels json = .ok spec :=
  spec.follows.read_of_record h hlevels

theorem readInt64_of_writes {n : Int} {json : Json} (h : WritesInt64 n json) :
    readInt64 json = .ok n := by
  obtain ⟨hfits, hwrites⟩ := h
  simp only [Text.fitsInt64, Bool.and_eq_true, decide_eq_true_eq] at hfits
  exact readInteger_of_writes hwrites (Int.le_refl _) (Int.le_refl _) hfits

theorem readUInt32_of_writes {n : Nat} {json : Json} (h : WritesUInt32 n json) :
    ∃ m : UInt32, readUInt32 json = .ok m ∧ m.toNat = n := by
  obtain ⟨hle, hwrites⟩ := h
  have hrange : (0 : Int) ≤ n ∧ (n : Int) ≤ 0xFFFFFFFF := by omega
  have hread : readInteger "u32" 0 0xFFFFFFFF json = .ok (n : Int) :=
    readInteger_of_writes hwrites (by decide) (by decide) hrange
  refine ⟨n.toUInt32, by rw [readUInt32, hread]; rfl, ?_⟩
  exact Nat.mod_eq_of_lt (Nat.lt_succ_of_le hle)

def RangeSpec.state (spec : RangeSpec) (seen : List String) : RangeSpec where
  first := part seen "start" spec.first 0
  last := part seen "end" spec.last 0

theorem RangeSpec.follows (spec : RangeSpec) :
    RangeSpec.shape.Follows spec.forms spec.state spec where
  names := by decide
  fields := by
    refine .cons (Field.follows_always (fun _ => readInt64_of_writes) ?_) <|
      .cons (Field.follows_always (fun _ => readInt64_of_writes) ?_) .nil
    all_goals simp [state, part]
  whole seen h := by
    simp only [forms, List.forall_mem_cons, FieldForm.always, or_false] at h
    simp [state, part, h]

theorem RangeSpec.ofJson_of_written {spec : RangeSpec} {json : Json} {levels : Nat}
    (h : spec.WrittenAs json) (hlevels : levels ≠ 0) : RangeSpec.ofJson levels json = .ok spec :=
  spec.follows.read_of_record h hlevels

def HeaderSpec.state (spec : HeaderSpec) (seen : List String) : HeaderSpec where
  name := part seen "name" spec.name ""
  exact := part seen "exact_match" spec.exact none
  pattern := part seen "safe_regex_match" spec.pattern none
  range := part seen "range_match" spec.range none
  present := part seen "present_match" spec.present none
  startsWith := part seen "prefix_match" spec.startsWith none
  endsWith := part seen "suffix_match" spec.endsWith none
  inverted := part seen "invert_match" spec.inverted false

theorem HeaderSpec.follows (spec : HeaderSpec) {levels : Nat} (hlevels : levels ≠ 0) :
    (HeaderSpec.shape levels).Follows spec.forms spec.state spec where
  names := by simp [shape, Field.optionalText, Field.bool]
  fields := by
    have hrange : ∀ (range : RangeSpec) json, range.WrittenAs json →
        RangeSpec.ofJson levels json = .ok range := fun range json hjson =>
      RangeSpec.ofJson_of_written hjson hlevels
    refine .cons (Field.follows_always (fun _ => readText_of_writes) ?_) <|
      .cons (Field.follows_optionalText ?_) <|
      .cons (Field.follows_optionalText ?_) <|
      .cons (Field.follows_optional hrange (fun _ => nofun) ?_) <|
      .cons (Field.follows_optional (fun _ _ => readBool_of_writes) nofun ?_) <|
      .cons (Field.follows_optionalText ?_) <|
      .cons (Field.follows_optionalText ?_) <|
      .cons (Field.follows_bool ?_) .nil
    all_goals simp [state, part]
  whole seen h := by
    simp only [forms, List.forall_mem_cons, FieldForm.always, FieldForm.optional,
      FieldForm.default, or_false] at h
    simp [state, part_eq, h]

/-- A test of a header needs one more level than its range. -/
theorem HeaderSpec.ofJson_of_written {spec : HeaderSpec} {json : Json} {levels : Nat}
    (h : spec.WrittenAs json) (hlevels : 2 ≤ levels) :
    HeaderSpec.ofJson levels json = .ok spec := by
  have hrange : levels - 1 ≠ 0 := by omega
  exact (spec.follows hrange).read_of_record h (by omega)

def NetworkSpec.state (spec : NetworkSpec) (seen : List String) : NetworkSpec where
  address := part seen "address_prefix" spec.address ""
  length := part seen "prefix_len" spec.length 0

theorem NetworkSpec.follows (spec : NetworkSpec) :
    NetworkSpec.shape.Follows spec.forms spec.state spec where
  names := by decide
  fields := by
    refine .cons (Field.follows_always (fun _ => readText_of_writes) ?_) <|
      .cons ⟨rfl, fun _ => id, fun seen json hjson => ?_⟩ .nil
    · simp [state, part]
    · -- the length is read as a word of 32 bits, which holds it
      obtain ⟨m, hread, hm⟩ := readUInt32_of_writes hjson
      refine (bind_pure_of_eq_ok hread fun m => { spec.state seen with length := m.toNat }).trans ?_
      simp [state, part, hm]
  whole seen h := by
    simp only [forms, List.forall_mem_cons, FieldForm.always, or_false] at h
    simp [state, part, h]

theorem NetworkSpec.ofJson_of_written {spec : NetworkSpec} {json : Json} {levels : Nat}
    (h : spec.WrittenAs json) (hlevels : levels ≠ 0) : NetworkSpec.ofJson levels json = .ok spec :=
  spec.follows.read_of_record h hlevels

/-! ## Rules -/

theorem compoundShape_read {α : Type} {label field : String} {read : Json → Json.Result (List α)}
    {rules : List α} {P : Json → Prop} (hread : ∀ json, P json → read json = .ok rules)
    {json : Json} (h : RecordOf [.always field P] json) {levels : Nat} (hlevels : levels ≠ 0) :
    (compoundShape label field read).read levels [] json = .ok rules :=
  Shape.read_of_single rfl rfl (fun _ => id) (fun json _ => hread json) False.elim h hlevels

/-- The record of the rule on authentication leaves a level less for the test of the name. -/
theorem authenticatedShape_read {name : Option TextSpec} {json : Json}
    (h : RecordOf [.optional "principal_name" TextSpec.WrittenAs name] json) {levels : Nat}
    (hlevels : 2 ≤ levels) :
    (authenticatedShape (levels - 1)).read levels none json = .ok name := by
  have hread : ∀ json, WritesOptional TextSpec.WrittenAs name json →
      readOptional (TextSpec.ofJson (levels - 1)) json = .ok name := fun json hjson =>
    readOptional_of_writes hjson (fun spec hspec => TextSpec.ofJson_of_written hspec (by omega))
      fun _ => nofun
  exact Shape.read_of_single rfl rfl (by nofun) (fun json _ => hread json) id h (by omega)

theorem PermissionRule.compoundOfJson_of_list {rules : List PermissionRule} {levels : Nat}
    (hlist : ∀ json, PermissionRule.ListWrittenAs rules json →
      PermissionRule.listOfJson (levels + 1) json = .ok rules) (label : String) {json : Json}
    (h : RecordOf [.always "rules" (PermissionRule.ListWrittenAs rules)] json) :
    PermissionRule.compoundOfJson label (levels + 2) json = .ok rules := by
  rw [PermissionRule.compoundOfJson]
  exact compoundShape_read hlist h (by omega)

mutual

/-- A permission rule is read where three levels are left for each level of the rule: a compound
takes up one itself, one for its record and one for its list. -/
theorem PermissionRule.ofJson_of_written (rule : PermissionRule) {json : Json} {levels : Nat}
    (h : rule.WrittenAs json) (hlevels : 3 * rule.outline.height ≤ levels) :
    PermissionRule.ofJson levels json = .ok rule := by
  -- every rule has a level of its own, so there are three levels at least
  obtain ⟨n, rfl⟩ : ∃ n, levels = n + 3 := by
    have hpos := rule.outline.height_pos
    exact ⟨levels - 3, by omega⟩
  rw [PermissionRule.ofJson]
  match rule with
  | .any flag =>
    refine readChoice_of_tagged h (by omega) (by decide) fun content hcontent => ?_
    obtain rfl := hcontent
    rfl
  | .allOf rules =>
    refine readChoice_of_tagged h (by omega) (by decide) fun content hcontent => ?_
    rw [outline, Outline.height] at hlevels
    have hlist : ∀ json, PermissionRule.ListWrittenAs rules json →
        PermissionRule.listOfJson (n + 1) json = .ok rules := fun json hjson =>
      PermissionRule.listOfJson_of_written rules hjson (by omega)
    have hread := PermissionRule.compoundOfJson_of_list hlist
      "struct variant PermissionConfig::AndRules" hcontent
    exact bind_pure_of_eq_ok hread PermissionRule.allOf
  | .anyOf rules =>
    refine readChoice_of_tagged h (by omega) (by decide) fun content hcontent => ?_
    rw [outline, Outline.height] at hlevels
    have hlist : ∀ json, PermissionRule.ListWrittenAs rules json →
        PermissionRule.listOfJson (n + 1) json = .ok rules := fun json hjson =>
      PermissionRule.listOfJson_of_written rules hjson (by omega)
    have hread := PermissionRule.compoundOfJson_of_list hlist
      "struct variant PermissionConfig::OrRules" hcontent
    exact bind_pure_of_eq_ok hread PermissionRule.anyOf
  | .not inner =>
    refine readChoice_of_tagged h (by omega) (by decide) fun content hcontent => ?_
    rw [outline, Outline.height] at hlevels
    have hlevels : 3 * inner.outline.height ≤ n + 2 := by omega
    have hread := PermissionRule.ofJson_of_written inner hcontent hlevels
    exact bind_pure_of_eq_ok hread PermissionRule.not
  | .header spec =>
    refine readChoice_of_tagged h (by omega) (by decide) fun content hcontent => ?_
    have hread := HeaderSpec.ofJson_of_written hcontent (show 2 ≤ n + 2 by omega)
    exact bind_pure_of_eq_ok hread PermissionRule.header
  | .path spec =>
    refine readChoice_of_tagged h (by omega) (by decide) fun content hcontent => ?_
    have hread := TextSpec.ofJson_of_written hcontent (show n + 2 ≠ 0 by omega)
    exact bind_pure_of_eq_ok hread PermissionRule.path
  | .destination spec =>
    refine readChoice_of_tagged h (by omega) (by decide) fun content hcontent => ?_
    have hread := NetworkSpec.ofJson_of_written hcontent (show n + 2 ≠ 0 by omega)
    exact bind_pure_of_eq_ok hread PermissionRule.destination

theorem PermissionRule.listOfJson_of_written (rules : List PermissionRule) {json : Json}
    {levels : Nat} (h : PermissionRule.ListWrittenAs rules json)
    (hlevels : 3 * Outline.highest (outlines rules) ≤ levels) :
    PermissionRule.listOfJson (levels + 1) json = .ok rules := by
  rw [PermissionRule.listOfJson]
  match rules with
  | [] =>
    obtain rfl := h
    exact readList_nil (by omega) _
  | rule :: rest =>
    obtain ⟨item, items, rfl, hitem, hitems⟩ := h
    rw [outlines, Outline.highest] at hlevels
    have hrest := PermissionRule.listOfJson_of_written rest hitems
      (show 3 * Outline.highest (outlines rest) ≤ levels by omega)
    rw [PermissionRule.listOfJson] at hrest
    exact readList_cons (PermissionRule.ofJson_of_written rule hitem (by omega)) hrest

end

theorem PrincipalRule.compoundOfJson_of_list {rules : List PrincipalRule} {levels : Nat}
    (hlist : ∀ json, PrincipalRule.ListWrittenAs rules json →
      PrincipalRule.listOfJson (levels + 1) json = .ok rules) (label : String) {json : Json}
    (h : RecordOf [.always "ids" (PrincipalRule.ListWrittenAs rules)] json) :
    PrincipalRule.compoundOfJson label (levels + 2) json = .ok rules := by
  rw [PrincipalRule.compoundOfJson]
  exact compoundShape_read hlist h (by omega)

mutual

/-- A principal rule takes up as many levels as a permission rule of the same outline. -/
theorem PrincipalRule.ofJson_of_written (rule : PrincipalRule) {json : Json} {levels : Nat}
    (h : rule.WrittenAs json) (hlevels : 3 * rule.outline.height ≤ levels) :
    PrincipalRule.ofJson levels json = .ok rule := by
  -- every rule has a level of its own, so there are three levels at least
  obtain ⟨n, rfl⟩ : ∃ n, levels = n + 3 := by
    have hpos := rule.outline.height_pos
    exact ⟨levels - 3, by omega⟩
  rw [PrincipalRule.ofJson]
  match rule with
  | .any flag =>
    refine readChoice_of_tagged h (by omega) (by decide) fun content hcontent => ?_
    obtain rfl := hcontent
    rfl
  | .allOf rules =>
    refine readChoice_of_tagged h (by omega) (by decide) fun content hcontent => ?_
    rw [outline, Outline.height] at hlevels
    have hlist : ∀ json, PrincipalRule.ListWrittenAs rules json →
        PrincipalRule.listOfJson (n + 1) json = .ok rules := fun json hjson =>
      PrincipalRule.listOfJson_of_written rules hjson (by omega)
    have hread := PrincipalRule.compoundOfJson_of_list hlist
      "struct variant PrincipalConfig::AndIds" hcontent
    exact bind_pure_of_eq_ok hread PrincipalRule.allOf
  | .anyOf rules =>
    refine readChoice_of_tagged h (by omega) (by decide) fun content hcontent => ?_
    rw [outline, Outline.height] at hlevels
    have hlist : ∀ json, PrincipalRule.ListWrittenAs rules json →
        PrincipalRule.listOfJson (n + 1) json = .ok rules := fun json hjson =>
      PrincipalRule.listOfJson_of_written rules hjson (by omega)
    have hread := PrincipalRule.compoundOfJson_of_list hlist
      "struct variant PrincipalConfig::OrIds" hcontent
    exact bind_pure_of_eq_ok hread PrincipalRule.anyOf
  | .not inner =>
    refine readChoice_of_tagged h (by omega) (by decide) fun content hcontent => ?_
    rw [outline, Outline.height] at hlevels
    have hlevels : 3 * inner.outline.height ≤ n + 2 := by omega
    have hread := PrincipalRule.ofJson_of_written inner hcontent hlevels
    exact bind_pure_of_eq_ok hread PrincipalRule.not
  | .authenticated name =>
    refine readChoice_of_tagged h (by omega) (by decide) fun content hcontent => ?_
    have hread := authenticatedShape_read hcontent (show 2 ≤ n + 2 by omega)
    exact bind_pure_of_eq_ok hread PrincipalRule.authenticated
  | .source spec =>
    refine readChoice_of_tagged h (by omega) (by decide) fun content hcontent => ?_
    have hread := NetworkSpec.ofJson_of_written hcontent (show n + 2 ≠ 0 by omega)
    exact bind_pure_of_eq_ok hread PrincipalRule.source
  | .header spec =>
    refine readChoice_of_tagged h (by omega) (by decide) fun content hcontent => ?_
    have hread := HeaderSpec.ofJson_of_written hcontent (show 2 ≤ n + 2 by omega)
    exact bind_pure_of_eq_ok hread PrincipalRule.header
  | .path spec =>
    refine readChoice_of_tagged h (by omega) (by decide) fun content hcontent => ?_
    have hread := TextSpec.ofJson_of_written hcontent (show n + 2 ≠ 0 by omega)
    exact bind_pure_of_eq_ok hread PrincipalRule.path

theorem PrincipalRule.listOfJson_of_written (rules : List PrincipalRule) {json : Json}
    {levels : Nat} (h : PrincipalRule.ListWrittenAs rules json)
    (hlevels : 3 * Outline.highest (outlines rules) ≤ levels) :
    PrincipalRule.listOfJson (levels + 1) json = .ok rules := by
  rw [PrincipalRule.listOfJson]
  match rules with
  | [] =>
    obtain rfl := h
    exact readList_nil (by omega) _
  | rule :: rest =>
    obtain ⟨item, items, rfl, hitem, hitems⟩ := h
    rw [outlines, Outline.highest] at hlevels
    have hrest := PrincipalRule.listOfJson_of_written rest hitems
      (show 3 * Outline.highest (outlines rest) ≤ levels by omega)
    rw [PrincipalRule.listOfJson] at hrest
    exact readList_cons (PrincipalRule.ofJson_of_written rule hitem (by omega)) hrest

end

/-! ## Policies -/

/-- Rules of a policy that respect the limit on depth, each for itself. -/
structure PolicyRules.RespectsDepth (rules : PolicyRules) : Prop where
  permissions : ∀ o ∈ PermissionRule.outlines rules.permissions, o.height ≤ maxDepth
  principals : ∀ o ∈ PrincipalRule.outlines rules.principals, o.height ≤ maxDepth

def PolicyRules.state (rules : PolicyRules) (seen : List String) : PolicyRules where
  permissions := part seen "permissions" rules.permissions []
  principals := part seen "principals" rules.principals []

theorem PolicyRules.follows {rules : PolicyRules} (h : rules.RespectsDepth) {levels : Nat}
    (hlevels : 3 * maxDepth ≤ levels) :
    (PolicyRules.shape (levels + 1)).Follows rules.forms rules.state rules where
  names := by simp [shape]
  fields := by
    have hpermissions : ∀ json, PermissionRule.ListWrittenAs rules.permissions json →
        PermissionRule.listOfJson (levels + 1) json = .ok rules.permissions := by
      intro json hjson
      have hheight := Outline.highest_le_iff.mpr h.permissions
      exact PermissionRule.listOfJson_of_written _ hjson (by omega)
    have hprincipals : ∀ json, PrincipalRule.ListWrittenAs rules.principals json →
        PrincipalRule.listOfJson (levels + 1) json = .ok rules.principals := by
      intro json hjson
      have hheight := Outline.highest_le_iff.mpr h.principals
      exact PrincipalRule.listOfJson_of_written _ hjson (by omega)
    refine .cons (Field.follows_default hpermissions ?_) <|
      .cons (Field.follows_default hprincipals ?_) .nil
    all_goals simp [state, part]
  whole seen h := by
    simp only [forms, List.forall_mem_cons, FieldForm.default] at h
    simp [state, part_eq, h]

theorem PolicyRules.ofJson_of_written {rules : PolicyRules} (hdepth : rules.RespectsDepth)
    {json : Json} (h : rules.WrittenAs json) {levels : Nat} (hlevels : 3 * maxDepth + 2 ≤ levels) :
    PolicyRules.ofJson levels json = .ok rules := by
  obtain ⟨n, rfl⟩ : ∃ n, levels = n + 2 := ⟨levels - 2, by omega⟩
  exact (PolicyRules.follows hdepth (by omega)).read_of_record h (by omega)

/-- Entries are put into the map one after the other. -/
theorem readEntries_of_written {α : Type} {read : Json → Json.Result α} {P : α → Json → Prop}
    {entries : List (String × α)} {members : List (Json × Json)}
    (h : List.Forall₂ (fun (name, a) (key, value) => key = .string (some name) ∧ P a value)
      entries members)
    (hread : ∀ entry ∈ entries, ∀ value, P entry.2 value → read value = .ok entry.2)
    (map : NameMap α) :
    readEntries (fun map name json => do return map.insert name (← read json)) map members =
      .ok (entries.foldl (fun map entry => map.insert entry.1 entry.2) map) := by
  induction h generalizing map with
  | nil => rfl
  | @cons entry member entries members hhead _ ih =>
    obtain ⟨name, a⟩ := entry
    obtain ⟨key, value⟩ := member
    obtain ⟨rfl, hvalue⟩ := hhead
    obtain ⟨hentry, hrest⟩ := List.forall_mem_cons.mp hread
    have hinsert := bind_pure_of_eq_ok (hentry value hvalue) (map.insert name)
    rw [readEntries, hinsert]
    exact ih hrest (map.insert name a)

theorem PolicyRules.mapOfJson_of_written {map : NameMap PolicyRules}
    (hdepth : ∀ entry ∈ map.entries, entry.2.RespectsDepth) {json : Json}
    (h : map.WrittenAs PolicyRules.WrittenAs json) {levels : Nat}
    (hlevels : 3 * maxDepth + 3 ≤ levels) : PolicyRules.mapOfJson levels json = .ok map := by
  obtain ⟨entries, members, hperm, hmembers, rfl⟩ := h
  have hread : ∀ entry ∈ entries, ∀ value, entry.2.WrittenAs value →
      PolicyRules.ofJson (levels - 1) value = .ok entry.2 := fun entry hentry value hvalue =>
    PolicyRules.ofJson_of_written (hdepth entry (hperm.mem_iff.mp hentry)) hvalue (by omega)
  have hnames : (entries.map Prod.fst).Nodup := (hperm.map Prod.fst).nodup_iff.mpr map.nodup_names
  -- no name is repeated, so the map holds all entries
  have hmap : NameMap.ofList entries = map :=
    NameMap.eq_of_perm ((NameMap.perm_ofList_iff.mpr hnames).trans hperm)
  rw [mapOfJson, readMap, if_neg (by omega), readEntries_of_written hmembers hread]
  exact congrArg Except.ok hmap

/-! ## Documents -/

theorem Action.ofJson_of_written {action : Action} {json : Json} (h : action.WrittenAs json)
    {levels : Nat} (hlevels : levels ≠ 0) : Action.ofJson levels json = .ok action := by
  obtain ⟨n, rfl⟩ := Nat.exists_eq_succ_of_ne_zero hlevels
  obtain ⟨word, hword, rfl | ⟨content, rfl, rfl⟩⟩ := h
  · cases action <;> simp only [words, List.mem_cons, List.not_mem_nil, or_false] at hword <;>
      rcases hword with rfl | rfl <;> rfl
  · cases action <;> simp only [words, List.mem_cons, List.not_mem_nil, or_false] at hword <;>
      rcases hword with rfl | rfl <;> rfl

def Document.state (document : Document) (seen : List String) : Document where
  action := part seen "action" document.action .allow
  policies := part seen "policies" document.policies .empty

/-- All rules of a document respect the limit on depth. -/
def Document.RespectsDepth (document : Document) : Prop :=
  ∀ entry ∈ document.policies.entries, entry.2.RespectsDepth

theorem Document.follows {document : Document} (h : document.RespectsDepth) {levels : Nat}
    (hlevels : 3 * maxDepth + 3 ≤ levels) :
    (Document.shape levels).Follows document.forms document.state document where
  names := by simp [shape]
  fields := by
    have haction : ∀ json, document.action.WrittenAs json →
        Action.ofJson levels json = .ok document.action := fun json hjson =>
      Action.ofJson_of_written hjson (by omega)
    have hpolicies : ∀ json, document.policies.WrittenAs PolicyRules.WrittenAs json →
        PolicyRules.mapOfJson levels json = .ok document.policies := fun json hjson =>
      PolicyRules.mapOfJson_of_written h hjson hlevels
    refine .cons (Field.follows_always haction ?_) <|
      .cons (Field.follows_default hpolicies ?_) .nil
    all_goals simp [state, part]
  whole seen h := by
    simp only [forms, List.forall_mem_cons, FieldForm.always, FieldForm.default, or_false] at h
    simp [state, part_eq, h]

/-- The levels of a text are enough for every document that respects the limit on depth. -/
theorem Document.ofJson_of_written {document : Document} (hdepth : document.RespectsDepth)
    {json : Json} (h : document.WrittenAs json) :
    Document.ofJson levelLimit json = .ok document :=
  (Document.follows hdepth (by decide)).read_of_record h (by decide)

end AccessPolicy
