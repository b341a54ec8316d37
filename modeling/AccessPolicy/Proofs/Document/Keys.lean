import AccessPolicy.Proofs.Document.Place

/-!
# Which keys a document may hold

A key that is not declared makes reading fail wherever a plain record is expected, at any depth. The
records of alternatives — the compound rules and the rule on authentication — pass such keys over
instead, so a misspelt key there is lost without a word: the rule on authentication then takes every
authenticated caller.

Main results:

* `samePruned_document` — a document reads the same without the keys that are passed over;
* `accepted_of_stands` — every part of a document that was read was accepted by a reader for its
  place;
* `ofAlternative_of_undeclared` — an undeclared key stands only in the record of an alternative;
* `Document.ofJsonText_keys` — both, for texts.
-/

namespace AccessPolicy

open Json

/-! ## Shapes -/

theorem has_document (levels : Nat) : Place.document.Has (Document.shape levels) := ⟨rfl, rfl⟩

theorem has_policy (levels : Nat) : Place.policy.Has (PolicyRules.shape levels) := ⟨rfl, rfl⟩

theorem has_permissionCompound (label : String) (read : Json → Result (List PermissionRule)) :
    Place.permissionCompound.Has (compoundShape label "rules" read) := ⟨rfl, rfl⟩

theorem has_principalCompound (label : String) (read : Json → Result (List PrincipalRule)) :
    Place.principalCompound.Has (compoundShape label "ids" read) := ⟨rfl, rfl⟩

theorem has_authenticated (levels : Nat) : Place.authenticated.Has (authenticatedShape levels) :=
  ⟨rfl, rfl⟩

theorem has_header (levels : Nat) : Place.header.Has (HeaderSpec.shape levels) := ⟨rfl, rfl⟩

theorem has_text : Place.text.Has TextSpec.shape := ⟨rfl, rfl⟩

theorem has_range : Place.range.Has RangeSpec.shape := ⟨rfl, rfl⟩

theorem has_network : Place.network.Has NetworkSpec.shape := ⟨rfl, rfl⟩

/-! ## Pruning makes no difference -/

theorem samePruned_text (levels : Nat) : SamePruned .text (TextSpec.ofJson levels) :=
  samePruned_plain has_text (fun _ => rfl) levels {}

theorem samePruned_range (levels : Nat) : SamePruned .range (RangeSpec.ofJson levels) :=
  samePruned_plain has_range (fun _ => rfl) levels ⟨0, 0⟩

theorem samePruned_network (levels : Nat) : SamePruned .network (NetworkSpec.ofJson levels) :=
  samePruned_plain has_network (fun _ => rfl) levels ⟨"", 0⟩

theorem samePruned_header (levels : Nat) : SamePruned .header (HeaderSpec.ofJson levels) := by
  refine samePruned_read (has_header _) fun field hfield s => ?_
  simp only [HeaderSpec.shape, List.mem_cons, List.not_mem_nil, or_false] at hfield
  rcases hfield with rfl | rfl | rfl | rfl | rfl | rfl | rfl | rfl
  -- the range is the only field that is a record itself
  case inr.inr.inr.inl => exact (samePruned_readOptional (samePruned_range _)).bind _
  all_goals exact samePruned_other _

theorem samePruned_authenticated (levels : Nat) :
    SamePruned .authenticated ((authenticatedShape (levels - 1)).read levels none) :=
  samePruned_single (has_authenticated _) rfl fun _ => samePruned_readOptional (samePruned_text _)

/-- Rules hold records of rules, and these hold lists of rules again. Each time around a level less is
left, so the induction is on the levels and takes all three together. -/
theorem samePruned_permission (levels : Nat) :
    SamePruned .permission (PermissionRule.ofJson levels) ∧
      (∀ label, SamePruned .permissionCompound (PermissionRule.compoundOfJson label levels)) ∧
      SamePruned .permissions (PermissionRule.listOfJson levels) := by
  induction levels with
  | zero =>
    exact ⟨samePruned_readChoice rfl fun _ _ => rfl,
      fun label => samePruned_single (has_permissionCompound label _) rfl fun _ _ => rfl,
      samePruned_readList (fun _ => rfl) fun _ => rfl⟩
  | succ levels ih =>
    obtain ⟨hrule, hcompound, hlist⟩ := ih
    refine ⟨samePruned_readChoice rfl fun name content => ?_,
      fun label => samePruned_single (has_permissionCompound label _) rfl fun _ => hlist,
      samePruned_readList (fun _ => rfl) hrule⟩
    · split
      · rw [show Place.permission.member "any" = .other from rfl, prune_other]
      · exact (hcompound _).bind _ content
      · exact (hcompound _).bind _ content
      · exact hrule.bind _ content
      · exact (samePruned_header _).bind _ content
      · exact (samePruned_text _).bind _ content
      · -- any other word names the destination, or nothing at all
        by_cases hname : name = "destination_ip"
        · subst hname
          exact (samePruned_network _).bind _ content
        · rw [Place.member_permission (by simp_all), prune_other]

theorem samePruned_principal (levels : Nat) :
    SamePruned .principal (PrincipalRule.ofJson levels) ∧
      (∀ label, SamePruned .principalCompound (PrincipalRule.compoundOfJson label levels)) ∧
      SamePruned .principals (PrincipalRule.listOfJson levels) := by
  induction levels with
  | zero =>
    exact ⟨samePruned_readChoice rfl fun _ _ => rfl,
      fun label => samePruned_single (has_principalCompound label _) rfl fun _ _ => rfl,
      samePruned_readList (fun _ => rfl) fun _ => rfl⟩
  | succ levels ih =>
    obtain ⟨hrule, hcompound, hlist⟩ := ih
    refine ⟨samePruned_readChoice rfl fun name content => ?_,
      fun label => samePruned_single (has_principalCompound label _) rfl fun _ => hlist,
      samePruned_readList (fun _ => rfl) hrule⟩
    · split
      · rw [show Place.principal.member "any" = .other from rfl, prune_other]
      · exact (hcompound _).bind _ content
      · exact (hcompound _).bind _ content
      · exact hrule.bind _ content
      · exact (samePruned_authenticated _).bind _ content
      · exact (samePruned_network _).bind _ content
      · exact (samePruned_header _).bind _ content
      · -- any other word names the method, or nothing at all
        by_cases hname : name = "url_path"
        · subst hname
          exact (samePruned_text _).bind _ content
        · rw [Place.member_principal (by simp_all), prune_other]

theorem samePruned_policy (levels : Nat) : SamePruned .policy (PolicyRules.ofJson levels) := by
  refine samePruned_read (has_policy _) fun field hfield s => ?_
  simp only [PolicyRules.shape, List.mem_cons, List.not_mem_nil, or_false] at hfield
  rcases hfield with rfl | rfl
  · exact (samePruned_permission _).2.2.bind _
  · exact (samePruned_principal _).2.2.bind _

theorem samePruned_policies (levels : Nat) : SamePruned .policies (PolicyRules.mapOfJson levels) :=
  samePruned_readMap rfl fun _ _ => (samePruned_policy _).bind _

theorem samePruned_document (levels : Nat) : SamePruned .document (Document.ofJson levels) := by
  refine samePruned_read (has_document _) fun field hfield s => ?_
  simp only [Document.shape, List.mem_cons, List.not_mem_nil, or_false] at hfield
  rcases hfield with rfl | rfl
  · exact samePruned_other _
  · exact (samePruned_policies _).bind _

/-! ## What was read -/

/-- Whether a reader for a place has succeeded on a value, whatever levels it was left. Some texts
and ranges may be left out, for which `null` stands. -/
def Accepted : Place → Json → Prop
  | .document, json => ∃ levels document, Document.ofJson levels json = .ok document
  | .policies, json => ∃ levels policies, PolicyRules.mapOfJson levels json = .ok policies
  | .policy, json => ∃ levels rules, PolicyRules.ofJson levels json = .ok rules
  | .permissions, json => ∃ levels rules, PermissionRule.listOfJson levels json = .ok rules
  | .permission, json => ∃ levels rule, PermissionRule.ofJson levels json = .ok rule
  | .permissionCompound, json =>
    ∃ label levels rules, PermissionRule.compoundOfJson label levels json = .ok rules
  | .principals, json => ∃ levels rules, PrincipalRule.listOfJson levels json = .ok rules
  | .principal, json => ∃ levels rule, PrincipalRule.ofJson levels json = .ok rule
  | .principalCompound, json =>
    ∃ label levels rules, PrincipalRule.compoundOfJson label levels json = .ok rules
  | .authenticated, json =>
    ∃ levels name, (authenticatedShape (levels - 1)).read levels none json = .ok name
  | .header, json => ∃ levels spec, HeaderSpec.ofJson levels json = .ok spec
  | .text, json => json = .null ∨ ∃ levels spec, TextSpec.ofJson levels json = .ok spec
  | .range, json => json = .null ∨ ∃ levels spec, RangeSpec.ofJson levels json = .ok spec
  | .network, json => ∃ levels spec, NetworkSpec.ofJson levels json = .ok spec
  | .other, _ => True

/-- Whether a record has been read, and the value of each of its fields by a reader for the place of
that field. -/
def ReadRecord (place : Place) (json : Json) : Prop :=
  ∃ (σ : Type) (shape : Shape σ) (levels : Nat) (blank s : σ), place.Has shape ∧
    (∀ field ∈ shape.fields, ∀ value, field.Takes value →
      Accepted (place.member field.name) value) ∧
    shape.read levels blank json = .ok s

namespace ReadRecord

variable {place : Place} {entries : List (Json × Json)}

theorem member (h : ReadRecord place (.object entries)) {name : String} {value : Json}
    (hmem : (.string (some name), value) ∈ entries) : Accepted (place.member name) value := by
  obtain ⟨σ, shape, levels, blank, s, hhas, htakes, hread⟩ := h
  obtain ⟨_, heq, -⟩ | ⟨_, heq, hread⟩ := Shape.read_eq_ok hread
  · simp at heq
  obtain rfl := Json.object.inj heq
  -- the key is the name of a field, or nothing is expected behind it
  obtain ⟨name', hname, hfield | ⟨-, hnone⟩⟩ := shape.readFields_eq_ok hread _ hmem
  · obtain rfl : name = name' := by simpa using hname
    obtain ⟨field, hfield, rfl, hvalue⟩ := hfield
    exact htakes field hfield value hvalue
  · obtain rfl : name = name' := by simpa using hname
    rw [Place.member_of_not_mem hhas.fields (by simpa using hnone)]
    trivial

theorem element {items : List Json} (h : ReadRecord place (.array items)) {i : Nat} {item : Json}
    (hitem : items[i]? = some item) : Accepted (place.element i) item := by
  obtain ⟨σ, shape, levels, blank, s, hhas, htakes, hread⟩ := h
  obtain ⟨_, heq, hread⟩ | ⟨_, heq, -⟩ := Shape.read_eq_ok hread
  · obtain rfl := Json.array.inj heq
    obtain ⟨field, hfield, hvalue⟩ := shape.readItems_eq_ok hread hitem
    rw [Place.element_of_fields hhas.fields, List.getElem?_map, hfield]
    exact htakes field (List.mem_of_getElem? hfield) item hvalue
  · simp at heq

/-- Outside the alternatives every key of a record that was read is declared. -/
theorem declared (h : ReadRecord place (.object entries)) (hstrict : place.ofAlternative = false)
    {names : List String} (hnames : place.fields = some names) {key value : Json}
    (hmem : (key, value) ∈ entries) : ∃ name ∈ names, key = .string (some name) := by
  obtain ⟨σ, shape, levels, blank, s, hhas, -, hread⟩ := h
  obtain ⟨_, heq, -⟩ | ⟨_, heq, hread⟩ := Shape.read_eq_ok hread
  · simp at heq
  obtain rfl := Json.object.inj heq
  obtain rfl : names = shape.fields.map Json.Field.name :=
    Option.some.inj (hnames.symm.trans hhas.fields)
  obtain ⟨name, hname, ⟨field, hfield, rfl, -⟩ | ⟨hlax, -⟩⟩ := shape.readFields_eq_ok hread _ hmem
  · exact ⟨field.name, List.mem_map_of_mem hfield, hname⟩
  · rw [hhas.strict, hstrict] at hlax
    simp at hlax

end ReadRecord

theorem readOptional_eq_ok {α : Type} {read : Json → Result α} {json : Json} {value : Option α}
    (h : readOptional read json = .ok value) : json = .null ∨ ∃ a, read json = .ok a := by
  cases json with
  | null => exact .inl rfl
  | _ =>
    obtain ⟨a, ha, -⟩ := map_eq_ok.mp h
    exact .inr ⟨a, ha⟩

/-- A record of plain values only. -/
theorem readRecord_plain {σ : Type} {place : Place} {shape : Shape σ} {levels : Nat} {blank s : σ}
    {json : Json} (hhas : place.Has shape) (hplain : ∀ name, place.member name = .other)
    (hread : shape.read levels blank json = .ok s) : ReadRecord place json := by
  refine ⟨σ, shape, levels, blank, s, hhas, fun field _ value _ => ?_, hread⟩
  rw [hplain]
  trivial

/-- A record of one field. -/
theorem readRecord_single {σ : Type} {place : Place} {shape : Shape σ} {levels : Nat} {blank s : σ}
    {json : Json} (hhas : place.Has shape) {field : Json.Field σ} (hfields : shape.fields = [field])
    (htakes : ∀ value, field.Takes value → Accepted (place.member field.name) value)
    (hread : shape.read levels blank json = .ok s) : ReadRecord place json := by
  refine ⟨σ, shape, levels, blank, s, hhas, fun field' hfield => ?_, hread⟩
  rw [hfields] at hfield
  obtain rfl := List.mem_singleton.mp hfield
  exact htakes

theorem readRecord_header {levels : Nat} {json : Json} {spec : HeaderSpec}
    (h : HeaderSpec.ofJson levels json = .ok spec) : ReadRecord .header json := by
  refine ⟨_, _, _, _, _, has_header _, ?_, h⟩
  intro field hfield value htakes
  simp only [HeaderSpec.shape, List.mem_cons, List.not_mem_nil, or_false] at hfield
  rcases hfield with rfl | rfl | rfl | rfl | rfl | rfl | rfl | rfl
  case inr.inr.inr.inl =>
    obtain ⟨_, _, htakes⟩ := htakes
    obtain ⟨range, hrange, -⟩ := bind_eq_ok.mp htakes
    exact (readOptional_eq_ok hrange).imp_right fun ⟨range, hrange⟩ => ⟨_, range, hrange⟩
  all_goals trivial

theorem readRecord_authenticated {levels : Nat} {json : Json} {name : Option TextSpec}
    (h : (authenticatedShape (levels - 1)).read levels none json = .ok name) :
    ReadRecord .authenticated json := by
  refine readRecord_single (has_authenticated _) rfl ?_ h
  rintro value ⟨_, name, hname⟩
  exact (readOptional_eq_ok hname).imp_right fun ⟨name, hname⟩ => ⟨_, name, hname⟩

theorem readRecord_permissionCompound {label : String} {levels : Nat} {json : Json}
    {rules : List PermissionRule}
    (h : PermissionRule.compoundOfJson label levels json = .ok rules) :
    ReadRecord .permissionCompound json := by
  cases levels with
  | zero =>
    refine readRecord_single (has_permissionCompound label _) rfl ?_ h
    rintro value ⟨_, _, htakes⟩
    simp at htakes
  | succ levels =>
    refine readRecord_single (has_permissionCompound label _) rfl ?_ h
    rintro value ⟨_, rules, hrules⟩
    exact ⟨levels, rules, hrules⟩

theorem readRecord_principalCompound {label : String} {levels : Nat} {json : Json}
    {rules : List PrincipalRule} (h : PrincipalRule.compoundOfJson label levels json = .ok rules) :
    ReadRecord .principalCompound json := by
  cases levels with
  | zero =>
    refine readRecord_single (has_principalCompound label _) rfl ?_ h
    rintro value ⟨_, _, htakes⟩
    simp at htakes
  | succ levels =>
    refine readRecord_single (has_principalCompound label _) rfl ?_ h
    rintro value ⟨_, rules, hrules⟩
    exact ⟨levels, rules, hrules⟩

theorem readRecord_policy {levels : Nat} {json : Json} {rules : PolicyRules}
    (h : PolicyRules.ofJson levels json = .ok rules) : ReadRecord .policy json := by
  refine ⟨_, _, _, _, _, has_policy _, ?_, h⟩
  intro field hfield value htakes
  simp only [PolicyRules.shape, List.mem_cons, List.not_mem_nil, or_false] at hfield
  obtain ⟨_, _, htakes⟩ := htakes
  rcases hfield with rfl | rfl
  · exact ⟨_, exists_of_bind_eq_ok htakes⟩
  · exact ⟨_, exists_of_bind_eq_ok htakes⟩

theorem readRecord_document {levels : Nat} {json : Json} {document : Document}
    (h : Document.ofJson levels json = .ok document) : ReadRecord .document json := by
  refine ⟨_, _, _, _, _, has_document _, ?_, h⟩
  intro field hfield value htakes
  simp only [Document.shape, List.mem_cons, List.not_mem_nil, or_false] at hfield
  rcases hfield with rfl | rfl
  · trivial
  · obtain ⟨_, _, htakes⟩ := htakes
    exact ⟨_, exists_of_bind_eq_ok htakes⟩

/-- A value that was accepted in the place of a record is one, or is left out. -/
theorem readRecord_of_accepted {place : Place} {names : List String} {json : Json}
    (hnames : place.fields = some names) (h : Accepted place json) :
    json = .null ∨ ReadRecord place json := by
  cases place with
  | document =>
    obtain ⟨_, _, h⟩ := h
    exact .inr (readRecord_document h)
  | policy =>
    obtain ⟨_, _, h⟩ := h
    exact .inr (readRecord_policy h)
  | permissionCompound =>
    obtain ⟨_, _, _, h⟩ := h
    exact .inr (readRecord_permissionCompound h)
  | principalCompound =>
    obtain ⟨_, _, _, h⟩ := h
    exact .inr (readRecord_principalCompound h)
  | authenticated =>
    obtain ⟨_, _, h⟩ := h
    exact .inr (readRecord_authenticated h)
  | header =>
    obtain ⟨_, _, h⟩ := h
    exact .inr (readRecord_header h)
  | text =>
    refine h.imp_right fun ⟨_, _, h⟩ => ?_
    exact readRecord_plain has_text (fun _ => rfl) h
  | range =>
    refine h.imp_right fun ⟨_, _, h⟩ => ?_
    exact readRecord_plain has_range (fun _ => rfl) h
  | network =>
    obtain ⟨_, _, h⟩ := h
    exact .inr (readRecord_plain has_network (fun _ => rfl) h)
  | policies | permissions | permission | principals | principal | other =>
    simp [Place.fields] at hnames

/-! ## Steps into a value -/

theorem accepted_permission_member {levels : Nat} {entries : List (Json × Json)} {name : String}
    {value : Json} {rule : PermissionRule}
    (h : PermissionRule.ofJson levels (.object entries) = .ok rule)
    (hmem : (.string (some name), value) ∈ entries) :
    Accepted (Place.permission.member name) value := by
  cases levels with
  | zero =>
    obtain ⟨_, _, -, hread⟩ := readChoice_object_eq_ok h
    simp at hread
  | succ levels =>
    obtain ⟨name', content, rfl, hread⟩ := readChoice_object_eq_ok h
    obtain ⟨rfl, rfl⟩ : name = name' ∧ value = content := by simpa using hmem
    -- every alternative hands its content to the reader of its place
    split at hread
    · trivial
    · exact ⟨_, _, exists_of_bind_eq_ok hread⟩
    · exact ⟨_, _, exists_of_bind_eq_ok hread⟩
    · exact ⟨_, exists_of_bind_eq_ok hread⟩
    · exact ⟨_, exists_of_bind_eq_ok hread⟩
    · exact .inr ⟨_, exists_of_bind_eq_ok hread⟩
    · by_cases hname : name = "destination_ip"
      · subst hname
        exact ⟨_, exists_of_bind_eq_ok hread⟩
      · rw [Place.member_permission (by simp_all)]
        trivial

theorem accepted_principal_member {levels : Nat} {entries : List (Json × Json)} {name : String}
    {value : Json} {rule : PrincipalRule}
    (h : PrincipalRule.ofJson levels (.object entries) = .ok rule)
    (hmem : (.string (some name), value) ∈ entries) :
    Accepted (Place.principal.member name) value := by
  cases levels with
  | zero =>
    obtain ⟨_, _, -, hread⟩ := readChoice_object_eq_ok h
    simp at hread
  | succ levels =>
    obtain ⟨name', content, rfl, hread⟩ := readChoice_object_eq_ok h
    obtain ⟨rfl, rfl⟩ : name = name' ∧ value = content := by simpa using hmem
    split at hread
    · trivial
    · exact ⟨_, _, exists_of_bind_eq_ok hread⟩
    · exact ⟨_, _, exists_of_bind_eq_ok hread⟩
    · exact ⟨_, exists_of_bind_eq_ok hread⟩
    · exact ⟨_, exists_of_bind_eq_ok hread⟩
    · exact ⟨_, exists_of_bind_eq_ok hread⟩
    · exact ⟨_, exists_of_bind_eq_ok hread⟩
    · by_cases hname : name = "url_path"
      · subst hname
        exact .inr ⟨_, exists_of_bind_eq_ok hread⟩
      · rw [Place.member_principal (by simp_all)]
        trivial

theorem accepted_member {place : Place} {entries : List (Json × Json)} {name : String}
    {value : Json} (h : Accepted place (.object entries))
    (hmem : (.string (some name), value) ∈ entries) :
    Accepted (place.member name) value := by
  rcases hnames : place.fields with _ | names
  · -- places that are no records
    cases place with
    | policies =>
      obtain ⟨levels, policies, h⟩ := h
      obtain ⟨_, heq, hall⟩ := readMap_eq_ok h
      obtain rfl := Json.object.inj heq
      obtain ⟨_, _, _, -, hinsert⟩ := hall _ hmem
      exact ⟨_, exists_of_bind_eq_ok hinsert⟩
    | permission =>
      obtain ⟨levels, rule, h⟩ := h
      exact accepted_permission_member h hmem
    | principal =>
      obtain ⟨levels, rule, h⟩ := h
      exact accepted_principal_member h hmem
    | permissions | principals | other => trivial
    | _ => simp [Place.fields] at hnames
  · rcases readRecord_of_accepted hnames h with heq | hrecord
    · simp at heq
    · exact hrecord.member hmem

theorem accepted_element {place : Place} {items : List Json} {i : Nat} {item : Json}
    (h : Accepted place (.array items)) (hitem : items[i]? = some item) :
    Accepted (place.element i) item := by
  have hmem : item ∈ items := List.mem_of_getElem? hitem
  rcases hnames : place.fields with _ | names
  · cases place with
    | permissions =>
      obtain ⟨levels, rules, h⟩ := h
      cases levels with
      | zero => simp [PermissionRule.listOfJson, readList] at h
      | succ levels =>
        rw [PermissionRule.listOfJson] at h
        obtain ⟨_, heq, hall⟩ := readList_eq_ok h
        obtain rfl := Json.array.inj heq
        exact ⟨levels, hall item hmem⟩
    | principals =>
      obtain ⟨levels, rules, h⟩ := h
      cases levels with
      | zero => simp [PrincipalRule.listOfJson, readList] at h
      | succ levels =>
        rw [PrincipalRule.listOfJson] at h
        obtain ⟨_, heq, hall⟩ := readList_eq_ok h
        obtain rfl := Json.array.inj heq
        exact ⟨levels, hall item hmem⟩
    | policies | permission | principal | other => trivial
    | _ => simp [Place.fields] at hnames
  · rcases readRecord_of_accepted hnames h with heq | hrecord
    · simp at heq
    · exact hrecord.element hitem

/-! ## Whole documents -/

/-- Every part of a document that was read is accepted at its place. -/
theorem accepted_of_stands {levels : Nat} {root : Json} {document : Document}
    (hroot : Document.ofJson levels root = .ok document) {place : Place} {json : Json}
    (h : Stands root place json) : Accepted place json := by
  induction h with
  | root => exact ⟨levels, document, hroot⟩
  | member _ hmem ih => exact accepted_member ih hmem
  | element _ hitem ih => exact accepted_element ih hitem

/-- An undeclared key stands only in the record of an alternative. -/
theorem ofAlternative_of_undeclared {levels : Nat} {root : Json} {document : Document}
    (hroot : Document.ofJson levels root = .ok document) {place : Place}
    (h : Undeclared root place) : place.ofAlternative = true := by
  obtain ⟨entries, names, hstands, hnames, key, value, hmem, hkey⟩ := h
  -- the record was read as a whole, and outside the alternatives that leaves no key out
  refine Classical.byContradiction fun hstrict => ?_
  rcases readRecord_of_accepted hnames (accepted_of_stands hroot hstands) with heq | hrecord
  · simp at heq
  · obtain ⟨name, hname, hstring⟩ :=
      hrecord.declared (Bool.eq_false_iff.mpr hstrict) hnames hmem
    exact hkey name hname hstring

/-- A text that reads as a document has no undeclared keys at all if and only if it has none in the
records of alternatives. There they are passed over: without them the text would read the same. -/
theorem Document.ofJsonText_keys (text : String) :
    (∀ document, Document.ofJsonText text = .ok document →
      ((∀ place, ¬ Undeclared (ofText text).1 place) ↔
        ∀ place, place.ofAlternative = true → ¬ Undeclared (ofText text).1 place)) ∧
    ∀ levels, Document.ofJson levels ((ofText text).1.prune .document) =
      Document.ofJson levels (ofText text).1 := by
  constructor
  · intro document h
    obtain ⟨_, hroot, -⟩ := bind_eq_ok.mp h
    constructor
    · intro hnone place _
      exact hnone place
    · intro hnone place hundeclared
      exact hnone place (ofAlternative_of_undeclared hroot hundeclared) hundeclared
  · intro levels
    exact samePruned_document levels _

/-- A document in which the name of the caller is asked for under a misspelt key. -/
def misspelt : String :=
  "\x7b\"action\": \"ALLOW\", \"policies\": \x7b\"p\": \x7b" ++
    "\"permissions\": [\x7b\"any\": true\x7d], " ++
    "\"principals\": [\x7b\"authenticated\": " ++
    "\x7b\"principle_name\": \x7b\"exact\": \"alice\"\x7d\x7d\x7d]\x7d\x7d\x7d"

/-- The value that the misspelt document spells. -/
def misspeltValue : Json :=
  .object [(.string (some "action"), .string (some "ALLOW")),
    (.string (some "policies"), .object [(.string (some "p"), .object
      [(.string (some "permissions"), .array [.object [(.string (some "any"), .bool true)]]),
        (.string (some "principals"), .array [.object [(.string (some "authenticated"),
          .object [(.string (some "principle_name"),
            .object [(.string (some "exact"), .string (some "alice"))])])]])])])]

/-- What it is read as: the name of the caller is not asked for. -/
def misspeltDocument : Document where
  action := .allow
  policies := .ofList [("p", ⟨[.any true], [.authenticated none]⟩)]

theorem ofText_misspelt : ofText misspelt = (misspeltValue, true) := by cbv

theorem ofJsonText_misspelt : Document.ofJsonText misspelt = .ok misspeltDocument := by
  rw [Document.ofJsonText, readAll, ofText_misspelt]
  rfl

theorem undeclared_misspelt : Undeclared misspeltValue .authenticated := by
  have hroot : Stands misspeltValue .document misspeltValue := .root
  -- down the path to the record on authentication
  have hpolicies := hroot.member (List.mem_cons_of_mem _ List.mem_cons_self)
  have hpolicy := hpolicies.member List.mem_cons_self
  have hprincipals := hpolicy.member (List.mem_cons_of_mem _ List.mem_cons_self)
  have hprincipal := hprincipals.element (i := 0) rfl
  have hrecord := hprincipal.member List.mem_cons_self
  refine ⟨_, ["principal_name"], hrecord, rfl, _, _, List.mem_cons_self, ?_⟩
  simp

/-- The text reads as without the misspelt key. -/
theorem Document.ofJsonText_keys_misspelt :
    Document.ofJsonText misspelt = .ok misspeltDocument ∧
      Document.ofJson levelLimit ((ofText misspelt).1.prune .document) = .ok misspeltDocument ∧
      ¬ ∀ place, ¬ Undeclared (ofText misspelt).1 place := by
  obtain ⟨hkeys, hpruned⟩ := Document.ofJsonText_keys misspelt
  -- the value read is the document, for nothing is left over behind it
  obtain ⟨value, hvalue, hcomplete⟩ := bind_eq_ok.mp ofJsonText_misspelt
  obtain rfl : value = misspeltDocument := by
    split at hcomplete
    · exact Except.ok.inj hcomplete
    · simp at hcomplete
  refine ⟨ofJsonText_misspelt, (hpruned levelLimit).trans hvalue, fun hnone => ?_⟩
  refine (hkeys _ ofJsonText_misspelt).mp hnone .authenticated rfl ?_
  rw [ofText_misspelt]
  exact undeclared_misspelt

/-- The misspelt key is accepted, and its rule takes every authenticated caller. -/
theorem Document.misspelt_takes_all :
    Document.ofJsonText misspelt = .ok misspeltDocument ∧
      misspeltDocument.policies.entries = [("p", ⟨[.any true], [.authenticated none]⟩)] ∧
      Undeclared (ofText misspelt).1 .authenticated := by
  refine ⟨ofJsonText_misspelt, rfl, ?_⟩
  rw [ofText_misspelt]
  exact undeclared_misspelt

end AccessPolicy
