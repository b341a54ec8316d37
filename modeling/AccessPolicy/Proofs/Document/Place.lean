import AccessPolicy.Document.OfJson
import AccessPolicy.Proofs.Json.Reader

/-!
# Places of a document

What is expected where in the JSON value of a document, and which keys are declared there. From this
follow two relations between values: which parts of a value stand at which kind of place, and what
is left of a value without the keys that its readers pass over.

Main results: a reader does not notice that a value is pruned, if the readers of its parts do not
notice it (`samePruned_readList`, `samePruned_readMap`, `samePruned_readChoice`,
`samePruned_read`).
-/

namespace AccessPolicy

open Json

/-- What is expected at a place of a document. -/
inductive Place where
  | document
  | policies
  | policy
  | permissions
  | permission
  /-- The content of `and_rules` and `or_rules`. -/
  | permissionCompound
  | principals
  | principal
  /-- The content of `and_ids` and `or_ids`. -/
  | principalCompound
  | authenticated
  | header
  | text
  | range
  | network
  /-- A plain value, or nothing that is looked at. -/
  | other
deriving DecidableEq, Repr

namespace Place

/-- The declared keys of a record. -/
def fields : Place → Option (List String)
  | .document => some ["action", "policies"]
  | .policy => some ["permissions", "principals"]
  | .permissionCompound => some ["rules"]
  | .principalCompound => some ["ids"]
  | .authenticated => some ["principal_name"]
  | .header => some ["name", "exact_match", "safe_regex_match", "range_match", "present_match",
      "prefix_match", "suffix_match", "invert_match"]
  | .text => some ["exact", "prefix", "suffix", "contains", "safe_regex", "ignore_case"]
  | .range => some ["start", "end"]
  | .network => some ["address_prefix", "prefix_len"]
  | _ => none

/-- Whether the record is the content of an alternative. -/
def ofAlternative : Place → Bool
  | .permissionCompound | .principalCompound | .authenticated => true
  | _ => false

/-- What is expected as the value of a key. -/
def member : Place → String → Place
  | .document, "policies" => .policies
  | .policies, _ => .policy
  | .policy, "permissions" => .permissions
  | .policy, "principals" => .principals
  | .permission, "and_rules" => .permissionCompound
  | .permission, "or_rules" => .permissionCompound
  | .permission, "not_rule" => .permission
  | .permission, "header" => .header
  | .permission, "url_path" => .text
  | .permission, "destination_ip" => .network
  | .permissionCompound, "rules" => .permissions
  | .principal, "and_ids" => .principalCompound
  | .principal, "or_ids" => .principalCompound
  | .principal, "not_id" => .principal
  | .principal, "authenticated" => .authenticated
  | .principal, "source_ip" => .network
  | .principal, "header" => .header
  | .principal, "url_path" => .text
  | .principalCompound, "ids" => .principals
  | .authenticated, "principal_name" => .text
  | .header, "range_match" => .range
  | _, _ => .other

/-- What is expected as an item of an array. Records may be written as arrays of their fields. -/
def element : Place → Nat → Place
  | .permissions, _ => .permission
  | .principals, _ => .principal
  | place, i => ((place.fields.bind (·[i]?)).map place.member).getD .other

end Place

/-! ## Parts of a value -/

/-- The parts of a value that stand at places of a document. -/
inductive Stands (root : Json) : Place → Json → Prop where
  | root : Stands root .document root
  | member {place : Place} {entries : List (Json × Json)} {name : String} {value : Json}
    (h : Stands root place (.object entries)) (hmem : (.string (some name), value) ∈ entries) :
    Stands root (place.member name) value
  | element {place : Place} {items : List Json} {i : Nat} {item : Json}
    (h : Stands root place (.array items)) (hitem : items[i]? = some item) :
    Stands root (place.element i) item

/-- An undeclared key stands in some record of a kind. -/
def Undeclared (root : Json) (place : Place) : Prop :=
  ∃ entries declared, Stands root place (.object entries) ∧ place.fields = some declared ∧
    ∃ key value, (key, value) ∈ entries ∧ ∀ name ∈ declared, key ≠ .string (some name)

/-! ## Pruning -/

namespace Place

/-- What is expected behind a key that may be no string. -/
def behind (place : Place) : Json → Place
  | .string (some name) => place.member name
  | _ => .other

/-- Whether an entry of an alternative's record is passed over: its key is not declared. A break in
the text is never passed over. -/
def passesOver (place : Place) : Json × Json → Bool
  | (_, .broken) => false
  | (.string (some name), _) => place.ofAlternative && place.fields.any (!·.contains name)
  | _ => false

end Place

mutual

/-- What is left of a value without the entries that are passed over. -/
def Json.prune (place : Place) : Json → Json
  | .array items => .array (Json.pruneItems place 0 items)
  | .object entries => .object (Json.pruneEntries place entries)
  | json => json

def Json.pruneItems (place : Place) (i : Nat) : List Json → List Json
  | [] => []
  | item :: rest => item.prune (place.element i) :: Json.pruneItems place (i + 1) rest

def Json.pruneEntries (place : Place) : List (Json × Json) → List (Json × Json)
  | [] => []
  | (key, value) :: rest =>
    if place.passesOver (key, value) then Json.pruneEntries place rest
    else (key, value.prune (place.behind key)) :: Json.pruneEntries place rest

end

/-- A reader for a place to which pruning makes no difference. -/
def SamePruned {α : Type} (place : Place) (read : Json → Result α) : Prop :=
  ∀ json, read (json.prune place) = read json

theorem Place.element_of_fields {place : Place} {names : List String}
    (h : place.fields = some names) (i : Nat) :
    place.element i = ((names[i]?).map place.member).getD .other := by
  cases place <;> simp_all [fields, element]

/-- Behind a key that is not declared nothing is expected. -/
theorem Place.member_of_not_mem {place : Place} {names : List String} {name : String}
    (h : place.fields = some names) (hname : name ∉ names) : place.member name = .other := by
  cases place <;> simp [fields] at h <;> subst h <;> simp_all [member]

theorem Place.member_permission {name : String}
    (h : name ∉ ["and_rules", "or_rules", "not_rule", "header", "url_path", "destination_ip"]) :
    Place.permission.member name = .other := by
  unfold member
  split <;> simp_all

theorem Place.member_principal {name : String}
    (h : name ∉ ["and_ids", "or_ids", "not_id", "authenticated", "source_ip", "header",
      "url_path"]) :
    Place.principal.member name = .other := by
  unfold member
  split <;> simp_all

theorem Place.passesOver_of_strict {place : Place} (h : place.ofAlternative = false)
    (entry : Json × Json) : place.passesOver entry = false := by
  unfold passesOver
  split
  · rfl
  · rw [h, Bool.false_and]
  · rfl

theorem Place.passesOver_of_no_name (place : Place) {key : Json}
    (hkey : ∀ name, key ≠ .string (some name)) (value : Json) :
    place.passesOver (key, value) = false := by
  unfold passesOver
  split
  · rfl
  · next heq => exact absurd (Prod.mk.inj heq).1 (hkey _)
  · rfl

/-- An entry is passed over if and only if it is whole and its key is not declared in the record of
an alternative. -/
theorem Place.passesOver_iff {place : Place} {names : List String}
    (hnames : place.fields = some names) (name : String) (value : Json) :
    place.passesOver (.string (some name), value) = true ↔
      value ≠ .broken ∧ place.ofAlternative = true ∧ name ∉ names := by
  cases value <;> simp [passesOver, hnames]

theorem pruneEntries_cons_of_strict {place : Place} (h : place.ofAlternative = false)
    (key value : Json) (rest : List (Json × Json)) :
    Json.pruneEntries place ((key, value) :: rest) =
      (key, value.prune (place.behind key)) :: Json.pruneEntries place rest := by
  rw [Json.pruneEntries, Place.passesOver_of_strict h]
  rfl

theorem Place.behind_other (key : Json) : Place.other.behind key = .other := by
  unfold behind
  split <;> rfl

mutual

theorem prune_other (json : Json) : json.prune .other = json := by
  match json with
  | .array items => rw [Json.prune, pruneItems_other items]
  | .object entries => rw [Json.prune, pruneEntries_other entries]
  | .null | .bool _ | .number _ | .string _ | .broken => rfl

theorem pruneItems_other (items : List Json) (i : Nat) :
    Json.pruneItems .other i items = items := by
  match items with
  | [] => rfl
  | item :: rest =>
    rw [Json.pruneItems, pruneItems_other rest, show Place.other.element i = .other from rfl,
      prune_other item]

theorem pruneEntries_other (entries : List (Json × Json)) :
    Json.pruneEntries .other entries = entries := by
  match entries with
  | [] => rfl
  | (key, value) :: rest =>
    rw [pruneEntries_cons_of_strict rfl, Place.behind_other, prune_other value,
      pruneEntries_other rest]

end

/-! ## Readers -/

variable {α σ : Type} {place : Place}

theorem samePruned_other (read : Json → Result α) : SamePruned .other read := by
  intro json
  rw [prune_other]

theorem samePruned_readOptional {read : Json → Result α} (h : SamePruned place read) :
    SamePruned place (readOptional read) := by
  intro json
  cases json with
  | null => rfl
  | _ => exact congrArg (Except.map some) (h _)

theorem mapM_pruneItems {read : Json → Result α} {item : Place}
    (hitem : ∀ i, place.element i = item) (h : SamePruned item read) (items : List Json) (i : Nat) :
    (Json.pruneItems place i items).mapM read = items.mapM read := by
  induction items generalizing i with
  | nil => rfl
  | cons first rest ih => rw [Json.pruneItems, List.mapM_cons, List.mapM_cons, hitem, h, ih]

theorem samePruned_readList {levels : Nat} {read : Json → Result α} {item : Place}
    (hitem : ∀ i, place.element i = item) (h : SamePruned item read) :
    SamePruned place (readList levels read) := by
  intro json
  cases json with
  | array items => rw [Json.prune, readList, readList, mapM_pruneItems hitem h]
  | _ => rfl

theorem readEntries_pruneEntries {insert : σ → String → Json → Result σ}
    (hstrict : place.ofAlternative = false)
    (h : ∀ s name, SamePruned (place.member name) (insert s name)) (s : σ)
    (entries : List (Json × Json)) :
    readEntries insert s (Json.pruneEntries place entries) = readEntries insert s entries := by
  induction entries generalizing s with
  | nil => rfl
  | cons entry rest ih =>
    obtain ⟨key, value⟩ := entry
    rw [pruneEntries_cons_of_strict hstrict]
    cases key with
    | string name => cases name with
      | none => rfl
      | some name =>
        rw [readEntries, readEntries, Place.behind, h s name]
        simp only [ih]
    | _ => rfl

theorem samePruned_readMap {levels : Nat} {start : σ} {insert : σ → String → Json → Result σ}
    (hstrict : place.ofAlternative = false)
    (h : ∀ s name, SamePruned (place.member name) (insert s name)) :
    SamePruned place (readMap levels start insert) := by
  intro json
  cases json with
  | object entries =>
    rw [Json.prune, readMap, readMap, readEntries_pruneEntries hstrict h]
  | _ => rfl

theorem isEmpty_pruneEntries (hstrict : place.ofAlternative = false)
    (entries : List (Json × Json)) :
    (Json.pruneEntries place entries).isEmpty = entries.isEmpty := by
  cases entries with
  | nil => rfl
  | cons entry rest =>
    obtain ⟨key, value⟩ := entry
    rw [pruneEntries_cons_of_strict hstrict]
    rfl

theorem samePruned_readChoice {alternatives : Alternatives} {levels : Nat}
    {read : String → Json → Result α} (hstrict : place.ofAlternative = false)
    (h : ∀ name, SamePruned (place.member name) (read name)) :
    SamePruned place (readChoice alternatives levels read) := by
  intro json
  cases json with
  | object entries => cases entries with
    | nil => rfl
    | cons entry rest =>
      obtain ⟨key, content⟩ := entry
      rw [Json.prune, pruneEntries_cons_of_strict hstrict, readChoice, readChoice,
        isEmpty_pruneEntries hstrict]
      -- the key says what is expected behind it only where it names an alternative
      rcases hname : readAlternative alternatives key with fault | name
      · rfl
      · have hread : read name (content.prune (place.behind key)) = read name content := by
          rw [readAlternative_eq_ok hname, Place.behind, h name]
        simp only [bind, Except.bind, hread]
  | _ => rfl

/-- The shape that records of a place have. -/
structure Place.Has (place : Place) (shape : Shape σ) : Prop where
  fields : place.fields = some (shape.fields.map Json.Field.name)
  strict : shape.strict = !place.ofAlternative

theorem readItems_pruneItems (shape : Shape σ) {fields : List (Json.Field σ)}
    (h : ∀ field ∈ fields, ∀ s, SamePruned (place.member field.name) fun json => field.read json s)
    {i : Nat} (helement : ∀ j field, fields[j]? = some field →
      place.element (i + j) = place.member field.name)
    (index : Nat) (s : σ) (items : List Json) :
    shape.readItems index s fields (Json.pruneItems place i items) =
      shape.readItems index s fields items := by
  induction fields generalizing i index s items with
  | nil => cases items <;> rfl
  | cons field fields ih => cases items with
    | nil => rfl
    | cons item rest =>
      have hplace : place.element i = place.member field.name := helement 0 field rfl
      have hfield : field.read (item.prune (place.member field.name)) s = field.read item s :=
        h field List.mem_cons_self s item
      -- the rest of the items stands one place further on
      have hrest := ih (fun field hmem => h field (List.mem_cons_of_mem _ hmem))
        (i := i + 1) fun j field' hj => by
          rw [Nat.add_right_comm]
          exact helement (j + 1) field' hj
      rw [Json.pruneItems, Shape.readItems, Shape.readItems, hplace, hfield]
      simp only [hrest]

theorem readFields_pruneEntries {shape : Shape σ} (hhas : place.Has shape)
    (h : ∀ field ∈ shape.fields, ∀ s,
      SamePruned (place.member field.name) fun json => field.read json s)
    (seen : List String) (s : σ) (entries : List (Json × Json)) :
    shape.readFields seen s (Json.pruneEntries place entries) =
      shape.readFields seen s entries := by
  induction entries generalizing seen s with
  | nil => rfl
  | cons entry rest ih =>
    obtain ⟨key, value⟩ := entry
    by_cases hname : ∃ name, key = .string (some name)
    · obtain ⟨name, rfl⟩ := hname
      have hover := Place.passesOver_iff hhas.fields name value
      rw [Json.pruneEntries]
      split
      · -- the entry is passed over, and its reader passes over it
        next hpass =>
        obtain ⟨hvalue, halternative, hmem⟩ := hover.mp hpass
        have hstrict : shape.strict = false := by rw [hhas.strict, halternative]; rfl
        rw [ih, Shape.readFields_ignored hstrict (by simpa using hmem) hvalue]
      · -- the entry stays
        next hpass =>
        simp only [Shape.readFields, Place.behind]
        split
        · next field hfind =>
          have hfield : field.name = name := by simpa using List.find?_some hfind
          have hread : field.read (value.prune (place.member name)) s = field.read value s := by
            rw [← hfield]
            exact h field (List.mem_of_find?_eq_some hfind) s value
          simp only [hread, ih]
        · next hfind =>
          split
          · rfl
          · next hstrict =>
            have hmem : name ∉ shape.fields.map Json.Field.name := by
              simpa using List.find?_eq_none.mp hfind
            have halternative : place.ofAlternative = true := by
              simpa [hhas.strict] using hstrict
            have hvalue : value = .broken := Classical.byContradiction fun hvalue =>
              hpass (hover.mpr ⟨hvalue, halternative, hmem⟩)
            rw [hvalue]
            rfl
    · -- a key that is no string is refused
      have hkey : ∀ name, key ≠ .string (some name) := by simpa using hname
      have hpass := place.passesOver_of_no_name hkey value
      rw [Json.pruneEntries, hpass, Shape.readFields_no_name shape hkey]
      exact Shape.readFields_no_name shape hkey _ _ _ _

theorem samePruned_read {shape : Shape σ} {levels : Nat} {blank : σ} (hhas : place.Has shape)
    (h : ∀ field ∈ shape.fields, ∀ s,
      SamePruned (place.member field.name) fun json => field.read json s) :
    SamePruned place (shape.read levels blank) := by
  intro json
  cases json with
  | array items =>
    -- a record that is written as an array of its fields
    have helement : ∀ j field, shape.fields[j]? = some field →
        place.element (0 + j) = place.member field.name := by
      intro j field hfield
      rw [Nat.zero_add, Place.element_of_fields hhas.fields, List.getElem?_map, hfield]
      rfl
    rw [Json.prune, Shape.read, Shape.read, readItems_pruneItems shape h helement]
  | object entries =>
    rw [Json.prune, Shape.read, Shape.read, readFields_pruneEntries hhas h]
  | _ => rfl

/-- A record of plain values only. -/
theorem samePruned_plain {shape : Shape σ} (hhas : place.Has shape)
    (hplain : ∀ name, place.member name = .other) (levels : Nat) (blank : σ) :
    SamePruned place (shape.read levels blank) := by
  refine samePruned_read hhas fun field _ s => ?_
  rw [hplain]
  exact samePruned_other _

/-- A record of one field. -/
theorem samePruned_single {shape : Shape σ} {levels : Nat} {blank : σ} (hhas : place.Has shape)
    {field : Json.Field σ} (hfields : shape.fields = [field])
    (h : ∀ s, SamePruned (place.member field.name) fun json => field.read json s) :
    SamePruned place (shape.read levels blank) := by
  refine samePruned_read hhas fun field' hfield => ?_
  rw [hfields] at hfield
  obtain rfl := List.mem_singleton.mp hfield
  exact h

theorem SamePruned.bind {β : Type} {read : Json → Result α} (h : SamePruned place read)
    (f : α → Result β) : SamePruned place fun json => read json >>= f := by
  intro json
  simp only [h json]

end AccessPolicy
