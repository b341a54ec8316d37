import AccessPolicy.Json.Reader
import AccessPolicy.Proofs.Except

/-!
# What a successful reading says about a value

Each reader of lists, maps, choices and records, by what it has read once it succeeds: the form of
the value, and which reader went over each of its parts.
-/

namespace AccessPolicy.Json

variable {α σ : Type}

/-- Whether the reader of a field has succeeded on a value, whatever it added the value to. -/
def Field.Takes (field : Field σ) (json : Json) : Prop :=
  ∃ s s', field.read json s = .ok s'

/-! ## Lists and maps -/

theorem mapM_eq_ok {read : Json → Result α} {items : List Json} {values : List α}
    (h : items.mapM read = .ok values) : ∀ item ∈ items, ∃ value, read item = .ok value := by
  induction items generalizing values with
  | nil => simp
  | cons item rest ih =>
    rw [List.mapM_cons] at h
    obtain ⟨value, hvalue, h⟩ := bind_eq_ok.mp h
    obtain ⟨values, hvalues, -⟩ := bind_eq_ok.mp h
    rw [List.forall_mem_cons]
    exact ⟨⟨value, hvalue⟩, ih hvalues⟩

theorem readList_eq_ok {levels : Nat} {read : Json → Result α} {json : Json} {values : List α}
    (h : readList levels read json = .ok values) :
    ∃ items, json = .array items ∧ ∀ item ∈ items, ∃ value, read item = .ok value := by
  cases json with
  | array items =>
    rw [readList] at h
    split at h
    · simp at h
    · exact ⟨items, rfl, mapM_eq_ok h⟩
  | _ => simp [readList] at h

theorem readEntries_eq_ok {insert : σ → String → Json → Result σ} {s s' : σ}
    {entries : List (Json × Json)} (h : readEntries insert s entries = .ok s') :
    ∀ entry ∈ entries, ∃ name s₁ s₂, entry.1 = .string (some name) ∧
      insert s₁ name entry.2 = .ok s₂ := by
  induction entries generalizing s with
  | nil => simp
  | cons entry rest ih =>
    obtain ⟨key, value⟩ := entry
    -- any other key would have been refused
    obtain ⟨name, rfl⟩ : ∃ name, key = .string (some name) := by
      cases key with
      | string name => cases name with
        | none => simp [readEntries] at h
        | some name => exact ⟨name, rfl⟩
      | _ => simp [readEntries] at h
    rw [readEntries] at h
    obtain ⟨s₂, hinsert, h⟩ := bind_eq_ok.mp h
    rw [List.forall_mem_cons]
    exact ⟨⟨name, s, s₂, rfl, hinsert⟩, ih h⟩

theorem readMap_eq_ok {levels : Nat} {insert : σ → String → Json → Result σ} {s s' : σ}
    {json : Json} (h : readMap levels s insert json = .ok s') :
    ∃ entries, json = .object entries ∧ ∀ entry ∈ entries, ∃ name s₁ s₂,
      entry.1 = .string (some name) ∧ insert s₁ name entry.2 = .ok s₂ := by
  cases json with
  | object entries =>
    rw [readMap] at h
    split at h
    · simp at h
    · exact ⟨entries, rfl, readEntries_eq_ok h⟩
  | _ => simp [readMap] at h

/-! ## Records -/

theorem Shape.readItems_eq_ok (shape : Shape σ) {fields : List (Field σ)} {items : List Json}
    {index : Nat} {s s' : σ} (h : shape.readItems index s fields items = .ok s') {i : Nat}
    {item : Json} (hitem : items[i]? = some item) :
    ∃ field : Field σ, fields[i]? = some field ∧ field.Takes item := by
  induction fields generalizing items index s i with
  | nil => cases items with
    | nil => simp at hitem
    | cons first rest => simp [readItems] at h
  | cons field fields ih => cases items with
    | nil => simp at hitem
    | cons first rest =>
      rw [readItems] at h
      obtain ⟨s₁, hfirst, h⟩ := bind_eq_ok.mp h
      cases i with
      | zero =>
        obtain rfl := Option.some.inj hitem
        exact ⟨field, rfl, s, s₁, hfirst⟩
      | succ i => exact ih h hitem

theorem Shape.readFields_no_name (shape : Shape σ) {key : Json}
    (hkey : ∀ name, key ≠ .string (some name)) (seen : List String) (s : σ) (value : Json)
    (rest : List (Json × Json)) :
    shape.readFields seen s ((key, value) :: rest) = .error .malformed := by
  cases key with
  | string name => cases name with
    | none => rfl
    | some name => exact absurd rfl (hkey name)
  | _ => rfl

/-- Every key of a record that was read is the name of a field whose reader took the value, or names
no field where such keys are ignored. -/
theorem Shape.readFields_eq_ok (shape : Shape σ) {entries : List (Json × Json)} {seen : List String}
    {s s' : σ} (h : shape.readFields seen s entries = .ok s') :
    ∀ entry ∈ entries, ∃ name, entry.1 = .string (some name) ∧
      ((∃ field ∈ shape.fields, field.name = name ∧ field.Takes entry.2) ∨
        (shape.strict = false ∧ ∀ field ∈ shape.fields, field.name ≠ name)) := by
  induction entries generalizing seen s with
  | nil => simp
  | cons entry rest ih =>
    obtain ⟨key, value⟩ := entry
    by_cases hkey : ∀ name, key ≠ .string (some name)
    · rw [shape.readFields_no_name hkey] at h
      simp at h
    obtain ⟨name, rfl⟩ : ∃ name, key = .string (some name) := by simpa using hkey
    simp only [readFields] at h
    rw [List.forall_mem_cons]
    split at h
    · -- a field of that name takes the value
      next field hfind =>
      split at h
      · simp at h
      · obtain ⟨s₁, hvalue, h⟩ := bind_eq_ok.mp h
        have hname : field.name = name := by simpa using List.find?_some hfind
        have htakes : field.Takes value := ⟨s, s₁, hvalue⟩
        exact ⟨⟨name, rfl, .inl ⟨field, List.mem_of_find?_eq_some hfind, hname, htakes⟩⟩, ih h⟩
    · -- no field has that name
      next hfind =>
      split at h
      · simp at h
      · next hstrict =>
        have hnone : ∀ field ∈ shape.fields, field.name ≠ name := by
          simpa using List.find?_eq_none.mp hfind
        have hrest : shape.readFields seen s rest = .ok s' := by
          cases value <;> first | exact h | simp at h
        exact ⟨⟨name, rfl, .inr ⟨Bool.not_eq_true _ ▸ hstrict, hnone⟩⟩, ih hrest⟩

/-- Where keys that name no field are ignored, an entry with such a key makes no difference, unless
the text goes wrong there. -/
theorem Shape.readFields_ignored {shape : Shape σ} (hstrict : shape.strict = false) {name : String}
    (hname : ∀ field ∈ shape.fields, field.name ≠ name) {value : Json} (hvalue : value ≠ .broken)
    (seen : List String) (s : σ) (rest : List (Json × Json)) :
    shape.readFields seen s ((.string (some name), value) :: rest) =
      shape.readFields seen s rest := by
  have hfind : (shape.fields.find? fun field => field.name = name) = none := by
    rw [List.find?_eq_none]
    simpa using hname
  simp only [readFields, hfind, hstrict, Bool.false_eq_true, if_false]

theorem Shape.read_eq_ok {shape : Shape σ} {levels : Nat} {blank s : σ} {json : Json}
    (h : shape.read levels blank json = .ok s) :
    (∃ items, json = .array items ∧ shape.readItems 0 blank shape.fields items = .ok s) ∨
      ∃ entries, json = .object entries ∧ shape.readFields [] blank entries = .ok s := by
  cases json with
  | array items =>
    rw [Shape.read] at h
    split at h
    · simp at h
    · exact .inl ⟨items, rfl, h⟩
  | object entries =>
    rw [Shape.read] at h
    split at h
    · simp at h
    · exact .inr ⟨entries, rfl, h⟩
  | _ => simp [Shape.read] at h

/-! ## Choices -/

theorem readAlternative_eq_ok {alternatives : Alternatives} {json : Json} {name : String}
    (h : readAlternative alternatives json = .ok name) : json = .string (some name) := by
  cases json with
  | string s => cases s with
    | none => simp [readAlternative] at h
    | some s =>
      rw [readAlternative] at h
      split at h
      · rw [Except.ok.inj h]
      · simp at h
  | _ => simp [readAlternative] at h

/-- A choice that is an object has one key, which says what its value is read as. -/
theorem readChoice_object_eq_ok {alternatives : Alternatives} {levels : Nat}
    {read : String → Json → Result α} {entries : List (Json × Json)} {a : α}
    (h : readChoice alternatives levels read (.object entries) = .ok a) :
    ∃ name content, entries = [(.string (some name), content)] ∧ read name content = .ok a := by
  cases entries with
  | nil => simp [readChoice] at h
  | cons entry rest =>
    obtain ⟨key, content⟩ := entry
    rw [readChoice] at h
    split at h
    · simp at h
    · obtain ⟨name, hname, h⟩ := bind_eq_ok.mp h
      obtain ⟨value, hvalue, h⟩ := bind_eq_ok.mp h
      split at h
      · next hrest =>
        obtain rfl := Except.ok.inj h
        obtain rfl := List.isEmpty_iff.mp hrest
        rw [readAlternative_eq_ok hname]
        exact ⟨name, content, rfl, hvalue⟩
      · simp at h

end AccessPolicy.Json
