import AccessPolicy.Json.Reader
import AccessPolicy.Proofs.Except
import AccessPolicy.Proofs.Related

/-!
# Forms of JSON values

How texts, truth values, integers, lists, choices and records are written as JSON, and that each
reader reads what is written in its form. The forms are the writer's side: they say which JSON
values stand for a value, and mention no reader.

A record has many forms. Its members may stand in any order, or without their names in the order of
the fields, and members that say nothing may be missing. What the reader has of a record depends
only on the names read so far. `Shape.Follows` says how, which settles all forms at once.

Main results:

* `readInteger_of_writes` — integers are read as what their digits say;
* `Shape.Follows.read_of_record` — a record is read in whatever form it is written.
-/

namespace AccessPolicy.Json

variable {α σ : Type}

/-! ## Plain values -/

def WritesText (s : String) (json : Json) : Prop :=
  json = .string (some s)

def WritesBool (b : Bool) (json : Json) : Prop :=
  json = .bool b

/-- The number that decimal digits write. -/
def decimal (digits : List Nat) : Nat :=
  digits.foldl (fun n d => n * 10 + d) 0

/-- An integer is written as digits only, and a minus sign if it is below zero. -/
inductive WritesInteger : Int → Json → Prop where
  | natural {digits : List Nat} : WritesInteger (decimal digits) (.number ⟨false, digits, [], none⟩)
  | negative {digits : List Nat} (h : decimal digits ≠ 0) :
    WritesInteger (-decimal digits) (.number ⟨true, digits, [], none⟩)

/-- A value that may be absent, for which `null` stands. -/
def WritesOptional (P : α → Json → Prop) : Option α → Json → Prop
  | none, json => json = .null
  | some a, json => P a json

/-- The only member of an object names the kind of a value, and holds its content. -/
def Tagged (kind : String) (P : Json → Prop) (json : Json) : Prop :=
  ∃ content, json = .object [(.string (some kind), content)] ∧ P content

/-! ## Records -/

/-- How a field of a record with known values is written: its name, the values that write it, and
whether it may be missing. -/
structure FieldForm where
  name : String
  Writes : Json → Prop
  MayMiss : Prop

/-- A field that is always written. -/
def FieldForm.always (name : String) (P : Json → Prop) : FieldForm :=
  ⟨name, P, False⟩

/-- A field that is missing or `null` if it has no value. -/
def FieldForm.optional (name : String) (P : α → Json → Prop) (value : Option α) : FieldForm :=
  ⟨name, WritesOptional P value, value = none⟩

/-- A field that may be missing if it has a certain value. -/
def FieldForm.default (name : String) (P : α → Json → Prop) (blank value : α) : FieldForm :=
  ⟨name, P value, value = blank⟩

/-- An entry of an object. -/
def entry (name : String) (value : Json) : Json × Json :=
  (.string (some name), value)

/-- The forms of a record: an object of its fields in any order, or an array of them in theirs. -/
inductive RecordOf (forms : List FieldForm) : Json → Prop where
  | object {members : List (String × Json)} (names : (members.map Prod.fst).Nodup)
    (written : ∀ member ∈ members, ∃ form ∈ forms, form.name = member.1 ∧ form.Writes member.2)
    (missing : ∀ form ∈ forms, form.name ∈ members.map Prod.fst ∨ form.MayMiss) :
    RecordOf forms (.object (members.map fun member => entry member.1 member.2))
  | array {written missing : List FieldForm} {items : List Json}
    (hforms : forms = written ++ missing) (hitems : List.Forall₂ FieldForm.Writes written items)
    (hmissing : ∀ form ∈ missing, form.MayMiss) : RecordOf forms (.array items)

/-! ## Reading plain values -/

theorem readText_of_writes {s : String} {json : Json} (h : WritesText s json) :
    readText json = .ok s := by
  obtain rfl := h
  rfl

theorem readBool_of_writes {b : Bool} {json : Json} (h : WritesBool b json) :
    readBool json = .ok b := by
  obtain rfl := h
  rfl

theorem le_foldl_decimal (n : Nat) (digits : List Nat) :
    n ≤ digits.foldl (fun n d => n * 10 + d) n := by
  induction digits generalizing n with
  | nil => exact Nat.le_refl n
  | cons d rest ih => exact Nat.le_trans (by omega) (ih (n * 10 + d))

/-- Digits are taken in to the last one as long as the number fits. -/
theorem significand_of_le {n : Nat} {digits : List Nat}
    (h : digits.foldl (fun n d => n * 10 + d) n ≤ Number.maxSignificand) :
    Number.significand n digits = (digits.foldl (fun n d => n * 10 + d) n, 0) := by
  induction digits generalizing n with
  | nil => rfl
  | cons d rest ih =>
    have hle : n * 10 + d ≤ Number.maxSignificand := Nat.le_trans (le_foldl_decimal _ rest) h
    rw [Number.significand, if_neg (Nat.not_lt.mpr hle), ih h]
    rfl

theorem value?_natural {digits : List Nat} (h : decimal digits ≤ Number.maxSignificand) :
    Number.value? ⟨false, digits, [], none⟩ = some (.natural (decimal digits)) := by
  simp [Number.value?, significand_of_le h, decimal]

theorem value?_negative {digits : List Nat} (hne : decimal digits ≠ 0)
    (h : decimal digits ≤ Number.maxNegative) :
    Number.value? ⟨true, digits, [], none⟩ = some (.negative (decimal digits)) := by
  have hmax : Number.maxNegative ≤ Number.maxSignificand := by decide
  have hsignificand : Number.significand 0 digits = (decimal digits, 0) :=
    significand_of_le (Nat.le_trans h hmax)
  simp_all [Number.value?, decimal]

/-- An integer of a range within 64 bits is read. -/
theorem readInteger_of_writes {name : String} {lo hi n : Int} {json : Json}
    (h : WritesInteger n json) (hlo : Text.minInt64 ≤ lo) (hhi : hi ≤ Text.maxInt64)
    (hn : lo ≤ n ∧ n ≤ hi) : readInteger name lo hi json = .ok n := by
  cases h with
  | @natural digits =>
    have hle : decimal digits ≤ Number.maxSignificand := by
      simp only [Text.maxInt64, Number.maxSignificand] at *
      omega
    simp [readInteger, value?_natural hle, hn]
  | @negative digits hne =>
    have hle : decimal digits ≤ Number.maxNegative := by
      simp only [Text.minInt64, Number.maxNegative] at *
      omega
    simp [readInteger, value?_negative hne hle, hn]

theorem readOptional_of_writes {read : Json → Result α} {P : α → Json → Prop} {value : Option α}
    {json : Json} (h : WritesOptional P value json) (hread : ∀ a, P a json → read json = .ok a)
    (hnull : ∀ a, ¬ P a .null) : readOptional read json = .ok value := by
  cases value with
  | none =>
    obtain rfl : json = .null := h
    rfl
  | some a =>
    cases json with
    | null => exact absurd h (hnull a)
    | _ =>
      simp only [readOptional, hread a h]
      rfl

/-- What is tagged with an alternative is read as its content. -/
theorem readChoice_of_tagged {alternatives : Alternatives} {levels : Nat}
    {read : String → Json → Result α} {kind : String} {P : Json → Prop} {json : Json} {a : α}
    (h : Tagged kind P json) (hlevels : levels ≠ 0) (hkind : alternatives.any (·.1 = kind))
    (hread : ∀ content, P content → read kind content = .ok a) :
    readChoice alternatives levels read json = .ok a := by
  obtain ⟨content, rfl, hcontent⟩ := h
  have halternative : readAlternative alternatives (.string (some kind)) = .ok kind := by
    rw [readAlternative, if_pos hkind]
  have hvalue := hread content hcontent
  rw [readChoice, if_neg hlevels]
  exact bind_eq_ok.mpr ⟨kind, halternative, bind_eq_ok.mpr ⟨a, hvalue, rfl⟩⟩

/-! ## Reading records -/

/-- What a reader has of a record of which some names were read: the value itself for a field that
was read, and else the blank value. -/
def part (seen : List String) (name : String) (value blank : α) : α :=
  if name ∈ seen then value else blank

theorem part_eq {seen : List String} {name : String} {value blank : α}
    (h : name ∈ seen ∨ value = blank) : part seen name value blank = value := by
  rcases h with hseen | rfl
  · rw [part, if_pos hseen]
  · rw [part, ite_self]

/-- The reader of a field takes what its form writes, and goes on to the next state. -/
structure Field.Follows (field : Field σ) (form : FieldForm) (state : List String → σ) : Prop where
  name : field.name = form.name
  required : field.required → ¬ form.MayMiss
  read : ∀ seen json, form.Writes json →
    field.read json (state seen) = .ok (state (field.name :: seen))

/-- What a reader has of a record is known from the names it has read so far, and is all of the
record as soon as every name has been read that cannot be missing. -/
structure Shape.Follows (shape : Shape σ) (forms : List FieldForm) (state : List String → σ)
    (whole : σ) : Prop where
  names : (shape.fields.map Field.name).Nodup
  fields : List.Forall₂ (fun field form => field.Follows form state) shape.fields forms
  whole : ∀ seen, (∀ form ∈ forms, form.name ∈ seen ∨ form.MayMiss) → state seen = whole

theorem find?_name {fields : List (Field σ)} (hnames : (fields.map Field.name).Nodup)
    {field : Field σ} (h : field ∈ fields) :
    fields.find? (fun other => other.name = field.name) = some field := by
  induction fields with
  | nil => simp at h
  | cons first rest ih =>
    obtain ⟨hfirst, hrest⟩ := List.nodup_cons.mp hnames
    rcases List.mem_cons.mp h with rfl | hmem
    · simp
    · have hne : first.name ≠ field.name := by
        intro heq
        exact hfirst (heq ▸ List.mem_map_of_mem hmem)
      simp [hne, ih hrest hmem]

variable {shape : Shape σ} {forms : List FieldForm} {state : List String → σ} {whole : σ}

/-- As soon as every name has been read that cannot be missing, no required field is missed. -/
theorem Shape.Follows.find?_missing (hfollows : shape.Follows forms state whole)
    {seen : List String} (hall : ∀ form ∈ forms, form.name ∈ seen ∨ form.MayMiss) :
    (shape.fields.find? fun field => field.required && !seen.contains field.name) = none := by
  rw [List.find?_eq_none]
  intro field hfield hmissed
  obtain ⟨hrequired, hunseen⟩ : field.required = true ∧ field.name ∉ seen := by
    simpa using hmissed
  obtain ⟨form, hform, hfield⟩ := exists_right_of_mem hfollows.fields hfield
  rcases hall form hform with hseen | hmiss
  · exact hunseen (hfield.name ▸ hseen)
  · exact hfield.required hrequired hmiss

/-- Members with names are read whatever their order. -/
theorem Shape.readFields_of_members (hfollows : shape.Follows forms state whole)
    {members : List (String × Json)} {seen : List String}
    (names : (members.map Prod.fst).Nodup) (fresh : ∀ member ∈ members, member.1 ∉ seen)
    (written : ∀ member ∈ members, ∃ form ∈ forms, form.name = member.1 ∧ form.Writes member.2)
    (missing : ∀ form ∈ forms, form.name ∈ seen ∨ form.name ∈ members.map Prod.fst ∨ form.MayMiss) :
    shape.readFields seen (state seen) (members.map fun member => entry member.1 member.2) =
      .ok whole := by
  induction members generalizing seen with
  | nil =>
    have hall : ∀ form ∈ forms, form.name ∈ seen ∨ form.MayMiss := by simpa using missing
    simp only [List.map_nil, readFields, hfollows.find?_missing hall, hfollows.whole seen hall]
  | cons member rest ih =>
    -- names of fields are all different, so the name leads to the field of the member's form
    obtain ⟨name, value⟩ := member
    obtain ⟨form, hform, rfl, hvalue⟩ := written _ List.mem_cons_self
    obtain ⟨field, hmem, hfield⟩ := exists_left_of_mem hfollows.fields hform
    have hfind := find?_name hfollows.names hmem
    obtain ⟨hname, hrest⟩ := List.nodup_cons.mp names
    have hseen : form.name ∉ seen := fresh _ List.mem_cons_self
    have hread := hfield.read seen value hvalue
    rw [hfield.name] at hfind hread
    have hcontains : seen.contains form.name = false := by simpa using hseen
    simp only [List.map_cons, entry, readFields, hfind, hcontains, Bool.false_eq_true, if_false,
      hread]
    refine ih hrest (fun member hmember => ?_) (fun member hmember => ?_) (fun other hother => ?_)
    · rw [List.mem_cons, not_or]
      refine ⟨?_, fresh member (List.mem_cons_of_mem _ hmember)⟩
      intro heq
      have hmem : member.1 ∈ rest.map Prod.fst := List.mem_map_of_mem hmember
      exact hname (heq ▸ hmem)
    · exact written member (List.mem_cons_of_mem _ hmember)
    · rw [List.mem_cons]
      rcases missing other hother with hread | hmem | hmiss
      · exact .inl (.inr hread)
      · rcases List.mem_cons.mp hmem with heq | hmem
        · exact .inl (.inl heq)
        · exact .inr (.inl hmem)
      · exact .inr (.inr hmiss)

/-- Fields that may be missing at the end of an array leave what was read as it is. -/
theorem Shape.readItems_nil {fields : List (Field σ)} (h : ∀ field ∈ fields, field.required = false)
    (index : Nat) (s : σ) : shape.readItems index s fields [] = .ok s := by
  induction fields generalizing index with
  | nil => rfl
  | cons field rest ih =>
    obtain ⟨hfield, hrest⟩ := List.forall_mem_cons.mp h
    simp only [readItems, hfield, Bool.false_eq_true, if_false, ih hrest]

/-- Items without names are read in the order of the fields. -/
theorem Shape.readItems_of_written {fields : List (Field σ)} {written missing : List FieldForm}
    {items : List Json} {index : Nat} {seen : List String}
    (hfields : List.Forall₂ (fun field form => field.Follows form state) fields
      (written ++ missing))
    (hitems : List.Forall₂ FieldForm.Writes written items)
    (hmissing : ∀ form ∈ missing, form.MayMiss)
    (hwhole : ∀ seen', (∀ name ∈ seen, name ∈ seen') → (∀ form ∈ written, form.name ∈ seen') →
      state seen' = whole) :
    shape.readItems index (state seen) fields items = .ok whole := by
  induction hitems generalizing fields index seen with
  | nil =>
    -- the forms left may be missing, so no field that is left is required
    have hrequired : ∀ field ∈ fields, field.required = false := by
      intro field hfield
      obtain ⟨form, hform, hfield⟩ := exists_right_of_mem hfields hfield
      rw [Bool.eq_false_iff]
      exact fun hrequired => hfield.required hrequired (hmissing form hform)
    rw [readItems_nil hrequired, hwhole seen (fun _ hname => hname) (by simp)]
  | @cons form item written items hitem _ ih =>
    cases hfields with
    | cons hfield hfields =>
      simp only [readItems, hfield.read seen item hitem]
      refine ih hfields fun seen' hseen hwritten => ?_
      rw [List.forall_mem_cons, hfield.name] at hseen
      exact hwhole seen' hseen.2 (List.forall_mem_cons.mpr ⟨hseen.1, hwritten⟩)

/-- A record is read in whatever form it is written. -/
theorem Shape.Follows.read_of_record (hfollows : shape.Follows forms state whole) {json : Json}
    (h : RecordOf forms json) {levels : Nat} (hlevels : levels ≠ 0) :
    shape.read levels (state []) json = .ok whole := by
  cases h with
  | object names written missing =>
    rw [read, if_neg hlevels]
    exact readFields_of_members hfollows names (by simp) written fun form hform =>
      .inr (missing form hform)
  | @array written missing items hforms hitems hmissing =>
    subst hforms
    rw [read, if_neg hlevels]
    refine readItems_of_written hfollows.fields hitems hmissing fun seen _ hwritten => ?_
    refine hfollows.whole seen fun form hform => ?_
    rcases List.mem_append.mp hform with hmem | hmem
    · exact .inl (hwritten form hmem)
    · exact .inr (hmissing form hmem)

/-! ## Fields and records that are put together -/

/-- A field that is read by a reader of its own, and then set. -/
theorem Field.follows_of_read {field : Field σ} {form : FieldForm} {read : Json → Result α}
    {set : σ → α → σ} {value : α} (hname : field.name = form.name)
    (hrequired : field.required → ¬ form.MayMiss)
    (hfield : ∀ json s, field.read json s = do return set s (← read json))
    (hread : ∀ json, form.Writes json → read json = .ok value)
    (hset : ∀ seen, set (state seen) value = state (form.name :: seen)) :
    field.Follows form state := by
  refine ⟨hname, hrequired, fun seen json hjson => ?_⟩
  rw [hfield, bind_pure_of_eq_ok (hread json hjson), hset, hname]

theorem Field.follows_always {name : String} {read : Json → Result α} {set : σ → α → σ}
    {P : Json → Prop} {value : α} (hread : ∀ json, P json → read json = .ok value)
    (hset : ∀ seen, set (state seen) value = state (name :: seen)) :
    Field.Follows ⟨name, true, fun json s => do return set s (← read json)⟩
      (.always name P) state :=
  follows_of_read rfl (fun _ => id) (fun _ _ => rfl) hread hset

theorem Field.follows_optional {name : String} {read : Json → Result α}
    {set : σ → Option α → σ} {P : α → Json → Prop} {value : Option α}
    (hread : ∀ a json, P a json → read json = .ok a) (hnull : ∀ a, ¬ P a .null)
    (hset : ∀ seen, set (state seen) value = state (name :: seen)) :
    Field.Follows ⟨name, false, fun json s => do return set s (← readOptional read json)⟩
      (.optional name P value) state :=
  follows_of_read rfl nofun (fun _ _ => rfl)
    (fun json hjson => readOptional_of_writes hjson (fun a => hread a json) hnull) hset

theorem Field.follows_default {name : String} {read : Json → Result α} {set : σ → α → σ}
    {P : α → Json → Prop} {blank value : α} (hread : ∀ json, P value json → read json = .ok value)
    (hset : ∀ seen, set (state seen) value = state (name :: seen)) :
    Field.Follows ⟨name, false, fun json s => do return set s (← read json)⟩
      (.default name P blank value) state :=
  follows_of_read rfl nofun (fun _ _ => rfl) hread hset

/-- A record of one field, which decides all of it. -/
theorem Shape.read_of_single {shape : Shape α} {field : Field α} {form : FieldForm}
    {whole blank : α} (hfields : shape.fields = [field]) (hname : field.name = form.name)
    (hrequired : field.required → ¬ form.MayMiss)
    (hread : ∀ json s, form.Writes json → field.read json s = .ok whole)
    (hmiss : form.MayMiss → whole = blank) {json : Json} (h : RecordOf [form] json) {levels : Nat}
    (hlevels : levels ≠ 0) : shape.read levels blank json = .ok whole := by
  have hfollows : shape.Follows [form] (fun seen => part seen form.name whole blank) whole := by
    refine ⟨by simp [hfields], ?_, fun seen hall => ?_⟩
    · rw [hfields]
      refine .cons ⟨hname, hrequired, fun seen json hjson => ?_⟩ .nil
      rw [hread json _ hjson, hname, part, if_pos List.mem_cons_self]
    · exact part_eq ((List.forall_mem_singleton.mp hall).imp_right hmiss)
  exact hfollows.read_of_record h hlevels

/-! ## Reading lists -/

theorem readList_nil {levels : Nat} (hlevels : levels ≠ 0) (read : Json → Result α) :
    readList levels read (.array []) = .ok [] := by
  rw [readList, if_neg hlevels]
  rfl

theorem readList_cons {levels : Nat} {read : Json → Result α} {item : Json} {items : List Json}
    {a : α} {as : List α} (hitem : read item = .ok a)
    (hitems : readList levels read (.array items) = .ok as) :
    readList levels read (.array (item :: items)) = .ok (a :: as) := by
  rw [readList] at hitems ⊢
  split at hitems
  · simp at hitems
  · next hlevels =>
    rw [if_neg hlevels, List.mapM_cons, hitem, hitems]
    rfl

end AccessPolicy.Json
