import AccessPolicy.Proofs.Json.Form
import AccessPolicy.Proofs.Related
import AccessPolicy.Proofs.Text.Integer
import AccessPolicy.Proofs.Yaml.Flow
import AccessPolicy.Yaml.Reader

/-!
# Reading records of both formats

Records in object form, and what the readers of YAML make of them and of the plain values in them.
The members of an object may stand in any order and may be missing where that says nothing. In YAML
they are looked up by name once all of them have been read.

Main results:

* `int64?_integer`, `uint32?_integer` — integers are read as what their digits say;
* `required_of_members`, `optional_of_members`, `withDefault_of_members` — fields are read whatever
  the order of the members.
-/

namespace AccessPolicy

namespace Json

/-! ## Integers -/

/-- The decimal digits of a number, without leading zeros. -/
def digitsOf (n : Nat) : List Nat :=
  if n < 10 then [n] else digitsOf (n / 10) ++ [n % 10]

/-- An integer as it is usually written. -/
def integer (n : Int) : Json :=
  .number ⟨n < 0, digitsOf n.natAbs, [], none⟩

theorem decimal_concat (digits : List Nat) (d : Nat) :
    decimal (digits ++ [d]) = decimal digits * 10 + d := by
  simp [decimal]

theorem decimal_digitsOf (n : Nat) : decimal (digitsOf n) = n := by
  induction n using digitsOf.induct with
  | case1 n h => rw [digitsOf, if_pos h]; simp [decimal]
  | case2 n h ih =>
    rw [digitsOf, if_neg h, decimal_concat, ih]
    omega

theorem lt_of_mem_digitsOf {n d : Nat} (h : d ∈ digitsOf n) : d < 10 := by
  induction n using digitsOf.induct with
  | case1 n hn =>
    rw [digitsOf, if_pos hn, List.mem_singleton] at h
    omega
  | case2 n hn ih =>
    rw [digitsOf, if_neg hn, List.mem_append, List.mem_singleton] at h
    rcases h with h | rfl
    · exact ih h
    · omega

theorem head?_digitsOf (n : Nat) :
    ∃ d, (digitsOf n).head? = some d ∧ (d = 0 → digitsOf n = [0]) := by
  induction n using digitsOf.induct with
  | case1 n hn =>
    rw [digitsOf, if_pos hn]
    exact ⟨n, rfl, fun h => by rw [h]⟩
  | case2 n hn ih =>
    -- the first digit is that of a tenth, which is not zero
    obtain ⟨d, hhead, hzero⟩ := ih
    rw [digitsOf, if_neg hn]
    refine ⟨d, by simp [hhead], fun h => ?_⟩
    have hdecimal := decimal_digitsOf (n / 10)
    rw [hzero h] at hdecimal
    simp only [decimal, List.foldl_cons, List.foldl_nil] at hdecimal
    omega

theorem writesInteger_integer (n : Int) : WritesInteger n (integer n) := by
  have hdecimal : (decimal (digitsOf n.natAbs) : Int) = n.natAbs := by rw [decimal_digitsOf]
  by_cases hn : n < 0
  · have hwrites : WritesInteger (-decimal (digitsOf n.natAbs))
        (.number ⟨true, digitsOf n.natAbs, [], none⟩) := by
      refine .negative ?_
      rw [decimal_digitsOf]
      omega
    have heq : -(decimal (digitsOf n.natAbs) : Int) = n := by omega
    rw [heq] at hwrites
    simpa [integer, hn] using hwrites
  · have hwrites : WritesInteger (decimal (digitsOf n.natAbs))
        (.number ⟨false, digitsOf n.natAbs, [], none⟩) := .natural
    have heq : (decimal (digitsOf n.natAbs) : Int) = n := by omega
    rw [heq] at hwrites
    simpa [integer, hn] using hwrites

/-! ## Records -/

/-- Members of an object that write a record, in any order, and maybe without those that may be
missing. -/
structure Members (forms : List FieldForm) (members : List (String × Json)) : Prop where
  names : (members.map Prod.fst).Nodup
  written : ∀ member ∈ members, ∃ form ∈ forms, form.name = member.1 ∧ form.Writes member.2
  missing : ∀ form ∈ forms, form.name ∈ members.map Prod.fst ∨ form.MayMiss

/-- An object of members. -/
def ofMembers (members : List (String × Json)) : Json :=
  .object (members.map fun member => entry member.1 member.2)

/-- The object form of a record. -/
def ObjectOf (forms : List FieldForm) (json : Json) : Prop :=
  ∃ members, Members forms members ∧ json = ofMembers members

/-- Whether a field is written in fewer ways than another. -/
structure FieldForm.Narrows (form other : FieldForm) : Prop where
  name : form.name = other.name
  writes : ∀ json, form.Writes json → other.Writes json
  mayMiss : form.MayMiss → other.MayMiss

theorem FieldForm.Narrows.refl (form : FieldForm) : form.Narrows form :=
  ⟨rfl, fun _ => id, id⟩

/-- The object form of a record is one of its forms. -/
theorem ObjectOf.recordOf {forms others : List FieldForm} {json : Json} (h : ObjectOf forms json)
    (hnarrows : List.Forall₂ FieldForm.Narrows forms others) : RecordOf others json := by
  obtain ⟨members, ⟨names, written, missing⟩, rfl⟩ := h
  refine .object names (fun member hmember => ?_) fun other hother => ?_
  · obtain ⟨form, hform, hname, hwrites⟩ := written member hmember
    obtain ⟨other, hother, hnarrow⟩ := exists_right_of_mem hnarrows hform
    exact ⟨other, hother, hnarrow.name ▸ hname, hnarrow.writes _ hwrites⟩
  · obtain ⟨form, hform, hnarrow⟩ := exists_left_of_mem hnarrows hother
    rw [← hnarrow.name]
    exact (missing form hform).imp_right hnarrow.mayMiss

theorem Tagged.imp {kind : String} {P Q : Json → Prop} {json : Json} (h : Tagged kind P json)
    (himp : ∀ content, P content → Q content) : Tagged kind Q json := by
  obtain ⟨content, rfl, hcontent⟩ := h
  exact ⟨content, rfl, himp content hcontent⟩

end Json

namespace Yaml

open Json

/-! ## Reading plain values -/

theorem text?_of_writes {s : String} {json : Json} (h : WritesText s json) :
    json.asYaml.text? = some s := by
  obtain rfl := h
  rfl

theorem bool?_of_writes {b : Bool} {json : Json} (h : WritesBool b json) :
    json.asYaml.bool? = some b := by
  obtain rfl := h
  cases b <;> rfl

theorem natOfDigits?_digits {digits : List Nat} (hne : digits ≠ []) (hlt : ∀ d ∈ digits, d < 10) :
    natOfDigits? 10 (digits.map Nat.digitChar) = some (decimal digits) := by
  -- both folds go on from the same number
  have hfold : ∀ n, (digits.map Nat.digitChar).foldlM (fun n c =>
      ((Text.hexDigit? c).filter (· < 10)).map (n * 10 + ·)) n =
        some (digits.foldl (fun n d => n * 10 + d) n) := by
    clear hne
    induction digits with
    | nil => intro n; rfl
    | cons d rest ih =>
      intro n
      obtain ⟨hd, hrest⟩ := List.forall_mem_cons.mp hlt
      rw [List.map_cons, List.foldlM_cons, Text.filter_hexDigit?_digitChar (by decide) hd]
      exact ih hrest (n * 10 + d)
  rw [natOfDigits?, if_neg (by simpa using hne)]
  exact hfold 0

/-- Digits without leading zeros have no mark of another base. -/
theorem natOfChars?_digitsOf (n : Nat) :
    natOfChars? ((digitsOf n).map Nat.digitChar) = some n := by
  obtain ⟨d, hhead, hzero⟩ := head?_digitsOf n
  have hne : digitsOf n ≠ [] := by
    intro hnil
    simp [hnil] at hhead
  have hread := natOfDigits?_digits hne fun d => lt_of_mem_digitsOf
  rw [decimal_digitsOf] at hread
  by_cases hd : d = 0
  · -- the only number with a zero in front is zero
    have hn := decimal_digitsOf n
    rw [hzero hd] at hn ⊢
    rw [← hn]
    rfl
  · obtain ⟨rest, hdigits⟩ : ∃ rest, digitsOf n = d :: rest := by
      obtain ⟨c, rest, hcons⟩ := List.exists_cons_of_ne_nil hne
      rw [hcons, List.head?_cons, Option.some_inj] at hhead
      exact ⟨rest, hhead ▸ hcons⟩
    have hfirst : Nat.digitChar d ≠ '0' := mt Nat.digitChar_eq_zero.mp hd
    rw [hdigits, List.map_cons] at hread ⊢
    rw [natOfChars?]
    · exact hread
    all_goals
      intros
      simp_all

theorem exists_digitChars (n : Nat) :
    ∃ c rest, (digitsOf n).map Nat.digitChar = c :: rest ∧ c.isDigit := by
  obtain ⟨d, hhead, -⟩ := head?_digitsOf n
  obtain ⟨rest, hdigits⟩ := List.head?_eq_some_iff.mp hhead
  have hd : d < 10 := lt_of_mem_digitsOf (by rw [hdigits]; exact List.mem_cons_self)
  refine ⟨Nat.digitChar d, rest.map Nat.digitChar, by rw [hdigits]; rfl, ?_⟩
  rw [Nat.isDigit_digitChar]
  exact decide_eq_true hd

theorem asYaml_integer (n : Int) : (Json.integer n).asYaml = .scalar true (String.ofList
    ((if n < 0 then ['-'] else []) ++ (digitsOf n.natAbs).map Nat.digitChar)) := by
  simp [Json.integer, asYaml, Number.integerText]

theorem integer?_integer {lo hi n : Int} (h : lo ≤ n ∧ n ≤ hi) :
    (Json.integer n).asYaml.integer? lo hi = some n := by
  by_cases hn : n < 0
  · obtain ⟨m, rfl⟩ : ∃ m : Nat, n = -m := ⟨n.natAbs, by omega⟩
    have hread := natOfChars?_digitsOf m
    rw [asYaml_integer, if_pos hn, Int.natAbs_neg, Int.natAbs_natCast, integer?]
    simp [hread, h]
  · obtain ⟨m, rfl⟩ : ∃ m : Nat, n = m := ⟨n.natAbs, by omega⟩
    have hread := natOfChars?_digitsOf m
    -- a digit is no sign
    obtain ⟨c, rest, hdigits, hc⟩ := exists_digitChars m
    have hminus : c ≠ '-' := by
      rintro rfl
      simp at hc
    have hplus : c ≠ '+' := by
      rintro rfl
      simp at hc
    rw [hdigits] at hread
    rw [asYaml_integer, if_neg hn, Int.natAbs_natCast, hdigits, integer?]
    simp [hread, hminus, hplus, h]

theorem int64?_integer {n : Int} (h : Text.fitsInt64 n) :
    (Json.integer n).asYaml.int64? = some n := by
  simp only [Text.fitsInt64, Bool.and_eq_true, decide_eq_true_eq] at h
  exact integer?_integer h

theorem uint32?_integer {n : Nat} (h : n ≤ 0xFFFFFFFF) :
    (Json.integer n).asYaml.uint32? = some n := by
  obtain ⟨c, rest, hdigits, hc⟩ := exists_digitChars n
  have hminus : c ≠ '-' := by
    rintro rfl
    simp at hc
  have hread : (Json.integer n).asYaml.integer? 0 0xFFFFFFFF = some (n : Int) :=
    integer?_integer (by omega)
  have hyaml : (Json.integer n).asYaml = .scalar true (String.ofList (c :: rest)) := by
    rw [asYaml_integer, if_neg (by omega), Int.natAbs_natCast, hdigits, List.nil_append]
  have hhead : (String.ofList (c :: rest)).toList.head? ≠ some '-' := by simpa using hminus
  rw [hyaml] at hread ⊢
  rw [uint32?, if_neg hhead, hread]
  rfl

/-! ## Reading records -/

/-- The fields that members make in YAML. -/
def fieldsOf (members : List (String × Json)) : Fields :=
  members.map fun member => (member.1, member.2.asYaml)

theorem entriesAsYaml_members (members : List (String × Json)) :
    entriesAsYaml (members.map fun member => entry member.1 member.2) =
      members.map fun member => (.scalar false member.1, member.2.asYaml) := by
  induction members with
  | nil => rfl
  | cons member rest ih =>
    rw [List.map_cons, entry, entriesAsYaml, ih]
    rfl

theorem entries?_ofMembers (members : List (String × Json)) {levels : Nat} (hlevels : levels ≠ 0) :
    (ofMembers members).asYaml.entries? levels = some (fieldsOf members) := by
  rw [ofMembers, asYaml, entriesAsYaml_members, entries?, if_neg hlevels]
  induction members with
  | nil => rfl
  | cons member rest ih =>
    rw [List.map_cons, List.mapM_cons, ih]
    rfl

section Members

variable {forms : List FieldForm} {members : List (String × Json)}

/-- Members of a record are its fields: none is repeated, and none is unknown. -/
theorem fields?_ofMembers (h : Members forms members) {declared : List String}
    (hdeclared : forms.map FieldForm.name = declared) {levels : Nat} (hlevels : levels ≠ 0)
    (strict : Bool) :
    (ofMembers members).asYaml.fields? levels declared strict = some (fieldsOf members) := by
  have hknown : ∀ field ∈ fieldsOf members, declared.contains field.1 = true := by
    intro field hfield
    obtain ⟨member, hmember, rfl⟩ := List.mem_map.mp hfield
    obtain ⟨form, hform, hname, -⟩ := h.written member hmember
    rw [List.contains_iff_mem, ← hdeclared, ← hname]
    exact List.mem_map_of_mem hform
  have hunknown :
      (fieldsOf members).filter (not ∘ fun field => declared.contains field.1) = [] := by
    rw [List.filter_eq_nil_iff]
    intro field hfield
    simp only [Function.comp_apply, hknown field hfield]
    decide
  have hnames : ((fieldsOf members).map Prod.fst).Nodup := by
    rw [fieldsOf, List.map_map]
    exact h.names
  rw [fields?, entries?_ofMembers members hlevels, Option.bind_eq_bind, Option.bind_some,
    List.partition_eq_filter_filter, List.filter_eq_self.mpr hknown, hunknown]
  simp [hnames]

/-- A field is found under its name, as it is written, or it is missing and may be. -/
theorem lookup_fieldsOf (h : Members forms members) (hforms : (forms.map FieldForm.name).Nodup)
    {form : FieldForm} (hform : form ∈ forms) :
    (∃ json, form.Writes json ∧ (fieldsOf members).lookup form.name = some json.asYaml) ∨
      form.MayMiss ∧ (fieldsOf members).lookup form.name = none := by
  have hnames : ((fieldsOf members).map Prod.fst).Nodup := by
    rw [fieldsOf, List.map_map]
    exact h.names
  by_cases hmem : form.name ∈ members.map Prod.fst
  · obtain ⟨member, hmember, hname⟩ := List.mem_map.mp hmem
    -- names of forms are all different, so the member is written by this form
    obtain ⟨other, hother, hsame, hwrites⟩ := h.written member hmember
    obtain rfl : other = form := List.inj_on_of_nodup_map hforms hother hform (hsame.trans hname)
    refine .inl ⟨member.2, hwrites, ?_⟩
    rw [lookup_eq_some_iff_mem hnames, ← hname]
    exact List.mem_map.mpr ⟨member, hmember, rfl⟩
  · refine .inr ⟨(h.missing form hform).resolve_left hmem, ?_⟩
    rw [List.lookup_eq_none_iff]
    intro field hfield
    obtain ⟨member, hmember, rfl⟩ := List.mem_map.mp hfield
    have hne : form.name ≠ member.1 := fun heq =>
      hmem (List.mem_map.mpr ⟨member, hmember, heq.symm⟩)
    simpa using hne

variable {α : Type} {name : String} {read : Yaml → Option α}

theorem required_of_members (h : Members forms members) (hforms : (forms.map FieldForm.name).Nodup)
    {P : Json → Prop} (hform : .always name P ∈ forms) {value : α}
    (hread : ∀ json, P json → read json.asYaml = some value) :
    (fieldsOf members).required name read = some value := by
  rcases lookup_fieldsOf h hforms hform with ⟨json, hwrites, hlookup⟩ | ⟨hmiss, -⟩
  · have hlookup : (fieldsOf members).lookup name = some json.asYaml := hlookup
    rw [Fields.required, hlookup]
    exact hread json hwrites
  · exact hmiss.elim

theorem withDefault_of_members (h : Members forms members)
    (hforms : (forms.map FieldForm.name).Nodup) {P : α → Json → Prop} {blank value : α}
    (hform : .default name P blank value ∈ forms)
    (hread : ∀ json, P value json → read json.asYaml = some value) :
    (fieldsOf members).withDefault name blank read = some value := by
  rcases lookup_fieldsOf h hforms hform with ⟨json, hwrites, hlookup⟩ | ⟨hmiss, hlookup⟩
  · have hlookup : (fieldsOf members).lookup name = some json.asYaml := hlookup
    rw [Fields.withDefault, hlookup]
    exact hread json hwrites
  · have hlookup : (fieldsOf members).lookup name = none := hlookup
    have hblank : value = blank := hmiss
    rw [Fields.withDefault, hlookup, hblank]

theorem optional_of_members (h : Members forms members) (hforms : (forms.map FieldForm.name).Nodup)
    {P : α → Json → Prop} {value : Option α} (hform : .optional name P value ∈ forms)
    (hread : ∀ a json, P a json → read json.asYaml = some a ∧ json.asYaml.isNull = false) :
    (fieldsOf members).optional name read = some value := by
  -- null stands for nothing, and no value that is there is taken for it
  have hvalue : ∀ json, WritesOptional P value json → optional? read json.asYaml = some value := by
    intro json hwrites
    cases value with
    | none =>
      obtain rfl : json = .null := hwrites
      rfl
    | some a =>
      obtain ⟨ha, hnull⟩ := hread a json hwrites
      simp [optional?, hnull, ha]
  exact withDefault_of_members h hforms (P := WritesOptional P) hform hvalue

end Members

/-! ## Choices, lists and maps -/

theorem choice?_of_tagged {kind : String} {P : Json → Prop} {json : Json} (h : Tagged kind P json)
    {levels : Nat} (hlevels : levels ≠ 0) :
    ∃ content, P content ∧ json.asYaml.choice? levels = some (kind, content.asYaml) := by
  obtain ⟨content, rfl, hcontent⟩ := h
  refine ⟨content, hcontent, ?_⟩
  simp [asYaml, entriesAsYaml, choice?, hlevels, text?]

section Collections

variable {α : Type} {read : Yaml → Option α}

theorem list?_nil {levels : Nat} (hlevels : levels ≠ 0) :
    (Json.array []).asYaml.list? levels read = some [] := by
  simp [asYaml, itemsAsYaml, list?, items?, hlevels]

theorem list?_cons {levels : Nat} {item : Json} {items : List Json} {a : α} {as : List α}
    (hitem : read item.asYaml = some a)
    (hitems : (Json.array items).asYaml.list? levels read = some as) :
    (Json.array (item :: items)).asYaml.list? levels read = some (a :: as) := by
  simp only [asYaml, itemsAsYaml, list?, items?] at hitems ⊢
  split at hitems
  · simp at hitems
  · next hlevels =>
    rw [if_neg hlevels]
    simp_all

end Collections

end Yaml

end AccessPolicy
