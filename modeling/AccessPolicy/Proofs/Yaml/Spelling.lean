import AccessPolicy.Proofs.Text.Integer
import AccessPolicy.Proofs.Yaml.Fields

/-!
# What can be spelled in both formats

The texts that JSON and YAML have in common leave nothing out: every string has one, every integer,
and every record, list or map of what has one, as long as its names fit into keys.

Main results:

* `exists_commonString` — every string can be spelled;
* `canBeSpelled_objectOf` — so can every record whose fields can.
-/

namespace AccessPolicy.Json

/-! ## Strings -/

/-- Sixteen bits are spelled by four digits. -/
theorem exists_hexDigits {n : Nat} (h : n < 0x10000) :
    ∃ x₁ x₂ x₃ x₄, Text.hexValue? [x₁, x₂, x₃, x₄] = some n := by
  refine ⟨Nat.digitChar (n / 4096), Nat.digitChar (n / 256 % 16), Nat.digitChar (n / 16 % 16),
    Nat.digitChar (n % 16), ?_⟩
  have hdigits : Text.hexDigit? (Nat.digitChar (n / 4096)) = some (n / 4096) :=
    Text.hexDigit?_digitChar (by omega)
  have hmod (m : Nat) : Text.hexDigit? (Nat.digitChar (m % 16)) = some (m % 16) :=
    Text.hexDigit?_digitChar (Nat.mod_lt m (by decide))
  simp only [Text.hexValue?, List.foldlM_cons, List.foldlM_nil, hdigits, hmod, Option.map_some,
    Option.bind_eq_bind, Option.bind_some, Option.pure_def, Option.some_inj]
  omega

/-- Every character has a spelling in both formats: all that need an escape have sixteen bits. -/
theorem exists_commonChar (c : Char) : ∃ text, CommonChar c text := by
  by_cases hc : standsForItself c
  · exact ⟨_, .plain hc⟩
  · have hlt : c.toNat < 0x10000 := by
      -- beyond sixteen bits YAML allows all characters, and none of them is a break
      by_contra hge
      have hne : ∀ d : Char, d.toNat < 0x10000 → c ≠ d := by
        rintro d hd rfl
        omega
      refine hc ?_
      have hallowed : 0x10000 ≤ c.toNat := by omega
      have hcontrol : 0x20 ≤ c.toNat := by omega
      simp [standsForItself, isPlain, Yaml.isAllowed, Yaml.isBreak, hne, hallowed, hcontrol]
    obtain ⟨_, _, _, _, hdigits⟩ := exists_hexDigits hlt
    exact ⟨_, .unit hdigits⟩

theorem exists_commonString (s : String) : ∃ text, CommonString s text := by
  have hchars : ∀ cs : List Char, ∃ text, CommonChars cs text := by
    intro cs
    induction cs with
    | nil => exact ⟨[], .nil⟩
    | cons c cs ih =>
      obtain ⟨first, hfirst⟩ := exists_commonChar c
      obtain ⟨rest, hrest⟩ := ih
      exact ⟨first ++ rest, .cons hfirst hrest⟩
  obtain ⟨text, htext⟩ := hchars s.toList
  have hspelled := CommonString.mk htext
  rw [String.ofList_toList] at hspelled
  exact ⟨_, hspelled⟩

/-- A string of characters that stand for themselves may be written as it is. -/
theorem commonString_self {s : String} (h : s.toList.all standsForItself) :
    CommonString s ('"' :: s.toList ++ ['"']) := by
  have hchars : ∀ cs : List Char, cs.all standsForItself → CommonChars cs cs := by
    intro cs hcs
    induction cs with
    | nil => exact .nil
    | cons c rest ih =>
      obtain ⟨hc, hrest⟩ := Bool.and_eq_true_iff.mp hcs
      exact .cons (.plain hc) (ih hrest)
  have hspelled := CommonString.mk (hchars s.toList h)
  rwa [String.ofList_toList] at hspelled

theorem quoted_length (text : List Char) : ('"' :: text ++ ['"']).length = text.length + 2 := by
  simp

/-- Whether a name fits into a key: it can be spelled in quotes within the length of a key. -/
def FitsKey (name : String) : Prop :=
  ∃ key, CommonString name key ∧ key.length ≤ maxKeyLength

/-- Whether a name fits into a key without an escape. -/
def isShortName (name : String) : Bool :=
  name.toList.all standsForItself && name.toList.length + 2 ≤ maxKeyLength

theorem fitsKey_of_isShortName {name : String} (h : isShortName name) : FitsKey name := by
  obtain ⟨hplain, hlength⟩ := Bool.and_eq_true_iff.mp h
  refine ⟨_, commonString_self hplain, ?_⟩
  rw [quoted_length]
  exact of_decide_eq_true hlength

/-! ## Plain values -/

/-- Whether some value of a kind has a text in both formats. -/
def CanBeSpelled (P : Json → Prop) : Prop :=
  ∃ json text, P json ∧ Common json text

theorem canBeSpelled_text (s : String) : CanBeSpelled (WritesText s) := by
  obtain ⟨text, h⟩ := exists_commonString s
  exact ⟨_, text, rfl, .string h⟩

theorem canBeSpelled_bool (b : Bool) : CanBeSpelled (WritesBool b) := by
  cases b with
  | false => exact ⟨_, _, rfl, .false⟩
  | true => exact ⟨_, _, rfl, .true⟩

theorem common_integer (n : Int) : Common (.integer n)
    ((if n < 0 then ['-'] else []) ++ (digitsOf n.natAbs).map Nat.digitChar) := by
  obtain ⟨d, hhead, honly⟩ := head?_digitsOf n.natAbs
  have hspelled : DigitsSpelled (digitsOf n.natAbs) ((digitsOf n.natAbs).map Nat.digitChar) := by
    refine ⟨?_, ?_, ?_⟩
    · intro hnil
      rw [List.map_eq_nil_iff] at hnil
      simp [hnil] at hhead
    · intro c hc
      obtain ⟨d, hd, rfl⟩ := List.mem_map.mp hc
      rw [Nat.isDigit_digitChar]
      exact decide_eq_true (lt_of_mem_digitsOf hd)
    · rw [List.map_map]
      refine (List.map_id _).symm.trans (List.map_congr_left fun d hd => ?_)
      exact (Nat.toNat_digitChar_sub_48_of_lt_ten (lt_of_mem_digitsOf hd)).symm
  have hzero : (digitsOf n.natAbs).head? = some 0 → (digitsOf n.natAbs).length = 1 := by
    intro hzero
    rw [hzero, Option.some_inj] at hhead
    rw [honly hhead.symm]
    rfl
  have hcommon := @Common.integer (n < 0) _ _ hspelled hzero
  simpa only [integer, decide_eq_true_eq] using hcommon

theorem canBeSpelled_integer (n : Int) : CanBeSpelled (· = .integer n) :=
  ⟨_, _, rfl, common_integer n⟩

theorem canBeSpelled_optional {α : Type} {P : α → Json → Prop} {value : Option α}
    (h : ∀ a ∈ value, CanBeSpelled (P a)) : CanBeSpelled (WritesOptional P value) := by
  cases value with
  | none => exact ⟨.null, _, rfl, .null⟩
  | some a => exact h a rfl

theorem CanBeSpelled.and {P : Json → Prop} (h : CanBeSpelled P) {q : Prop} (hq : q) :
    CanBeSpelled fun json => q ∧ P json := by
  obtain ⟨json, text, hjson, htext⟩ := h
  exact ⟨json, text, ⟨hq, hjson⟩, htext⟩

/-! ## Collections -/

theorem spaced_self (inner : List Char) : Spaced inner inner := by
  have hspaced : Spaced inner ([] ++ inner ++ []) := .mk (by decide) (by decide)
  simpa using hspaced

theorem exists_commonEntry {name : String} (hname : FitsKey name) {json : Json} {inner : List Char}
    (h : Common json inner) : ∃ text, CommonEntry (entry name json) text := by
  obtain ⟨key, hkey, hlength⟩ := hname
  have hentry : CommonEntry (entry name json) ([] ++ key ++ [] ++ ':' :: inner) :=
    .mk (by decide) hkey (by decide) (by rwa [List.append_nil]) h (spaced_self inner)
  exact ⟨_, hentry⟩

/-- An object is spelled entry by entry. -/
theorem exists_common_object {entries : List (Json × Json)}
    (h : ∀ entry ∈ entries, ∃ text, CommonEntry entry text) :
    ∃ text, Common (.object entries) text := by
  cases entries with
  | nil => exact ⟨_, .emptyObject (List.forall_mem_nil _)⟩
  | cons first rest =>
    have hentries : ∃ text, CommonEntries (first :: rest) text := by
      induction rest generalizing first with
      | nil =>
        obtain ⟨text, htext⟩ := h first List.mem_cons_self
        exact ⟨text, .one htext⟩
      | cons second rest ih =>
        obtain ⟨⟨text, htext⟩, hmore⟩ := List.forall_mem_cons.mp h
        obtain ⟨more, hmore⟩ := ih second hmore
        exact ⟨_, .more htext hmore⟩
    obtain ⟨text, htext⟩ := hentries
    exact ⟨_, .object htext⟩

/-- An array is spelled item by item. -/
theorem canBeSpelled_array {P : Json → Prop} {items : List Json} (hitems : P (.array items))
    (h : ∀ item ∈ items, ∃ text, Common item text) : CanBeSpelled P := by
  cases items with
  | nil => exact ⟨_, _, hitems, .emptyArray (List.forall_mem_nil _)⟩
  | cons first rest =>
    have hspelled : ∃ text, CommonItems (first :: rest) text := by
      clear hitems
      induction rest generalizing first with
      | nil =>
        obtain ⟨text, htext⟩ := h first List.mem_cons_self
        exact ⟨text, .one htext (spaced_self text)⟩
      | cons second rest ih =>
        obtain ⟨⟨text, htext⟩, hmore⟩ := List.forall_mem_cons.mp h
        obtain ⟨more, hmore⟩ := ih second hmore
        exact ⟨_, .more htext (spaced_self text) hmore⟩
    obtain ⟨text, htext⟩ := hspelled
    exact ⟨_, _, hitems, .array htext⟩

theorem canBeSpelled_tagged {kind : String} (hkind : isShortName kind) {P : Json → Prop}
    (h : CanBeSpelled P) : CanBeSpelled (Tagged kind P) := by
  obtain ⟨json, inner, hjson, hinner⟩ := h
  have hentries : ∀ member ∈ [entry kind json], ∃ text, CommonEntry member text := by
    rw [List.forall_mem_singleton]
    exact exists_commonEntry (fitsKey_of_isShortName hkind) hinner
  obtain ⟨text, htext⟩ := exists_common_object hentries
  exact ⟨_, text, ⟨json, rfl, hjson⟩, htext⟩

/-- A record can be spelled with all of its fields. -/
theorem canBeSpelled_objectOf {forms : List FieldForm} {names : List String}
    (hforms : forms.map FieldForm.name = names) (hnames : names.Nodup ∧ names.all isShortName)
    (h : ∀ form ∈ forms, CanBeSpelled form.Writes) : CanBeSpelled (ObjectOf forms) := by
  obtain ⟨hnodup, hshort⟩ := hnames
  subst hforms
  have hkeys : ∀ form ∈ forms, FitsKey form.name := fun form hform =>
    fitsKey_of_isShortName (List.all_eq_true.mp hshort _ (List.mem_map_of_mem hform))
  have hmembers : ∃ members : List (String × Json),
      List.Forall₂ (fun form member => form.name = member.1 ∧ form.Writes member.2 ∧
        ∃ text, CommonEntry (entry member.1 member.2) text) forms members := by
    refine exists_forall₂ fun form hform => ?_
    obtain ⟨json, inner, hjson, hinner⟩ := h form hform
    exact ⟨(form.name, json), rfl, hjson, exists_commonEntry (hkeys form hform) hinner⟩
  obtain ⟨members, hmembers⟩ := hmembers
  have hsame : members.map Prod.fst = forms.map FieldForm.name := by
    clear hnodup hshort hkeys h
    induction hmembers with
    | nil => rfl
    | cons hhead _ ih => rw [List.map_cons, List.map_cons, hhead.1, ih]
  have hrecord : Members forms members := by
    refine ⟨hsame ▸ hnodup, fun member hmember => ?_, fun form hform => .inl ?_⟩
    · obtain ⟨form, hform, hname, hwrites, -⟩ := exists_left_of_mem hmembers hmember
      exact ⟨form, hform, hname, hwrites⟩
    · rw [hsame]
      exact List.mem_map_of_mem hform
  -- the names of the members are those of the forms, so each has an entry that fits
  have hentries : ∀ e ∈ members.map fun member => entry member.1 member.2,
      ∃ text, CommonEntry e text := by
    intro e he
    obtain ⟨member, hmember, rfl⟩ := List.mem_map.mp he
    obtain ⟨form, -, -, -, htext⟩ := exists_left_of_mem hmembers hmember
    exact htext
  obtain ⟨text, htext⟩ := exists_common_object hentries
  exact ⟨_, text, ⟨members, hrecord, rfl⟩, htext⟩

end AccessPolicy.Json
