import AccessPolicy.Proofs.Related
import AccessPolicy.Request
import Mathlib.Data.List.Induction
import Mathlib.Data.List.Nodup
import Mathlib.Data.List.Perm.Basic

/-!
# Headers of a call

The headers of a call are added one by one. Under a name are found the values of all headers that
were given under this name, in whatever case, joined in the order in which they were given. Where no
two headers have the same name, apart from case, each is found under its name as it was given, and
the order in which they were added cannot be seen.

Main results:

* `lowerAscii_eq_iff` — names are kept apart unless they are the same apart from case;
* `header?_withHeaders` — what is found under a name;
* `headers_withHeaders` — headers with names of their own are kept one by one;
* `header?_withHeaders_eq_some_iff` — what is found under such a name.
-/

namespace AccessPolicy

/-! ## Names apart from case -/

namespace Text

/-- Two characters are equal apart from case: they are equal, or one is a capital letter of ASCII and
the other the small one. -/
def SameLetter (c d : Char) : Prop :=
  c = d ∨ ('A' ≤ c ∧ c ≤ 'Z' ∧ d.toNat = c.toNat + 32) ∨
    ('A' ≤ d ∧ d ≤ 'Z' ∧ c.toNat = d.toNat + 32)

instance (c d : Char) : Decidable (SameLetter c d) :=
  inferInstanceAs (Decidable (_ ∨ _))

/-- Two names are the same apart from the case of the letters of ASCII. -/
def SameName (s t : String) : Prop :=
  List.Forall₂ SameLetter s.toList t.toList

instance (s t : String) : Decidable (SameName s t) :=
  inferInstanceAs (Decidable (List.Forall₂ _ _ _))

theorem char_le_iff (c d : Char) : c ≤ d ↔ c.toNat ≤ d.toNat := Iff.rfl

theorem toNat_toLower (c : Char) :
    c.toLower.toNat = if 'A' ≤ c ∧ c ≤ 'Z' then c.toNat + 32 else c.toNat := by
  by_cases hc : 'A' ≤ c ∧ c ≤ 'Z'
  · have hcapital : c.val ≥ 'A'.val ∧ c.val ≤ 'Z'.val := hc
    have hlower : c.toLower.val = c.val + 32 := by
      unfold Char.toLower
      rw [dif_pos hcapital]
      rfl
    have hle : c.val.toNat ≤ 90 := hc.2
    have hfits : c.val.toNat + 32 < 2 ^ 32 := by omega
    rw [if_pos hc]
    show c.toLower.val.toNat = c.val.toNat + 32
    rw [hlower, UInt32.toNat_add]
    exact Nat.mod_eq_of_lt hfits
  · have hlower : c.toLower = c := by
      unfold Char.toLower
      exact dif_neg hc
    rw [if_neg hc, hlower]

/-- Letters are the same in lower case if and only if they are the same apart from case. -/
theorem toLower_eq_iff (c d : Char) : c.toLower = d.toLower ↔ SameLetter c d := by
  have ha : 'A'.toNat = 65 := rfl
  have hz : 'Z'.toNat = 90 := rfl
  rw [← Char.toNat_inj, toNat_toLower, toNat_toLower, SameLetter, ← Char.toNat_inj]
  simp only [char_le_iff, ha, hz]
  split
  · split
    · omega
    · omega
  · split
    · omega
    · omega

theorem lowerAscii_eq_iff (s t : String) : lowerAscii s = lowerAscii t ↔ SameName s t := by
  have hletter : SameLetter = fun c d : Char => c.toLower = d.toLower := by
    funext c d
    exact propext (toLower_eq_iff c d).symm
  rw [lowerAscii, lowerAscii, String.ofList_inj, SameName, hletter, ← List.forall₂_eq_eq_eq,
    List.forall₂_map_left_iff, List.forall₂_map_right_iff]

end Text

namespace Call

/-! ## Headers of any names -/

/-- The values that are given under a name, in whatever case, in order. -/
def valuesUnder (name : String) (headers : List (String × String)) : List String :=
  (headers.filter fun header => Text.SameName header.1 name).map Prod.snd

/-- What some values of a header are together, if there are any. -/
def joined (values : List String) : Option String :=
  if values.isEmpty then none else some (",".intercalate values)

theorem joined_of_ne_none {values : List String} (h : joined values ≠ none) :
    joined values = some (",".intercalate values) := by
  unfold joined at h ⊢
  split at h
  · exact absurd rfl h
  · next hvalues => rw [if_neg hvalues]

/-- What an old value, if there is one, and a new value are together. -/
def joinedWith (old : Option String) (value : String) : String :=
  match old with
  | none => value
  | some old => old ++ "," ++ value

theorem joined_concat (values : List String) (value : String) :
    joined (values ++ [value]) = some (joinedWith (joined values) value) := by
  cases values with
  | nil => simp [joined, joinedWith]
  | cons first rest =>
    have hjoin := String.intercalate_append_of_ne_nil (s := ",") (List.cons_ne_nil first rest)
      (List.cons_ne_nil value [])
    rw [String.intercalate_singleton] at hjoin
    simp [joined, joinedWith, ← hjoin]

theorem valuesUnder_concat (name : String) (headers : List (String × String))
    (header : String × String) :
    valuesUnder name (headers ++ [header]) = valuesUnder name headers ++
      if Text.SameName header.1 name then [header.2] else [] := by
  rw [valuesUnder, List.filter_append, List.map_append]
  by_cases h : Text.SameName header.1 name
  · simp [valuesUnder, h]
  · simp [valuesUnder, h]

theorem lookup_cons_eq_if (name other value : String) (headers : List (String × String)) :
    ((other, value) :: headers).lookup name =
      if other = name then some value else headers.lookup name := by
  rw [List.lookup_cons]
  by_cases h : other = name
  · simp [h]
  · have hne : (name == other) = false := beq_eq_false_iff_ne.mpr (Ne.symm h)
    rw [if_neg h, hne]

/-- Adding a header changes what is found under its name, and under no other name. -/
theorem lookup_addHeader (name other value : String) (headers : List (String × String)) :
    (addHeader other value headers).lookup name =
      if other = name then some (joinedWith (headers.lookup name) value)
      else headers.lookup name := by
  induction headers with
  | nil => rw [addHeader, lookup_cons_eq_if, List.lookup_nil, joinedWith]
  | cons header rest ih =>
    obtain ⟨first, old⟩ := header
    rw [addHeader]
    by_cases hfirst : first = other
    · -- the value is put behind the old one
      rw [if_pos hfirst, hfirst, lookup_cons_eq_if, lookup_cons_eq_if]
      by_cases h : other = name
      · rw [if_pos h, if_pos h, if_pos h, joinedWith]
      · rw [if_neg h, if_neg h, if_neg h]
    · rw [if_neg hfirst, lookup_cons_eq_if, lookup_cons_eq_if, ih]
      by_cases h : first = name
      · -- the name is found in front of what is added
        have hother : other ≠ name := fun heq => hfirst (h.trans heq.symm)
        rw [if_pos h, if_pos h, if_neg hother]
      · rw [if_neg h, if_neg h]

theorem withHeaders_concat (call : Call) (headers : List (String × String))
    (header : String × String) :
    call.withHeaders (headers ++ [header]) =
      (call.withHeaders headers).withHeader header.1 header.2 := by
  rw [withHeaders, List.foldl_append]
  rfl

theorem header?_withHeader (call : Call) (name given value : String) :
    (call.withHeader given value).header? (Text.lowerAscii name) =
      if Text.SameName given name then
        some (joinedWith (call.header? (Text.lowerAscii name)) value)
      else call.header? (Text.lowerAscii name) := by
  have hname := Text.lowerAscii_eq_iff given name
  rw [header?, withHeader, lookup_addHeader]
  simp only [hname]
  rfl

/-- Under a name is found all that was given under it, in whatever case. -/
theorem header?_withHeaders {call : Call} (hnone : call.headers = [])
    (headers : List (String × String)) (name : String) :
    (call.withHeaders headers).header? (Text.lowerAscii name) =
      joined (valuesUnder name headers) := by
  induction headers using List.reverseRecOn with
  | nil =>
    show call.headers.lookup _ = none
    rw [hnone, List.lookup_nil]
  | append_singleton headers header ih =>
    rw [withHeaders_concat, header?_withHeader, ih, valuesUnder_concat]
    by_cases h : Text.SameName header.1 name
    · rw [if_pos h, if_pos h, joined_concat]
    · rw [if_neg h, if_neg h, List.append_nil]

theorem joined_valuesUnder_eq_none_iff (name : String) (headers : List (String × String)) :
    joined (valuesUnder name headers) = none ↔
      ∀ header ∈ headers, ¬ Text.SameName header.1 name := by
  have hempty : (valuesUnder name headers).isEmpty ↔
      ∀ header ∈ headers, ¬ Text.SameName header.1 name := by
    simp [valuesUnder]
  rw [← hempty, joined]
  split
  · next h => simp [h]
  · next h => simp [h]

/-- The case of the names that headers are given under cannot be seen. -/
theorem withHeaders_congr {headers others : List (String × String)}
    (h : List.Forall₂ (fun header other => Text.SameName header.1 other.1 ∧ header.2 = other.2)
      headers others) (call : Call) : call.withHeaders headers = call.withHeaders others := by
  induction h generalizing call with
  | nil => rfl
  | @cons header other headers others hhead _ ih =>
    obtain ⟨hname, hvalue⟩ := hhead
    rw [← Text.lowerAscii_eq_iff] at hname
    have hstep : call.withHeader header.1 header.2 = call.withHeader other.1 other.2 := by
      rw [withHeader, withHeader, hname, hvalue]
    show (call.withHeader header.1 header.2).withHeaders headers =
      (call.withHeader other.1 other.2).withHeaders others
    rw [hstep, ih]

/-! ## Headers with names of their own -/

/-- A header with its name as it is kept. -/
def keptAs (header : String × String) : String × String :=
  (Text.lowerAscii header.1, header.2)

/-- A header whose name is new is put behind the others. -/
theorem addHeader_of_notMem {name value : String} {headers : List (String × String)}
    (h : name ∉ headers.map Prod.fst) :
    addHeader name value headers = headers ++ [(name, value)] := by
  induction headers with
  | nil => rfl
  | cons header rest ih =>
    obtain ⟨other, old⟩ := header
    rw [List.map_cons, List.mem_cons, not_or] at h
    rw [addHeader, if_neg (Ne.symm h.1), ih h.2, List.cons_append]

theorem headers_withHeaders {call : Call} {headers : List (String × String)}
    (h : (call.headers.map Prod.fst ++ headers.map fun header => Text.lowerAscii header.1).Nodup) :
    call.withHeaders headers = { call with headers := call.headers ++ headers.map keptAs } := by
  induction headers generalizing call with
  | nil => simp [withHeaders]
  | cons header rest ih =>
    obtain ⟨name, value⟩ := header
    have hnew : Text.lowerAscii name ∉ call.headers.map Prod.fst := by
      intro hmem
      exact List.disjoint_of_nodup_append h hmem (List.mem_cons_self ..)
    have hadd : (call.withHeader name value).headers =
        call.headers ++ [(Text.lowerAscii name, value)] := addHeader_of_notMem hnew
    -- the other names are new to what is kept with this one
    have hrest : ((call.withHeader name value).headers.map Prod.fst ++
        rest.map fun header => Text.lowerAscii header.1).Nodup := by
      rw [hadd]
      simpa using h
    have hstep : call.withHeaders ((name, value) :: rest) =
        (call.withHeader name value).withHeaders rest := rfl
    rw [hstep, ih hrest, hadd]
    simp [withHeader, keptAs]

/-- Under a name is found what was given for it. -/
theorem header?_withHeaders_eq_some_iff {call : Call} {headers : List (String × String)}
    (hnone : call.headers = [])
    (hdistinct : (headers.map fun header => Text.lowerAscii header.1).Nodup) {name value : String} :
    (call.withHeaders headers).header? name = some value ↔
      ∃ header ∈ headers, Text.lowerAscii header.1 = name ∧ header.2 = value := by
  have hkeys : ((headers.map keptAs).map Prod.fst).Nodup := by
    rw [List.map_map]
    exact hdistinct
  rw [headers_withHeaders (by simpa [hnone] using hdistinct), header?, hnone, List.nil_append,
    lookup_eq_some_iff_mem hkeys, List.mem_map]
  simp [keptAs]

end Call

end AccessPolicy
