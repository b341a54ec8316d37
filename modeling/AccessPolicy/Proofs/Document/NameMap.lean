import AccessPolicy.Document.NameMap
import Mathlib.Data.List.Induction
import Mathlib.Data.List.Nodup

/-!
# What a map holds of the entries it is made from

A map keeps its names in ascending order and one entry for each name. So it forgets in which order
its entries were put in, and of several entries of one name all but the last.

Main results:

* `mem_insert_iff`, `mem_ofList_iff` — the entries of a map: of each name the last one;
* `perm_ofList_iff` — a map holds just the entries it is made from if no two have one name;
* `ofList_eq_of_perm` — then their order makes no difference.
-/

namespace AccessPolicy.NameMap

variable {α : Type}

/-- A map is known by its entries. -/
theorem ext {map map' : NameMap α} (h : map.entries = map'.entries) : map = map' := by
  cases map
  cases map'
  obtain rfl := h
  rfl

/-- The names of a map are all different. -/
theorem nodup_names (map : NameMap α) : (map.entries.map Prod.fst).Nodup := by
  rw [List.Nodup, List.pairwise_map]
  exact map.ascending.imp fun hlt => Std.ne_of_lt hlt

/-- Maps with the same entries are equal, for there is only one ascending order. -/
theorem eq_of_perm {map map' : NameMap α} (h : map.entries.Perm map'.entries) : map = map' := by
  refine ext (h.eq_of_pairwise (fun a b _ _ hab hba => ?_) map.ascending map'.ascending)
  exact absurd (String.lt_trans hab hba) (String.lt_irrefl a.1)

/-! ## One more entry -/

/-- Among ascending entries that start behind a name, there is none of this name. -/
theorem ne_of_ascending {name : String} {head : String × α} {rest : List (String × α)}
    (h : Ascending (head :: rest)) (hlt : name < head.1) :
    ∀ entry ∈ head :: rest, entry.1 ≠ name := by
  rintro entry hentry rfl
  rcases List.mem_cons.mp hentry with rfl | hmem
  · exact String.lt_irrefl _ hlt
  · exact String.lt_irrefl _ (String.lt_trans hlt ((List.pairwise_cons.mp h).1 entry hmem))

theorem mem_insertEntry_iff {name : String} {value : α} {entries : List (String × α)}
    (h : Ascending entries) {entry : String × α} :
    entry ∈ insertEntry name value entries ↔
      entry = (name, value) ∨ entry.1 ≠ name ∧ entry ∈ entries := by
  induction entries with
  | nil => simp [insertEntry]
  | cons head rest ih =>
    obtain ⟨other, old⟩ := head
    obtain ⟨hbehind, hrest⟩ := List.pairwise_cons.mp h
    simp only [insertEntry]
    split
    · -- the head has the name, so it goes and nothing behind it has the name
      next heq =>
      subst heq
      have hne : ∀ entry ∈ rest, entry.1 ≠ name := fun entry hentry =>
        (Std.ne_of_lt (hbehind entry hentry)).symm
      rw [List.mem_cons, List.mem_cons]
      refine or_congr_right ⟨fun hmem => ⟨hne entry hmem, .inr hmem⟩, ?_⟩
      rintro ⟨hname, rfl | hmem⟩
      · exact absurd rfl hname
      · exact hmem
    · next hne =>
      split
      · next hlt =>
        rw [List.mem_cons]
        refine or_congr_right ⟨fun hmem => ⟨ne_of_ascending h hlt entry hmem, hmem⟩, And.right⟩
      · rw [List.mem_cons, List.mem_cons, ih hrest]
        constructor
        · rintro (rfl | rfl | ⟨hname, hmem⟩)
          · exact .inr ⟨Ne.symm hne, .inl rfl⟩
          · exact .inl rfl
          · exact .inr ⟨hname, .inr hmem⟩
        · rintro (rfl | ⟨hname, rfl | hmem⟩)
          · exact .inr (.inl rfl)
          · exact .inl rfl
          · exact .inr (.inr ⟨hname, hmem⟩)

/-- The map holds the new entry, and of the older ones those of other names. -/
theorem mem_insert_iff {map : NameMap α} {name : String} {value : α} {entry : String × α} :
    entry ∈ (map.insert name value).entries ↔
      entry = (name, value) ∨ entry.1 ≠ name ∧ entry ∈ map.entries :=
  mem_insertEntry_iff map.ascending

/-! ## Maps of lists -/

theorem ofList_concat (entries : List (String × α)) (entry : String × α) :
    ofList (entries ++ [entry]) = (ofList entries).insert entry.1 entry.2 := by
  rw [ofList, List.foldl_append]
  rfl

/-- An entry of a list behind which its name does not stand again. -/
def LastOfName (entries : List (String × α)) (entry : String × α) : Prop :=
  ∃ before behind, entries = before ++ entry :: behind ∧ ∀ other ∈ behind, other.1 ≠ entry.1

theorem lastOfName_concat_iff {entries : List (String × α)} {last entry : String × α} :
    LastOfName (entries ++ [last]) entry ↔
      entry = last ∨ entry.1 ≠ last.1 ∧ LastOfName entries entry := by
  constructor
  · rintro ⟨before, behind, heq, hbehind⟩
    rcases List.eq_nil_or_concat behind with rfl | ⟨behind, other, rfl⟩
    · exact .inl (List.append_inj_right' heq rfl |> List.singleton_inj.mp).symm
    · -- the last entry of the whole list stands behind the entry
      have happend : entries ++ [last] = (before ++ entry :: behind) ++ [other] := by
        simpa using heq
      obtain ⟨hentries, hlast⟩ := List.append_inj' happend rfl
      obtain rfl := List.singleton_inj.mp hlast
      refine .inr ⟨(hbehind last (by simp)).symm, before, behind, hentries, fun other hother => ?_⟩
      exact hbehind other (by simp [hother])
  · rintro (rfl | ⟨hname, before, behind, rfl, hbehind⟩)
    · exact ⟨entries, [], rfl, by simp⟩
    · refine ⟨before, behind ++ [last], by simp, fun other hother => ?_⟩
      rcases List.mem_append.mp hother with hmem | hmem
      · exact hbehind other hmem
      · rw [List.mem_singleton.mp hmem]
        exact hname.symm

/-- Of each name a map holds the last entry. -/
theorem mem_ofList_iff {entries : List (String × α)} {entry : String × α} :
    entry ∈ (ofList entries).entries ↔ LastOfName entries entry := by
  induction entries using List.reverseRecOn with
  | nil => simp [ofList, empty, LastOfName]
  | append_singleton entries last ih =>
    rw [ofList_concat, mem_insert_iff, lastOfName_concat_iff, ih]

/-- A map has all names of its entries, and no others. -/
theorem mem_names_ofList_iff {entries : List (String × α)} {name : String} :
    name ∈ (ofList entries).entries.map Prod.fst ↔ name ∈ entries.map Prod.fst := by
  induction entries using List.reverseRecOn with
  | nil => simp [ofList, empty]
  | append_singleton entries last ih =>
    rw [ofList_concat, List.map_append, List.mem_append, ← ih]
    simp only [List.mem_map, mem_insert_iff, List.map_cons, List.map_nil, List.mem_singleton]
    constructor
    · rintro ⟨entry, rfl | ⟨-, hmem⟩, rfl⟩
      · exact .inr rfl
      · exact .inl ⟨entry, hmem, rfl⟩
    · by_cases hlast : name = last.1
      · exact fun _ => ⟨last, .inl rfl, hlast.symm⟩
      · rintro (⟨entry, hmem, rfl⟩ | heq)
        · exact ⟨entry, .inr ⟨hlast, hmem⟩, rfl⟩
        · exact absurd heq hlast

theorem lastOfName_of_mem {entries : List (String × α)} (hnames : (entries.map Prod.fst).Nodup)
    {entry : String × α} (h : entry ∈ entries) : LastOfName entries entry := by
  obtain ⟨before, behind, rfl⟩ := List.append_of_mem h
  refine ⟨before, behind, rfl, fun other hother heq => ?_⟩
  rw [List.map_append, List.map_cons, List.nodup_append] at hnames
  refine (List.nodup_cons.mp hnames.2.1).1 ?_
  rw [← heq]
  exact List.mem_map_of_mem hother

/-- A map holds just the entries it is made from if and only if no two of them have one name. -/
theorem perm_ofList_iff {entries : List (String × α)} :
    (ofList entries).entries.Perm entries ↔ (entries.map Prod.fst).Nodup := by
  constructor
  · intro h
    exact (h.map Prod.fst).nodup_iff.mp (nodup_names _)
  · intro hnames
    -- neither list repeats an entry, so it is enough that they have the same ones
    have hmap := List.Nodup.of_map Prod.fst (ofList entries).nodup_names
    have hlist := List.Nodup.of_map Prod.fst hnames
    refine (List.perm_ext_iff_of_nodup hmap hlist).mpr fun entry => ?_
    rw [mem_ofList_iff]
    constructor
    · rintro ⟨before, behind, rfl, -⟩
      simp
    · exact lastOfName_of_mem hnames

/-- The order in which entries of different names are put into a map makes no difference. -/
theorem ofList_eq_of_perm {entries entries' : List (String × α)}
    (hnames : (entries.map Prod.fst).Nodup) (h : entries.Perm entries') :
    ofList entries = ofList entries' := by
  have hnames' : (entries'.map Prod.fst).Nodup := (h.map Prod.fst).nodup_iff.mp hnames
  exact eq_of_perm
    ((perm_ofList_iff.mpr hnames).trans (h.trans (perm_ofList_iff.mpr hnames').symm))

end AccessPolicy.NameMap
