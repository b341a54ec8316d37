import Mathlib.Data.List.Forall2
import Mathlib.Data.List.Nodup

/-!
# Lists of entries

What stands in one of two lists that are related entry by entry has its counterpart in the other.
In a list of keys and values, of which no key occurs twice, a value is found under its key.
-/

namespace AccessPolicy

variable {α β : Type} {R : α → β → Prop}

theorem exists_right_of_mem {as : List α} {bs : List β} (h : List.Forall₂ R as bs) {a : α}
    (ha : a ∈ as) : ∃ b ∈ bs, R a b := by
  induction h with
  | nil => simp at ha
  | cons hhead _ ih =>
    rcases List.mem_cons.mp ha with rfl | hmem
    · exact ⟨_, List.mem_cons_self, hhead⟩
    · obtain ⟨b, hb, hrelated⟩ := ih hmem
      exact ⟨b, List.mem_cons_of_mem _ hb, hrelated⟩

theorem exists_left_of_mem {as : List α} {bs : List β} (h : List.Forall₂ R as bs) {b : β}
    (hb : b ∈ bs) : ∃ a ∈ as, R a b :=
  exists_right_of_mem (R := flip R) h.flip hb

/-- Where a list is related to one that has an entry at some place, it has an entry there too. -/
theorem exists_append_cons_of_forall₂ {as : List α} {before behind : List β} {b : β}
    (h : List.Forall₂ R as (before ++ b :: behind)) :
    ∃ before' a behind', as = before' ++ a :: behind' ∧ R a b ∧ List.Forall₂ R behind' behind := by
  have hdrop := List.forall₂_drop_append as before (b :: behind) h
  rcases hsplit : as.drop before.length with _ | ⟨a, behind'⟩
  · rw [hsplit] at hdrop
    cases hdrop
  · rw [hsplit] at hdrop
    obtain ⟨ha, hbehind⟩ := List.forall₂_cons.mp hdrop
    refine ⟨as.take before.length, a, behind', ?_, ha, hbehind⟩
    rw [← hsplit, List.take_append_drop]

/-- Where every entry of a list has a counterpart, the list has one. -/
theorem exists_forall₂ {as : List α} (h : ∀ a ∈ as, ∃ b, R a b) : ∃ bs, List.Forall₂ R as bs := by
  induction as with
  | nil => exact ⟨[], .nil⟩
  | cons a rest ih =>
    obtain ⟨⟨b, hb⟩, hrest⟩ := List.forall_mem_cons.mp h
    obtain ⟨bs, hbs⟩ := ih hrest
    exact ⟨b :: bs, .cons hb hbs⟩

/-- Where every entry of a list is read as its counterpart, the list is read. -/
theorem mapM_of_forall₂ {read : α → Option β} {as : List α} {bs : List β}
    (h : List.Forall₂ (fun a b => read a = some b) as bs) : as.mapM read = some bs := by
  induction h with
  | nil => rfl
  | cons hhead _ ih =>
    rw [List.mapM_cons, hhead, ih]
    rfl

/-- Where no key occurs twice, what is found under a key is what is paired with it. -/
theorem lookup_eq_some_iff_mem [BEq α] [LawfulBEq α] {entries : List (α × β)}
    (hkeys : (entries.map Prod.fst).Nodup) {key : α} {value : β} :
    entries.lookup key = some value ↔ (key, value) ∈ entries := by
  induction entries with
  | nil => simp
  | cons entry rest ih =>
    obtain ⟨other, old⟩ := entry
    obtain ⟨hother, hrest⟩ := List.nodup_cons.mp hkeys
    rw [List.lookup_cons, List.mem_cons, Prod.mk.injEq]
    by_cases h : key = other
    · -- the key does not occur again
      subst h
      have hnot : (key, value) ∉ rest := fun hmem =>
        hother (List.mem_map.mpr ⟨(key, value), hmem, rfl⟩)
      simp [hnot, eq_comm]
    · have hne : (key == other) = false := by simpa using h
      simp [hne, h, ih hrest]

end AccessPolicy
