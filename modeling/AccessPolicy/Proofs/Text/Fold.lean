import AccessPolicy.Text.Fold

/-!
# Folding a text twice

A text is folded character by character: each is taken to lower case on its own, and a final sigma
becomes a plain one. So a text may be folded part by part. That folding a second time changes
nothing is a property of the table of lower case: no partner in the table has a partner itself. The
table is not searched for this one code point at a time. Two runs are compared by their ends and
steps alone, which settles all their members at once.

Main results:

* `lowerPoints_of_mem` — what is in lower case is its own lower case;
* `fold_append` — texts that are joined fold one by one;
* `fold_fold` — a folded text is its own folded form.
-/

namespace AccessPolicy

namespace Unicode

/-! ## Runs of the table -/

/-- The capital `I` with a dot above, as a run. -/
def dottedCapital : CaseBlock := ⟨0x130, 0x130, 1, 0⟩

/-- Whether the partners of a run lie beside another run: beyond one of its ends, or between its
members. -/
def CaseBlock.misses (block other : CaseBlock) : Bool :=
  let lowest := block.partner block.first
  let highest := block.partner block.last
  Nat.blt highest other.first || Nat.blt other.last lowest
    || other.step == 2 && (block.step == 2 || block.first == block.last)
      && (lowest + other.first) % 2 == 1

/-- Whether a run is shifted onto code points, and beside some other runs. -/
def CaseBlock.landsBeside (block : CaseBlock) (others : List CaseBlock) : Bool :=
  decide (0 ≤ block.first + block.shift) && others.all block.misses

/-- No run of the table is shifted onto a run of the table. -/
theorem landsBeside_lowerBlocks :
    (lowerBlocks.all fun block => block.landsBeside (dottedCapital :: lowerBlocks)) = true := by
  decide +kernel

theorem CaseBlock.contains_iff {block : CaseBlock} {n : Nat} :
    block.contains n = true ↔
      block.first ≤ n ∧ n ≤ block.last ∧ (n - block.first) % block.step = 0 := by
  simp [contains, and_assoc]

/-- The partner of a member of a run is no member of a run that the first one misses. -/
theorem CaseBlock.not_contains_partner {block other : CaseBlock} {n : Nat}
    (hshift : 0 ≤ block.first + block.shift) (hmisses : block.misses other = true)
    (hn : block.contains n = true) : other.contains (block.partner n) = false := by
  obtain ⟨hfirst, hlast, hstep⟩ := contains_iff.mp hn
  rw [← Bool.not_eq_true, contains_iff]
  rintro ⟨hfirst', hlast', hstep'⟩
  simp only [misses, Bool.or_eq_true, Bool.and_eq_true, beq_iff_eq, Nat.blt_eq, partner]
    at hmisses hfirst' hlast' hstep'
  rcases hmisses with (hbelow | habove) | ⟨⟨hother, hblock⟩, hodd⟩
  · -- the partner is below the other run, or above it
    omega
  · omega
  · -- every second code point is in the other run, and the partners are the ones between
    rw [hother] at hstep'
    rcases hblock with htwo | hone
    · rw [htwo] at hstep
      omega
    · omega

/-! ## Lower case -/

/-- A code point that is in no run stays as it is. -/
theorem lowerPoints_of_not_contains {n : Nat}
    (h : ∀ block ∈ dottedCapital :: lowerBlocks, block.contains n = false) :
    lowerPoints n = [n] := by
  obtain ⟨hdotted, hblocks⟩ := List.forall_mem_cons.mp h
  have hne : n ≠ 0x130 := by
    rintro rfl
    exact absurd hdotted (by decide)
  have hnone : lowerBlocks.find? (·.contains n) = none := by
    rw [List.find?_eq_none]
    intro block hblock
    rw [hblocks block hblock]
    exact Bool.false_ne_true
  rw [lowerPoints, if_neg hne, hnone]

/-- What is in lower case is its own lower case. -/
theorem lowerPoints_of_mem {n m : Nat} (h : m ∈ lowerPoints n) : lowerPoints m = [m] := by
  by_cases hdotted : n = 0x130
  · subst hdotted
    have htwo : m = 0x69 ∨ m = 0x307 := by simpa [lowerPoints] using h
    rcases htwo with rfl | rfl <;> decide +kernel
  · rw [lowerPoints, if_neg hdotted] at h
    cases hfind : lowerBlocks.find? (·.contains n) with
    | none =>
      -- the code point is in no run, so it is the only one there is
      rw [hfind, List.mem_singleton] at h
      subst h
      rw [lowerPoints, if_neg hdotted, hfind]
    | some block =>
      rw [hfind, List.mem_singleton] at h
      subst h
      -- it is a partner in the table, and no run of the table contains a partner
      have hmem : block ∈ lowerBlocks := List.mem_of_find?_eq_some hfind
      have hcontains : block.contains n = true := by simpa using List.find?_some hfind
      have hlands := List.all_eq_true.mp landsBeside_lowerBlocks block hmem
      rw [CaseBlock.landsBeside, Bool.and_eq_true, decide_eq_true_eq, List.all_eq_true] at hlands
      apply lowerPoints_of_not_contains
      intro other hother
      exact CaseBlock.not_contains_partner hlands.1 (hlands.2 other hother) hcontains

/-- What is in lower case is its own lower case. -/
theorem lower_of_mem {c d : Char} (h : d ∈ lower c) : lower d = [d] := by
  obtain ⟨m, hm, rfl⟩ := List.mem_map.mp h
  by_cases hvalid : m.isValidChar
  · have hpoint : (Char.ofNat m).toNat = m := by
      rw [Char.ofNat, dif_pos hvalid]
      rfl
    rw [lower, hpoint, lowerPoints_of_mem hm, List.map_singleton]
  · -- a number that is no character at all would stand for the null character
    have hnull : Char.ofNat m = '\x00' := by
      rw [Char.ofNat, dif_neg hvalid]
      rfl
    rw [hnull]
    decide +kernel

end Unicode

namespace Text

/-! ## Folding -/

theorem lower_plainSigma {c : Char} (h : Unicode.lower c = [c]) :
    Unicode.lower (plainSigma c) = [plainSigma c] := by
  by_cases hfinal : c = 'ς'
  · rw [hfinal]
    decide +kernel
  · have hself : plainSigma c = c := if_neg hfinal
    rw [hself, h]

theorem plainSigma_plainSigma (c : Char) : plainSigma (plainSigma c) = plainSigma c := by
  by_cases hfinal : c = 'ς'
  · rw [hfinal]
    decide
  · have hself : plainSigma c = c := if_neg hfinal
    rw [hself, hself]

theorem foldChars_cons (c : Char) (s : List Char) :
    foldChars (c :: s) = (Unicode.lower c).map plainSigma ++ foldChars s := by
  rw [foldChars, List.flatMap_cons, List.map_append, foldChars]

theorem foldChars_append (s t : List Char) : foldChars (s ++ t) = foldChars s ++ foldChars t := by
  rw [foldChars, List.flatMap_append, List.map_append, foldChars, foldChars]

/-- Characters that are folded already stay as they are. -/
theorem foldChars_eq_self {s : List Char}
    (h : ∀ c ∈ s, Unicode.lower c = [c] ∧ plainSigma c = c) : foldChars s = s := by
  induction s with
  | nil => rfl
  | cons c rest ih =>
    obtain ⟨⟨hlower, hsigma⟩, hrest⟩ := List.forall_mem_cons.mp h
    rw [foldChars_cons, hlower, List.map_singleton, hsigma, ih hrest, List.singleton_append]

theorem foldChars_foldChars (s : List Char) : foldChars (foldChars s) = foldChars s := by
  apply foldChars_eq_self
  intro d hd
  -- a folded character has been put in lower case, and is no final sigma any more
  obtain ⟨e, he, rfl⟩ := List.mem_map.mp hd
  obtain ⟨c, -, he⟩ := List.mem_flatMap.mp he
  exact ⟨lower_plainSigma (Unicode.lower_of_mem he), plainSigma_plainSigma e⟩

@[simp]
theorem toList_fold (s : String) : (fold s).toList = foldChars s.toList := by
  rw [fold, String.toList_ofList]

theorem fold_eq_fold_iff {s t : String} :
    fold s = fold t ↔ foldChars s.toList = foldChars t.toList := by
  rw [← String.toList_inj, toList_fold, toList_fold]

/-- Texts that are joined fold one by one. -/
theorem fold_append (s t : String) : fold (s ++ t) = fold s ++ fold t := by
  rw [← String.toList_inj]
  simp [foldChars_append]

/-- A folded text is its own folded form. -/
theorem fold_fold (s : String) : fold (fold s) = fold s := by
  rw [fold_eq_fold_iff, toList_fold, foldChars_foldChars]

end Text

end AccessPolicy
