import AccessPolicy.Condition.Limits
import AccessPolicy.Proofs.Except

/-!
# What the limits allow

The limits look at the outline of a condition alone: where its compounds and negations stand, and
not at what its leaves test. This module says directly which outlines are within the limits, and
which error tells of one that is not, and shows that the check of a condition decides just this.

Main results:

* `depth_eq_height` — the depth that is measured with the stack is the height of the tree;
* `checkWidth_eq` — the compounds are checked from the outside in and from left to right;
* `check_eq_ok_iff`, `check_eq_error_iff` — which conditions pass the check, and what the error of
  the others is.
-/

namespace AccessPolicy

/-- The outline of a tree of tests. -/
inductive Outline where
  | leaf
  | compound (parts : List Outline)
  | not (part : Outline)

namespace Outline

mutual

/-- The height of an outline: 1 for a leaf and for a compound without parts, and else one more than
its highest part. -/
def height : Outline → Nat
  | .leaf => 1
  | .compound parts => highest parts + 1
  | .not part => part.height + 1

/-- The height of the highest of some outlines. -/
def highest : List Outline → Nat
  | [] => 0
  | o :: rest => max o.height (highest rest)

end

mutual

/-- How many parts the compounds of an outline have, from the outside in and from left to right. -/
def widths : Outline → List Nat
  | .leaf => []
  | .compound parts => parts.length :: widthsOf parts
  | .not part => part.widths

def widthsOf : List Outline → List Nat
  | [] => []
  | o :: rest => o.widths ++ widthsOf rest

end

theorem height_pos (o : Outline) : 0 < o.height := by
  cases o <;> simp [height]

theorem highest_le_iff {parts : List Outline} {n : Nat} :
    highest parts ≤ n ↔ ∀ part ∈ parts, part.height ≤ n := by
  induction parts with
  | nil => simp [highest]
  | cons part rest ih => rw [highest, Nat.max_le, ih, List.forall_mem_cons]

theorem mem_widthsOf {parts : List Outline} {width : Nat} :
    width ∈ widthsOf parts ↔ ∃ part ∈ parts, width ∈ part.widths := by
  induction parts with
  | nil => simp [widthsOf]
  | cons part rest ih => simp [widthsOf, ih]

/-- An outline within the limits. -/
structure WithinLimits (o : Outline) : Prop where
  height_le : o.height ≤ maxDepth
  widths_le : ∀ width ∈ o.widths, width ≤ maxChildren

instance (o : Outline) : Decidable o.WithinLimits :=
  decidable_of_iff (o.height ≤ maxDepth ∧ ∀ width ∈ o.widths, width ≤ maxChildren)
    ⟨fun h => ⟨h.1, h.2⟩, fun h => ⟨h.height_le, h.widths_le⟩⟩

/-- The error that tells how an outline is beyond the limits: depth counts before width, and of
compounds that are too wide the first one counts. -/
inductive Fault (o : Outline) : Error → Prop where
  | tooDeep (lt_height : maxDepth < o.height) : Fault o (.depthExceeded o.height maxDepth)
  | tooWide (height_le : o.height ≤ maxDepth) (width : Nat)
    (first : o.widths.find? (maxChildren < ·) = some width) :
    Fault o (.tooManyChildren width maxChildren)

end Outline

namespace Condition

mutual

/-- The outline of a condition. -/
def outline : Condition → Outline
  | .anyOf children => .compound (outlines children)
  | .allOf children => .compound (outlines children)
  | .not inner => .not inner.outline
  | _ => .leaf

def outlines : List Condition → List Outline
  | [] => []
  | c :: rest => c.outline :: outlines rest

end

theorem outlines_eq_map (cs : List Condition) : outlines cs = cs.map outline := by
  induction cs with
  | nil => rfl
  | cons c rest ih => rw [outlines, ih, List.map_cons]

/-! ## Depth -/

theorem height_le_iff (c : Condition) (n : Nat) :
    c.outline.height ≤ n + 1 ↔ ∀ child ∈ c.children, child.outline.height ≤ n := by
  cases c <;> simp [outline, outlines_eq_map, Outline.height, Outline.highest_le_iff, children]

/-- A condition that stands at some depth reaches below a bound if it stands above the bound and
its children, one deeper, reach below it. -/
theorem reach_le_iff (c : Condition) (depth bound : Nat) :
    depth + c.outline.height ≤ bound + 1 ↔
      depth ≤ bound ∧ ∀ child ∈ c.children, depth + 1 + child.outline.height ≤ bound + 1 := by
  have hpos := c.outline.height_pos
  by_cases hdepth : depth ≤ bound
  · obtain ⟨n, rfl⟩ := Nat.exists_eq_add_of_le hdepth
    have hself : depth + c.outline.height ≤ depth + n + 1 ↔ c.outline.height ≤ n + 1 := by omega
    rw [hself, height_le_iff]
    constructor
    · intro h
      refine ⟨hdepth, fun child hchild => ?_⟩
      have hle := h child hchild
      omega
    · rintro ⟨-, h⟩ child hchild
      have hle := h child hchild
      omega
  · constructor
    · intro h
      omega
    · rintro ⟨h, -⟩
      exact absurd h hdepth

/-- What bounds the measure of a stack: the bound holds for the depth found so far, and for how
deep every condition on the stack reaches. -/
theorem deepestFrom_le_iff (deepest bound : Nat) (stack : List (Condition × Nat)) :
    deepestFrom deepest stack ≤ bound ↔
      deepest ≤ bound ∧ ∀ entry ∈ stack, entry.2 + entry.1.outline.height ≤ bound + 1 := by
  fun_induction deepestFrom deepest stack with
  | case1 deepest => simp
  | case2 deepest c depth rest ih =>
    -- the children take the place of the condition on the stack
    simp only [ih, Nat.max_le, List.forall_mem_append, List.mem_reverse, List.forall_mem_map,
      List.forall_mem_cons, reach_le_iff c depth bound]
    constructor
    · rintro ⟨⟨hdeepest, hdepth⟩, hchildren, hrest⟩
      exact ⟨hdeepest, ⟨hdepth, hchildren⟩, hrest⟩
    · rintro ⟨hdeepest, ⟨hdepth, hchildren⟩, hrest⟩
      exact ⟨⟨hdeepest, hdepth⟩, hchildren, hrest⟩

/-- The measure is the height of the tree. -/
theorem depth_eq_height (c : Condition) : c.depth = c.outline.height := by
  have hle : ∀ bound, c.depth ≤ bound ↔ c.outline.height ≤ bound := by
    intro bound
    rw [depth, deepestFrom_le_iff, List.forall_mem_singleton, Nat.add_comm, Nat.add_le_add_iff_right]
    exact and_iff_right (Nat.zero_le bound)
  exact Nat.le_antisymm ((hle _).mpr (Nat.le_refl _)) ((hle _).mp (Nat.le_refl _))

/-! ## Width -/

/-- Refuses the first width of a list that is too large. -/
def refuseWidths (widths : List Nat) : Except Error Unit :=
  match widths.find? (maxChildren < ·) with
  | some width => .error (.tooManyChildren width maxChildren)
  | none => .ok ()

theorem refuseWidths_cons (width : Nat) (rest : List Nat) :
    refuseWidths (width :: rest) =
      if maxChildren < width then .error (.tooManyChildren width maxChildren)
      else refuseWidths rest := by
  by_cases h : maxChildren < width
  · simp [refuseWidths, h]
  · simp [refuseWidths, h]

theorem refuseWidths_append (as bs : List Nat) :
    refuseWidths (as ++ bs) = (do refuseWidths as; refuseWidths bs) := by
  rw [refuseWidths, List.find?_append, refuseWidths]
  cases as.find? (maxChildren < ·) with
  | some width => rfl
  | none => rfl

mutual

/-- The compounds are checked in the order in which the outline lists their widths. -/
theorem checkWidth_eq (c : Condition) : c.checkWidth = refuseWidths c.outline.widths := by
  match c with
  | .anyOf children => rw [checkWidth, checkCompound_eq children, outline]
  | .allOf children => rw [checkWidth, checkCompound_eq children, outline]
  | .not inner => rw [checkWidth, checkWidth_eq inner, outline, Outline.widths]
  | .always | .header _ | .attr _ => simp [checkWidth, outline, Outline.widths, refuseWidths]

theorem checkCompound_eq (cs : List Condition) :
    checkCompound cs = refuseWidths (Outline.compound (outlines cs)).widths := by
  rw [checkCompound, checkWidths_eq cs, Outline.widths, refuseWidths_cons, outlines_eq_map,
    List.length_map]

theorem checkWidths_eq (cs : List Condition) :
    checkWidths cs = refuseWidths (Outline.widthsOf (outlines cs)) := by
  match cs with
  | [] =>
    rw [checkWidths]
    rfl
  | c :: rest =>
    rw [checkWidths, checkWidth_eq c, checkWidths_eq rest, outlines, Outline.widthsOf,
      refuseWidths_append]

end

theorem checkWidth_eq_ok_iff (c : Condition) :
    c.checkWidth = .ok () ↔ ∀ width ∈ c.outline.widths, width ≤ maxChildren := by
  rw [checkWidth_eq, refuseWidths]
  cases hfind : c.outline.widths.find? (maxChildren < ·) with
  | some width =>
    have hmem := List.mem_of_find?_eq_some hfind
    have hlt : maxChildren < width := by simpa using List.find?_some hfind
    constructor
    · simp
    · intro h
      have hle := h width hmem
      omega
  | none => simpa using hfind

theorem checkWidth_eq_error_iff (c : Condition) (e : Error) :
    c.checkWidth = .error e ↔ ∃ width, c.outline.widths.find? (maxChildren < ·) = some width ∧
      e = .tooManyChildren width maxChildren := by
  rw [checkWidth_eq, refuseWidths]
  cases c.outline.widths.find? (maxChildren < ·) with
  | some width => simp [eq_comm]
  | none => simp

/-! ## Both limits -/

/-- The conditions within the limits are the ones that pass the check. -/
theorem check_eq_ok_iff (c : Condition) : c.check = .ok () ↔ c.outline.WithinLimits := by
  rw [check, depth_eq_height]
  split
  · next hdeep =>
    constructor
    · simp
    · intro h
      have hle := h.height_le
      omega
  · next hdeep =>
    rw [checkWidth_eq_ok_iff]
    exact ⟨fun h => ⟨Nat.le_of_not_lt hdeep, h⟩, fun h => h.widths_le⟩

theorem check_eq_error_iff (c : Condition) (e : Error) :
    c.check = .error e ↔ c.outline.Fault e := by
  rw [check, depth_eq_height]
  split
  · next hdeep =>
    constructor
    · rintro h
      obtain rfl := Except.error.inj h
      exact .tooDeep hdeep
    · intro h
      cases h with
      | tooDeep => rfl
      | tooWide hle width hfirst => omega
  · next hdeep =>
    rw [checkWidth_eq_error_iff]
    constructor
    · rintro ⟨width, hfirst, rfl⟩
      exact .tooWide (Nat.le_of_not_lt hdeep) width hfirst
    · intro h
      cases h with
      | tooDeep hlt => exact absurd hlt hdeep
      | tooWide hle width hfirst => exact ⟨width, hfirst, rfl⟩

end Condition

end AccessPolicy
