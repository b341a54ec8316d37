import AccessPolicy.Proofs.Condition.Limits
import AccessPolicy.Proofs.Condition.Trace
import Mathlib.Logic.Function.Iterate

/-!
# How the limits are checked

The depth of a condition is measured in turns: each takes a condition from the top of a stack and
puts the children there in its place. The nodes below the conditions on the stack are the ones still
to be visited, and every turn visits one. So the measure ends, and what it will come to is the same
from the first turn to the last.

Compounds are looked at after that, from the outside in and from left to right. In terms of places
this is the order in which they compare number by number: a place comes before the places that
continue it, and before those that turn off to the right of it.

Main results:

* `outcome_turn`, `left_turn` — what one turn of the measure keeps, and what it uses up;
* `turns_end`, `turns_go_on` — after how many turns the measure ends;
* `checkWidth_eq_error_iff_first` — the compound that the error tells of comes before all others
  that are too wide;
* `check_judges` — what the check measures, accepts and reports.
-/

namespace AccessPolicy.Condition

/-! ## Depth, turn by turn -/

/-- A measure under way: the largest depth so far, and the stack of the conditions still to be
visited, each with its own depth. -/
structure Survey where
  deepest : Nat
  stack : List (Condition × Nat)

namespace Survey

/-- The measure of a condition of which nothing has been visited. -/
def ofCondition (c : Condition) : Survey := ⟨0, [(c, 1)]⟩

/-- One turn: the condition on top of the stack is visited, and its children take its place. -/
def turn : Survey → Survey
  | ⟨deepest, []⟩ => ⟨deepest, []⟩
  | ⟨deepest, (c, depth) :: rest⟩ =>
    ⟨max deepest depth, (c.children.map (·, depth + 1)).reverse ++ rest⟩

/-- What the measure will come to. -/
def outcome (survey : Survey) : Nat := deepestFrom survey.deepest survey.stack

/-- The count of nodes still to be visited. -/
def left (survey : Survey) : Nat := sizes (survey.stack.map Prod.fst)

theorem left_eq_zero_iff {survey : Survey} : survey.left = 0 ↔ survey.stack = [] := by
  obtain ⟨deepest, stack⟩ := survey
  cases stack with
  | nil => simp [left, sizes]
  | cons entry rest =>
    -- there is at least the root of the condition on top
    have hpos : 0 < entry.1.size := entry.1.size_pos
    simp only [left, List.map_cons, sizes, reduceCtorEq, iff_false]
    omega

/-- A turn does not change what the measure will come to. -/
theorem outcome_turn (survey : Survey) : survey.turn.outcome = survey.outcome := by
  obtain ⟨deepest, stack⟩ := survey
  cases stack with
  | nil => rfl
  | cons entry rest => rw [turn, outcome, outcome, deepestFrom]

theorem size_eq_sizes_children (c : Condition) : c.size = sizes c.children + 1 := by
  cases c <;> simp [size, children, sizes]

/-- A turn visits one node, as long as there is one. -/
theorem left_turn (survey : Survey) : survey.turn.left = survey.left - 1 := by
  obtain ⟨deepest, stack⟩ := survey
  cases stack with
  | nil => rfl
  | cons entry rest =>
    -- the condition goes, and of its nodes all but the root come back with the children
    have hsize := size_eq_sizes_children entry.1
    rw [turn, left, left, sizes_push_children, List.map_cons, sizes]
    omega

/-- What the measure will come to is the same from the first turn to the last. -/
theorem outcome_turns (survey : Survey) (n : Nat) :
    (turn^[n] survey).outcome = survey.outcome := by
  -- on the count of turns, of which the last is split off
  induction n with
  | zero => rfl
  | succ n ih => rw [Function.iterate_succ_apply', outcome_turn, ih]

theorem left_turns (survey : Survey) (n : Nat) : (turn^[n] survey).left = survey.left - n := by
  induction n with
  | zero => rfl
  | succ n ih => rw [Function.iterate_succ_apply', left_turn, ih, Nat.sub_sub]

/-- The measure ends after one turn for every node, with what it was to come to. -/
theorem turns_end (survey : Survey) : turn^[survey.left] survey = ⟨survey.outcome, []⟩ := by
  have hleft : (turn^[survey.left] survey).stack = [] := by
    rw [← left_eq_zero_iff, left_turns, Nat.sub_self]
  have houtcome : (turn^[survey.left] survey).outcome = survey.outcome :=
    outcome_turns survey survey.left
  generalize turn^[survey.left] survey = last at hleft houtcome ⊢
  obtain ⟨deepest, stack⟩ := last
  obtain rfl : stack = [] := hleft
  -- with nothing left to visit the largest depth so far is the outcome
  rw [← houtcome, outcome, deepestFrom]

/-- The measure does not end any sooner. -/
theorem turns_go_on {survey : Survey} {n : Nat} (h : n < survey.left) :
    (turn^[n] survey).stack ≠ [] := by
  rw [Ne, ← left_eq_zero_iff, left_turns]
  omega

end Survey

/-- The height of a condition is one more than that of its highest child, if it has any. -/
theorem height_outline (c : Condition) :
    c.outline.height = (c.children.map (·.outline.height)).foldr max 0 + 1 := by
  -- an outline takes the highest of a list in its own way
  have hhighest : ∀ cs : List Condition,
      Outline.highest (outlines cs) = (cs.map (·.outline.height)).foldr max 0 := by
    intro cs
    induction cs with
    | nil => rfl
    | cons c rest ih => rw [outlines, Outline.highest, ih, List.map_cons, List.foldr_cons]
  cases c with
  | anyOf parts | allOf parts => rw [outline, Outline.height, hhighest, children]
  | not inner => simp [outline, Outline.height, children]
  | always | header _ | attr _ => rfl

/-! ## Compounds that are too wide -/

/-- The count of the children of a compound. -/
def width? : Condition → Option Nat
  | .anyOf parts => some parts.length
  | .allOf parts => some parts.length
  | _ => none

/-- A place where a condition has a compound of a width that is too large. -/
def TooWideAt (c : Condition) (place : List Nat) (width : Nat) : Prop :=
  (c.at? place).bind width? = some width ∧ maxChildren < width

/-- One place comes before another, from the outside in and from left to right. -/
def PlaceBefore (place other : List Nat) : Prop :=
  List.Lex (fun i j => i < j) place other

/-- A compound that is too wide, and comes before all others. -/
structure FirstTooWide (c : Condition) (place : List Nat) (width : Nat) : Prop where
  here : c.TooWideAt place width
  before : ∀ earlier, PlaceBefore earlier place → ∀ width', ¬ c.TooWideAt earlier width'

/-- Whatever holds of a condition as soon as it holds of all children holds of every condition. -/
theorem induction_on_children {P : Condition → Prop}
    (h : ∀ c, (∀ child ∈ c.children, P child) → P c) (c : Condition) : P c :=
  h c fun child _ => induction_on_children h child
termination_by c.size
decreasing_by
  next hchild =>
    -- the nodes of the child are among those below the root
    obtain ⟨before, behind, hchildren⟩ := List.append_of_mem hchild
    have hsize : c.size = sizes c.children + 1 := Survey.size_eq_sizes_children c
    rw [hchildren, sizes_append, sizes] at hsize
    omega

theorem tooWideAt_cons_iff {c : Condition} {i : Nat} {place : List Nat} {width : Nat} :
    c.TooWideAt (i :: place) width ↔
      ∃ child, c.children[i]? = some child ∧ child.TooWideAt place width := by
  rw [TooWideAt, at?]
  cases c.children[i]? with
  | none => simp
  | some child => simp [TooWideAt]

/-- No compound of a condition is too wide if neither it nor a child has one. -/
theorem forall_not_tooWideAt_iff {c : Condition} :
    (∀ place width, ¬ c.TooWideAt place width) ↔
      (∀ width, ¬ c.TooWideAt [] width) ∧
        ∀ child ∈ c.children, ∀ place width, ¬ child.TooWideAt place width := by
  constructor
  · intro h
    refine ⟨h [], fun child hchild place width hwide => ?_⟩
    obtain ⟨i, hi⟩ := List.mem_iff_getElem?.mp hchild
    exact h (i :: place) width (tooWideAt_cons_iff.mpr ⟨child, hi, hwide⟩)
  · rintro ⟨hroot, hchildren⟩ place width hwide
    cases place with
    | nil => exact hroot width hwide
    | cons i place =>
      obtain ⟨child, hi, hwide⟩ := tooWideAt_cons_iff.mp hwide
      exact hchildren child (List.mem_of_getElem? hi) place width hwide

theorem firstTooWide_nil_iff {c : Condition} {width : Nat} :
    c.FirstTooWide [] width ↔ c.TooWideAt [] width := by
  constructor
  · exact fun h => h.here
  · intro h
    refine ⟨h, fun earlier hbefore => ?_⟩
    cases hbefore -- nothing comes before the root

/-- A compound below the root comes first if it does so in its own child, and neither the root nor a
child to the left has one. -/
theorem firstTooWide_cons_iff {c : Condition} {i : Nat} {place : List Nat} {width : Nat} :
    c.FirstTooWide (i :: place) width ↔
      (∀ width', ¬ c.TooWideAt [] width') ∧
        ∃ child, c.children[i]? = some child ∧ child.FirstTooWide place width ∧
          ∀ j < i, ∀ other, c.children[j]? = some other →
            ∀ place' width', ¬ other.TooWideAt place' width' := by
  constructor
  · -- the root and the places in the children to the left all come before this one
    rintro ⟨hhere, hbefore⟩
    obtain ⟨child, hchild, hwide⟩ := tooWideAt_cons_iff.mp hhere
    refine ⟨hbefore [] .nil, child, hchild, ⟨hwide, ?_⟩, ?_⟩
    · intro earlier hearlier width' hwide'
      exact hbefore (i :: earlier) (.cons hearlier) width'
        (tooWideAt_cons_iff.mpr ⟨child, hchild, hwide'⟩)
    · intro j hj other hother place' width' hwide'
      exact hbefore (j :: place') (.rel hj) width'
        (tooWideAt_cons_iff.mpr ⟨other, hother, hwide'⟩)
  · rintro ⟨hroot, child, hchild, hfirst, hleft⟩
    refine ⟨tooWideAt_cons_iff.mpr ⟨child, hchild, hfirst.here⟩, ?_⟩
    intro earlier hearlier width' hwide'
    -- an earlier place is the root, or in the same child, or in a child to the left
    cases hearlier with
    | nil => exact hroot width' hwide'
    | cons hearlier =>
      obtain ⟨child', hchild', hwide'⟩ := tooWideAt_cons_iff.mp hwide'
      obtain rfl : child = child' := Option.some.inj (hchild.symm.trans hchild')
      exact hfirst.before _ hearlier width' hwide'
    | rel hj =>
      obtain ⟨other, hother, hwide'⟩ := tooWideAt_cons_iff.mp hwide'
      exact hleft _ hj other hother _ width' hwide'

/-! ## The order of the check -/

theorem checkWidth_of_tooWide {c : Condition} {width : Nat} (h : c.TooWideAt [] width) :
    c.checkWidth = .error (.tooManyChildren width maxChildren) := by
  obtain ⟨hwidth, hlt⟩ : c.width? = some width ∧ maxChildren < width := h
  cases c with
  | anyOf parts | allOf parts =>
    obtain rfl := Option.some.inj hwidth
    rw [checkWidth, checkCompound, if_pos hlt]
  | always | not _ | header _ | attr _ => simp [width?] at hwidth

/-- A condition that is no compound too wide is checked by its children. -/
theorem checkWidth_of_not_tooWide {c : Condition} (h : ∀ width, ¬ c.TooWideAt [] width) :
    c.checkWidth = checkWidths c.children := by
  cases c with
  | anyOf parts | allOf parts =>
    have hle : ¬ maxChildren < parts.length := fun hlt => h parts.length ⟨rfl, hlt⟩
    rw [checkWidth, checkCompound, if_neg hle, children]
  | not inner =>
    rw [checkWidth, children, checkWidths, checkWidths]
    cases inner.checkWidth <;> rfl
  | always | header _ | attr _ =>
    rw [checkWidth, children, checkWidths]
    all_goals simp

theorem checkWidths_eq_ok_iff {cs : List Condition} :
    checkWidths cs = .ok () ↔ ∀ c ∈ cs, c.checkWidth = .ok () := by
  induction cs with
  | nil => simp [checkWidths]
  | cons c rest ih => rw [checkWidths, check_bind_eq_ok, ih, List.forall_mem_cons]

/-- Of some conditions the first that is refused tells the error. -/
theorem checkWidths_eq_error_iff {cs : List Condition} {e : Error} :
    checkWidths cs = .error e ↔
      ∃ (i : Nat) (c : Condition), cs[i]? = some c ∧ c.checkWidth = .error e ∧
        ∀ j < i, ∀ other : Condition, cs[j]? = some other → other.checkWidth = .ok () := by
  induction cs with
  | nil => simp [checkWidths]
  | cons c rest ih =>
    rw [checkWidths, check_bind_eq_error, ih]
    constructor
    · -- the head is refused, or it passes and the rest counts one further
      rintro (herror | ⟨hok, i, d, hi, herror, hleft⟩)
      · exact ⟨0, c, rfl, herror, by simp⟩
      · refine ⟨i + 1, d, hi, herror, ?_⟩
        intro j hj other hother
        cases j with
        | zero =>
          obtain rfl : c = other := Option.some.inj hother
          exact hok
        | succ j => exact hleft j (by omega) other hother
    · rintro ⟨i, d, hi, herror, hleft⟩
      cases i with
      | zero =>
        obtain rfl : c = d := Option.some.inj hi
        exact .inl herror
      | succ i =>
        refine .inr ⟨hleft 0 (by omega) c rfl, i, d, hi, herror, ?_⟩
        intro j hj other hother
        exact hleft (j + 1) (by omega) other hother

/-- A condition passes where no compound is too wide, at whatever place. -/
theorem checkWidth_eq_ok_iff_places (c : Condition) :
    c.checkWidth = .ok () ↔ ∀ place width, ¬ c.TooWideAt place width := by
  induction c using induction_on_children with
  | h c ih =>
    rw [forall_not_tooWideAt_iff]
    by_cases hroot : ∀ width, ¬ c.TooWideAt [] width
    · -- the root passes, so it is up to the children
      rw [checkWidth_of_not_tooWide hroot, checkWidths_eq_ok_iff, and_iff_right hroot]
      exact forall₂_congr ih
    · obtain ⟨width, hwide⟩ : ∃ width, c.TooWideAt [] width := by simpa using hroot
      rw [checkWidth_of_tooWide hwide]
      constructor
      · simp
      · rintro ⟨hnone, -⟩
        exact absurd hwide (hnone width)

/-- The error tells of the first compound that is too wide. -/
theorem checkWidth_eq_error_iff_first (c : Condition) (e : Error) :
    c.checkWidth = .error e ↔
      ∃ place width, c.FirstTooWide place width ∧ e = .tooManyChildren width maxChildren := by
  induction c using induction_on_children with
  | h c ih =>
    by_cases hroot : ∀ width, ¬ c.TooWideAt [] width
    · -- the first one is below the root, in the first child that is refused
      rw [checkWidth_of_not_tooWide hroot, checkWidths_eq_error_iff]
      constructor
      · rintro ⟨i, child, hchild, herror, hleft⟩
        obtain ⟨place, width, hfirst, rfl⟩ := (ih child (List.mem_of_getElem? hchild)).mp herror
        refine ⟨i :: place, width, firstTooWide_cons_iff.mpr ⟨hroot, child, hchild, hfirst, ?_⟩, rfl⟩
        intro j hj other hother
        exact (checkWidth_eq_ok_iff_places other).mp (hleft j hj other hother)
      · rintro ⟨place, width, hfirst, rfl⟩
        cases place with
        | nil => exact absurd hfirst.here (hroot width)
        | cons i place =>
          obtain ⟨-, child, hchild, hfirst, hleft⟩ := firstTooWide_cons_iff.mp hfirst
          refine ⟨i, child, hchild, ?_, ?_⟩
          · exact (ih child (List.mem_of_getElem? hchild)).mpr ⟨place, width, hfirst, rfl⟩
          · intro j hj other hother
            exact (checkWidth_eq_ok_iff_places other).mpr (hleft j hj other hother)
    · -- the root itself comes before all other places
      obtain ⟨width, hwide⟩ : ∃ width, c.TooWideAt [] width := by simpa using hroot
      rw [checkWidth_of_tooWide hwide]
      constructor
      · intro h
        exact ⟨[], width, firstTooWide_nil_iff.mpr hwide, (Except.error.inj h).symm⟩
      · rintro ⟨place, width', hfirst, rfl⟩
        cases place with
        | nil =>
          have hsame : some width = some width' := hwide.1.symm.trans hfirst.here.1
          rw [Option.some.inj hsame]
        | cons i place => exact absurd hwide (hfirst.before [] .nil width)

/-! ## Both limits -/

/-- What the check of a condition measures, accepts and reports. -/
structure Judged (c : Condition) : Prop where
  /-- The height that counts is 1 for a condition without children. -/
  height : c.outline.height = (c.children.map (·.outline.height)).foldr max 0 + 1
  /-- The measure ends after one turn for every node, with the height. -/
  ends : Survey.turn^[c.size] (.ofCondition c) = ⟨c.outline.height, []⟩
  goes_on : ∀ n < c.size, (Survey.turn^[n] (.ofCondition c)).stack ≠ []
  depth : c.depth = c.outline.height
  accepts : c.check = .ok () ↔
    c.outline.height ≤ maxDepth ∧ ∀ place width, ¬ c.TooWideAt place width
  /-- Depth counts first, whatever else is wrong. -/
  tooDeep : maxDepth < c.outline.height →
    c.check = .error (.depthExceeded c.outline.height maxDepth)
  /-- Otherwise the first compound that is too wide counts. -/
  tooWide : c.outline.height ≤ maxDepth → ∀ e, c.check = .error e ↔
    ∃ place width, c.FirstTooWide place width ∧ e = .tooManyChildren width maxChildren

/-- Every condition, of whatever size, is judged by its height and its compounds. -/
theorem check_judges (c : Condition) : c.Judged := by
  have hleft : (Survey.ofCondition c).left = c.size := rfl
  have houtcome : (Survey.ofCondition c).outcome = c.outline.height := depth_eq_height c
  refine ⟨height_outline c, ?ends, ?goes_on, depth_eq_height c, ?accepts, ?tooDeep, ?tooWide⟩
  case ends => rw [← hleft, Survey.turns_end, houtcome]
  case goes_on => exact fun n hn => Survey.turns_go_on hn
  case accepts =>
    rw [check, depth_eq_height, ← checkWidth_eq_ok_iff_places]
    split
    · next hdeep => simp [Nat.not_le_of_lt hdeep]
    · next hdeep => rw [and_iff_right (Nat.le_of_not_lt hdeep)]
  case tooDeep =>
    intro hdeep
    rw [check, depth_eq_height, if_pos hdeep]
  case tooWide =>
    intro hle e
    rw [check, depth_eq_height, if_neg (Nat.not_lt_of_le hle), checkWidth_eq_error_iff_first]

end AccessPolicy.Condition
