import AccessPolicy.Condition.Basic
import AccessPolicy.Limits

/-!
# Limits of conditions

A condition may neither nest too deep nor have compounds that are too wide. Depth is measured with
a stack of the conditions still to be visited, so that the measure itself never nests.
-/

namespace AccessPolicy.Condition

mutual

/-- The count of nodes of a condition. -/
def size : Condition → Nat
  | .anyOf children => sizes children + 1
  | .allOf children => sizes children + 1
  | .not inner => inner.size + 1
  | _ => 1

/-- The count of nodes of some conditions. -/
def sizes : List Condition → Nat
  | [] => 0
  | c :: rest => c.size + sizes rest

end

/-- The direct parts of a condition. -/
def children : Condition → List Condition
  | .anyOf cs => cs
  | .allOf cs => cs
  | .not inner => [inner]
  | _ => []

/-- A condition has more nodes than its parts together. -/
theorem sizes_children_lt (c : Condition) : sizes c.children < c.size := by
  cases c <;> simp [children, size, sizes]

/-- A condition has a node. -/
theorem size_pos (c : Condition) : 0 < c.size := by
  cases c <;> simp [size]

theorem sizes_append (cs ds : List Condition) : sizes (cs ++ ds) = sizes cs + sizes ds := by
  induction cs with
  | nil => simp [sizes]
  | cons c cs ih => simp [sizes, ih, Nat.add_assoc]

theorem sizes_reverse (cs : List Condition) : sizes cs.reverse = sizes cs := by
  induction cs with
  | nil => rfl
  | cons c cs ih =>
    rw [List.reverse_cons, sizes_append, ih]
    simp [sizes, Nat.add_comm]

/-- The children of a condition take their nodes along when they are put on a stack. -/
theorem sizes_push_children (c : Condition) (depth : Nat) (stack : List (Condition × Nat)) :
    sizes (((c.children.map (·, depth)).reverse ++ stack).map Prod.fst) =
      sizes c.children + sizes (stack.map Prod.fst) := by
  have h : (c.children.map (·, depth)).map Prod.fst = c.children := by
    simp [Function.comp_def]
  rw [List.map_append, List.map_reverse, h, sizes_append, sizes_reverse]

/-- The largest depth among `deepest` and the depths reached below the conditions of a stack, each
given with its own depth. The last child of a condition comes to the top of the stack. -/
def deepestFrom (deepest : Nat) : List (Condition × Nat) → Nat
  | [] => deepest
  | (c, depth) :: rest =>
    deepestFrom (max deepest depth) ((c.children.map (·, depth + 1)).reverse ++ rest)
termination_by stack => sizes (stack.map Prod.fst)
decreasing_by
  rw [sizes_push_children, List.map_cons, sizes]
  exact Nat.add_lt_add_right c.sizes_children_lt _

/-- The depth of a condition: one more than its deepest part. -/
def depth (c : Condition) : Nat :=
  deepestFrom 0 [(c, 1)]

mutual

/-- Refuses the first compound, from the outside in and from left to right, that is too wide. -/
def checkWidth : Condition → Except Error Unit
  | .anyOf children => checkCompound children
  | .allOf children => checkCompound children
  | .not inner => inner.checkWidth
  | _ => .ok ()

/-- Refuses a compound of too many children; else goes on to the children. -/
def checkCompound (children : List Condition) : Except Error Unit :=
  if maxChildren < children.length then .error (.tooManyChildren children.length maxChildren)
  else checkWidths children

/-- Refuses the first compound that is too wide, of some conditions. -/
def checkWidths : List Condition → Except Error Unit
  | [] => .ok ()
  | c :: rest => do
    c.checkWidth
    checkWidths rest

end

/-- Refuses a condition that nests too deep, or else has a compound that is too wide. -/
def check (c : Condition) : Except Error Unit :=
  if maxDepth < c.depth then .error (.depthExceeded c.depth maxDepth) else c.checkWidth

end AccessPolicy.Condition
