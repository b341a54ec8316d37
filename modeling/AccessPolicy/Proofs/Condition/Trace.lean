import AccessPolicy.Condition.Limits
import AccessPolicy.Condition.Trace

/-!
# Traces, place by place

A place in a tree says at every level which child comes next. This module compares a condition and
its trace at all places: they have nodes at the same places, and each node of the trace tells of the
part at its own place whether it holds and what it reads. A condition is decided without looking
further than needed; nothing of this shows in the trace.

Main results:

* `at?_trace` — the trace of a part stands in the trace of the whole, at the part's place;
* `mirrors_trace` — what the root of a trace tells;
* `trace_mirrors` — what a trace tells at every place.
-/

namespace AccessPolicy.Condition

/-- The part of a condition at a place. -/
def at? : Condition → List Nat → Option Condition
  | c, [] => some c
  | c, i :: place => c.children[i]?.bind (·.at? place)

namespace Trace

/-- The traces of the direct parts. -/
def children : Trace → List Trace
  | .anyOf _ parts => parts
  | .allOf _ parts => parts
  | .not _ inner => [inner]
  | _ => []

/-- The node of a trace at a place. -/
def at? : Trace → List Nat → Option Trace
  | t, [] => some t
  | t, i :: place => t.children[i]?.bind (·.at? place)

/-- A node of a trace that is made like a part of a condition. Compounds have a node for every child
and take their own flag from the flags of these; leaves record what they look up and what the
request has for it. -/
inductive Mirrors (request : Request) : Condition → Trace → Prop where
  | always : Mirrors request .always .always
  | anyOf {parts : List Condition} {nodes : List Trace} (length_eq : nodes.length = parts.length) :
    Mirrors request (.anyOf parts) (.anyOf (nodes.any matched) nodes)
  | allOf {parts : List Condition} {nodes : List Trace} (length_eq : nodes.length = parts.length) :
    Mirrors request (.allOf parts) (.allOf (nodes.all matched) nodes)
  | not {part : Condition} {node : Trace} :
    Mirrors request (.not part) (.not (!node.matched) node)
  | header {matcher : HeaderMatcher} {matched : Bool} :
    Mirrors request (.header matcher)
      (.header matched matcher.name (request.header matcher.name))
  | attr {matcher : AttributeMatcher} {matched : Bool} :
    Mirrors request (.attr matcher)
      (.attr matched matcher.attr (matcher.attr.value? request) matcher.test.description)

end Trace

/-! ## Places -/

theorem traces_eq_map (request : Request) (cs : List Condition) :
    traces request cs = cs.map (trace request) := by
  induction cs with
  | nil => rfl
  | cons c rest ih => rw [traces, ih, List.map_cons]

/-- A trace has a child for every child of the condition, in the same order. -/
theorem children_trace (request : Request) (c : Condition) :
    (c.trace request).children = c.children.map (trace request) := by
  cases c with
  | anyOf parts => exact traces_eq_map request parts
  | allOf parts => exact traces_eq_map request parts
  | always | not _ | header _ | attr _ => rfl

/-- The trace of a part stands in the trace of the whole, at the part's place. -/
theorem at?_trace (request : Request) (c : Condition) (place : List Nat) :
    (c.trace request).at? place = (c.at? place).map (trace request) := by
  -- on the place: both go down to the same child, or there is none
  induction place generalizing c with
  | nil => rfl
  | cons i place ih =>
    rw [Trace.at?, at?, children_trace, List.getElem?_map]
    cases c.children[i]? with
    | none => rfl
    | some child => exact ih child

/-! ## Nodes -/

/-- The root of a trace is made like the condition. -/
theorem mirrors_trace (request : Request) (c : Condition) :
    Trace.Mirrors request c (c.trace request) := by
  have hlength : ∀ parts : List Condition, (traces request parts).length = parts.length := by
    intro parts
    rw [traces_eq_map, List.length_map]
  cases c with
  | anyOf parts => exact .anyOf (hlength parts)
  | allOf parts => exact .allOf (hlength parts)
  | always => exact .always
  | not part => exact .not
  | header matcher => exact .header
  | attr matcher => exact .attr

/-- At every place where a condition has a part its trace has a node, and nowhere else. The node is
made like the part, and tells whether the part holds. -/
theorem trace_mirrors (request : Request) (c : Condition) (place : List Nat) :
    Option.Rel (fun part node =>
        Trace.Mirrors request part node ∧ node.matched = part.holds request)
      (c.at? place) ((c.trace request).at? place) := by
  rw [at?_trace]
  cases c.at? place with
  | none => exact .none
  | some part =>
    -- what is true of a root is true at every place, for the node is the trace of the part
    have hmade : Trace.Mirrors request part (part.trace request) := mirrors_trace request part
    have hflag : (part.trace request).matched = part.holds request := matched_trace request part
    exact .some ⟨hmade, hflag⟩

end AccessPolicy.Condition
