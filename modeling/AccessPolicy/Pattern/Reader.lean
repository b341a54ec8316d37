import AccessPolicy.Pattern.Bracket
import AccessPolicy.Pattern.Group

/-!
# Reading pattern expressions

Turns the text of a pattern into an expression. Open groups are kept on a stack; a step takes one
mark off the text: the start or the end of a group, an operator, or an item. A text whose groups do not balance is refused
at the parenthesis that has no partner, so no part of a pattern can reach out of a group around it.
-/

namespace AccessPolicy.Pattern

/-- What the text of a pattern is made of, one after the other. -/
inductive Mark where
  /-- The start of a group. -/
  | start (start : GroupStart)
  /-- The end of a group. -/
  | close
  /-- The sign between two branches. -/
  | bar
  /-- A repetition of what stands in front. -/
  | copies (min : Nat) (max : Option Nat)
  | item (e : Expr)

/-- The mark at the start of a text, which no blank precedes. -/
def readMark (verbose : Bool) : List Char → Option (Mark × List Char)
  | [] => none
  | '(' :: rest =>
    (readGroupStart verbose rest).map fun (start, rest) => (.start start, rest)
  | ')' :: rest => some (.close, rest)
  | '|' :: rest => some (.bar, rest)
  | '[' :: rest => (readBracket verbose rest).map fun (e, rest) => (.item e, rest)
  | '?' :: rest => some (.copies 0 (some 1), skipLazyMark rest)
  | '*' :: rest => some (.copies 0 none, skipLazyMark rest)
  | '+' :: rest => some (.copies 1 none, skipLazyMark rest)
  | '\x7b' :: rest =>
    (readBounds verbose rest).map fun ((min, max), rest) => (.copies min max, rest)
  | '\\' :: rest => (readEscape verbose rest).map fun (atom, rest) => (.item atom.expr, rest)
  | '.' :: rest => some (.item .dot, rest)
  | '^' :: rest => some (.item (.assertion .lineStart), rest)
  | '$' :: rest => some (.item (.assertion .lineEnd), rest)
  | c :: rest => some (.item (.literal ⟨c, false⟩), rest)

/-- A group still open: what precedes it in the sequence and the branches around it, last one first,
how it was opened, and whether blanks were skipped outside. -/
structure GroupFrame where
  items : List Expr
  branches : List Expr
  captures : Bool
  change : FlagChange
  verbose : Bool

/-- A pattern being read: the open groups, innermost first, the finished branches and the items of
the current branch, last one first, whether blanks are skipped, and the group names seen. -/
structure Reading where
  frames : List GroupFrame := []
  branches : List Expr := []
  items : List Expr := []
  verbose : Bool := false
  names : List (List Char) := []

namespace Reading

/-- Adds an item to the current branch. -/
def push (r : Reading) (e : Expr) : Reading :=
  { r with items := e :: r.items }

/-- The body of the innermost group, or of the whole pattern. -/
def body (r : Reading) : Expr :=
  .ofBranches (Expr.ofSequence r.items.reverse :: r.branches).reverse

/-- Opens a group. -/
def openGroup (r : Reading) (captures : Bool) (change : FlagChange) : Reading :=
  { r with
    frames := ⟨r.items, r.branches, captures, change, r.verbose⟩ :: r.frames
    branches := []
    items := []
    verbose := (change.setting? .verbose).getD r.verbose }

/-- Closes the innermost group. -/
def closeGroup (r : Reading) : Option Reading :=
  match r.frames with
  | [] => none
  | frame :: frames => some { r with
      frames
      branches := frame.branches
      items := .group frame.captures frame.change r.body :: frame.items
      verbose := frame.verbose }

/-- Puts a repetition in the place of the last item. Neither an empty branch nor a change of flags
can be repeated. -/
def repeatLast (r : Reading) (min : Nat) (max : Option Nat) : Option Reading :=
  match r.items with
  | [] | .empty :: _ | .flags _ :: _ => none
  | e :: items => some { r with items := .repeated min max e :: items }

/-- Takes in the start of a group. Two groups of one name are refused. -/
def startGroup (r : Reading) : GroupStart → Option Reading
  | .capture none => some (r.openGroup true {})
  | .capture (some name) =>
    if r.names.contains name then none
    else some { r.openGroup true {} with names := name :: r.names }
  | .scoped change => some (r.openGroup false change)
  | .switch change => some
      { r.push (.flags change) with verbose := (change.setting? .verbose).getD r.verbose }

/-- Takes in one mark. -/
def take (r : Reading) : Mark → Option Reading
  | .start start => r.startGroup start
  | .close => r.closeGroup
  | .bar => some { r with branches := .ofSequence r.items.reverse :: r.branches, items := [] }
  | .copies min max => r.repeatLast min max
  | .item e => some (r.push e)

/-- Takes one mark off the text, which starts with no blank. -/
def step (r : Reading) (text : List Char) : Option (Reading × List Char) := do
  let (mark, rest) ← readMark r.verbose text
  return (← r.take mark, rest)

/-- Steps to the end of the text, where no group may be open. -/
def run : Nat → Reading → List Char → Option Expr
  | 0, _, _ => none
  | fuel + 1, r, text =>
    match skipBlank r.verbose text with
    | [] => if r.frames.isEmpty then some r.body else none
    | c :: rest => (r.step (c :: rest)).bind fun (r, rest) => run fuel r rest

end Reading

/-- Groups, repetitions and brackets may nest this deep. -/
def nestLimit : Nat := 250

/-- The expression that a pattern spells. -/
def Expr.ofText? (text : List Char) : Option Expr :=
  (Reading.run (text.length + 1) {} text).filter (·.depth ≤ nestLimit)

end AccessPolicy.Pattern
