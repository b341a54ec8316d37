import AccessPolicy.Pattern.Escape

/-!
# Bracketed classes

Reads `[…]`. Brackets may nest and operands may be joined by `&&`, `--` and `~~`, which have one
rank and group to the left; what is still open is kept on a stack.
-/

namespace AccessPolicy.Pattern

/-- Something still open inside the brackets. -/
inductive ClassFrame where
  /-- An outer class: its items so far, last one first, and whether the inner one is negated. -/
  | outer (items : List ClassItem) (negated : Bool)
  /-- An operator and its left operand. -/
  | operator (op : SetOp) (left : ClassSet)

/-- A class being read: what is open around the current operand, and its items, last one first. -/
structure ClassReading where
  frames : List ClassFrame
  items : List ClassItem

namespace ClassReading

/-- Adds an item to the current operand. -/
def push (r : ClassReading) (item : ClassItem) : ClassReading :=
  { r with items := item :: r.items }

/-- The current operand, joined with the operand on its left if there is one, and the frames
around it. -/
def operand (r : ClassReading) : ClassSet × List ClassFrame :=
  let set := ClassSet.items r.items.reverse
  match r.frames with
  | .operator op left :: frames => (.op op left set, frames)
  | frames => (set, frames)

/-- Goes on after an operator. -/
def startOperand (r : ClassReading) (op : SetOp) : ClassReading :=
  let (left, frames) := r.operand
  ⟨.operator op left :: frames, []⟩

end ClassReading

/-- Whether a class starts with a sign of negation, and what follows. -/
def readNegation (verbose : Bool) (text : List Char) : Bool × List Char :=
  match skipBlank verbose text with
  | '^' :: rest => (true, skipBlank verbose rest)
  | text => (false, text)

/-- What follows an opening bracket: a sign of negation, then hyphens or else a closing bracket that
stand for themselves. Answers the negation, the items last one first, and the rest. -/
def readClassStart (verbose : Bool) (text : List Char) : Bool × List ClassItem × List Char :=
  let (negated, text) := readNegation verbose text
  match spanLoose verbose (· = '-') text with
  | ([], ']' :: rest) => (negated, [.literal ⟨']', false⟩], skipBlank verbose rest)
  | (hyphens, rest) => (negated, hyphens.map fun c => .literal ⟨c, false⟩, rest)

/-- The ASCII class of a name. -/
def AsciiClass.ofName? : String → Option AsciiClass
  | "alnum" => some .alnum
  | "alpha" => some .alpha
  | "ascii" => some .ascii
  | "blank" => some .blank
  | "cntrl" => some .cntrl
  | "digit" => some .digit
  | "graph" => some .graph
  | "lower" => some .lower
  | "print" => some .print
  | "punct" => some .punct
  | "space" => some .space
  | "upper" => some .upper
  | "word" => some .word
  | "xdigit" => some .xdigit
  | _ => none

/-- The name of an ASCII class and the signs that close it. -/
def readAsciiName (negated : Bool) (text : List Char) : Option (ClassItem × List Char) :=
  let name := text.takeWhile (· != ':')
  match text.drop name.length with
  | ':' :: ']' :: rest =>
    (AsciiClass.ofName? (String.ofList name)).map fun cls => (.ascii negated cls, rest)
  | _ => none

/-- An ASCII class such as `[:^digit:]`, given what follows its first bracket. -/
def readAsciiClass : List Char → Option (ClassItem × List Char)
  | ':' :: '^' :: text => readAsciiName true text
  | ':' :: text => readAsciiName false text
  | _ => none

/-- One end of a range, or an item of its own. -/
def readClassAtom (verbose : Bool) : List Char → Option (Atom × List Char)
  | [] => none
  | '\\' :: rest => readEscape verbose rest
  | c :: rest => some (.literal ⟨c, false⟩, rest)

/-- The class item that consists of one atom; positions cannot stand in a class. -/
def Atom.classItem? : Atom → Option ClassItem
  | .literal lit => some (.literal lit)
  | .letter negated cls => some (.letter negated cls)
  | .property negated query => some (.property negated query)
  | .dot | .assertion _ => none

/-- The character of a literal atom. -/
def Atom.literal? : Atom → Option Literal
  | .literal lit => some lit
  | _ => none

/-- The range from one atom to the next, given what follows the hyphen between them. -/
def readRange (verbose : Bool) (first : Atom) (text : List Char) :
    Option (ClassItem × List Char) := do
  let (last, rest) ← readClassAtom verbose (skipBlank verbose text)
  let first ← first.literal?
  let last ← last.literal?
  if first.char ≤ last.char then return (.range first last, rest) else none

/-- An item or a range. A hyphen makes a range unless a closing bracket or another hyphen
follows it. -/
def readClassItem (verbose : Bool) (text : List Char) : Option (ClassItem × List Char) := do
  let (first, rest) ← readClassAtom verbose text
  let rest := skipBlank verbose rest
  match rest with
  | [] => none
  | '-' :: after =>
    let next := peekLoose verbose after
    if next = some ']' || next = some '-' then return (← first.classItem?, rest)
    else readRange verbose first after
  | _ => return (← first.classItem?, rest)

/-- One step inside a class: what is open afterwards, or the finished class. -/
def ClassReading.step (verbose : Bool) (r : ClassReading) :
    List Char → Option ((ClassReading ⊕ Expr) × List Char)
  | [] => none
  | '[' :: rest =>
    match readAsciiClass rest with
    | some (item, rest) => some (.inl (r.push item), rest)
    | none =>
      let (negated, items, rest) := readClassStart verbose rest
      some (.inl ⟨.outer r.items negated :: r.frames, items⟩, rest)
  | ']' :: rest =>
    match r.operand with
    | (set, [.outer _ negated]) => some (.inr (.bracket negated set), rest)
    | (set, .outer items negated :: frames) =>
      some (.inl ⟨frames, .bracket negated set :: items⟩, rest)
    | _ => none
  | '&' :: '&' :: rest => some (.inl (r.startOperand .inter), rest)
  | '-' :: '-' :: rest => some (.inl (r.startOperand .diff), rest)
  | '~' :: '~' :: rest => some (.inl (r.startOperand .symmDiff), rest)
  | text => do
    let (item, rest) ← readClassItem verbose text
    return (.inl (r.push item), rest)

/-- Steps until the class is closed. -/
def ClassReading.run (verbose : Bool) : Nat → ClassReading → List Char → Option (Expr × List Char)
  | 0, _, _ => none
  | fuel + 1, r, text =>
    match r.step verbose (skipBlank verbose text) with
    | none => none
    | some (.inr e, rest) => some (e, rest)
    | some (.inl r, rest) => ClassReading.run verbose fuel r rest

/-- Reads a bracketed class, given the text after its opening bracket. -/
def readBracket (verbose : Bool) (text : List Char) : Option (Expr × List Char) :=
  let (negated, items, rest) := readClassStart verbose text
  ClassReading.run verbose (text.length + 1) ⟨[.outer [] negated], items⟩ rest

end AccessPolicy.Pattern
