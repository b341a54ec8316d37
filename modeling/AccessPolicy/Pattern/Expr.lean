/-!
# Pattern expressions

The expression that the text of a pattern spells, before flags are resolved: `(?i)` is still an
item of its own, and a class is still the list of what stands between its brackets.
-/

namespace AccessPolicy.Pattern

/-- What a letter between `(?` and `)` switches. -/
inductive Flag where
  /-- `i`: case is ignored. -/
  | ignoreCase
  /-- `m`: `^` and `$` also match at line ends. -/
  | multiLine
  /-- `s`: the dot also matches a line feed. -/
  | dotAll
  /-- `U`: repetitions prefer few copies; which texts match does not change. -/
  | swapGreed
  /-- `u`: classes and boundaries follow Unicode. -/
  | unicode
  /-- `R`: a carriage return also ends a line. -/
  | crlf
  /-- `x`: blanks and comments in the pattern are skipped. -/
  | verbose
deriving DecidableEq, Repr

/-- The flags that `(?on-off)` switches on and off. -/
structure FlagChange where
  on : List Flag := []
  off : List Flag := []
deriving DecidableEq, Repr

/-- What the change says about one flag, if anything. -/
def FlagChange.setting? (change : FlagChange) (flag : Flag) : Option Bool :=
  if change.on.contains flag then some true
  else if change.off.contains flag then some false
  else none

/-- Tests of a position that consume nothing. -/
inductive Assertion where
  /-- `^` -/
  | lineStart
  /-- `$` -/
  | lineEnd
  /-- `\A` -/
  | textStart
  /-- `\z` -/
  | textEnd
  /-- `\b` -/
  | boundary
  /-- `\B` -/
  | noBoundary
  /-- `\b{start}` and `\<` -/
  | wordStart
  /-- `\b{end}` and `\>` -/
  | wordEnd
  /-- `\b{start-half}` -/
  | wordStartHalf
  /-- `\b{end-half}` -/
  | wordEndHalf
deriving DecidableEq, Repr

/-- A character to be matched as it is. `byteEscape` marks the two-digit spelling `\xNN`, which
stands for one byte where Unicode is off. -/
structure Literal where
  char : Char
  byteEscape : Bool := false
deriving DecidableEq, Repr

/-- The classes `\d`, `\s` and `\w`. -/
inductive LetterClass where
  | digit
  | space
  | word
deriving DecidableEq, Repr

/-- The bracket classes of ASCII characters, such as `[:alpha:]`. -/
inductive AsciiClass where
  | alnum
  | alpha
  | ascii
  | blank
  | cntrl
  | digit
  | graph
  | lower
  | print
  | punct
  | space
  | upper
  | word
  | xdigit
deriving DecidableEq, Repr

/-- What `\p{…}` asks for. -/
inductive PropertyQuery where
  /-- `\p{name}` -/
  | named (name : List Char)
  /-- `\p{property=value}` -/
  | valued (property value : List Char)
deriving DecidableEq, Repr

/-- The operators between the operands of a class. -/
inductive SetOp where
  /-- `&&` -/
  | inter
  /-- `--` -/
  | diff
  /-- `~~` -/
  | symmDiff
deriving DecidableEq, Repr

mutual

/-- One entry of a bracketed class. -/
inductive ClassItem where
  | literal (lit : Literal)
  | range (first last : Literal)
  | ascii (negated : Bool) (cls : AsciiClass)
  | letter (negated : Bool) (cls : LetterClass)
  | property (negated : Bool) (query : PropertyQuery)
  | bracket (negated : Bool) (set : ClassSet)

/-- What stands between the brackets of a class. -/
inductive ClassSet where
  | items (items : List ClassItem)
  | op (op : SetOp) (left right : ClassSet)

end

/-- A pattern expression. -/
inductive Expr where
  | empty
  /-- `(?i)` and the like, in force up to the end of the enclosing group. -/
  | flags (change : FlagChange)
  | literal (lit : Literal)
  | dot
  | assertion (test : Assertion)
  | letter (negated : Bool) (cls : LetterClass)
  | property (negated : Bool) (query : PropertyQuery)
  | bracket (negated : Bool) (set : ClassSet)
  /-- At least `min` copies and, unless `max` is absent, at most `max`. -/
  | repeated (min : Nat) (max : Option Nat) (body : Expr)
  /-- A group, which captures unless it was opened by `(?…:`. -/
  | group (captures : Bool) (change : FlagChange) (body : Expr)
  | alternatives (branches : List Expr)
  | sequence (items : List Expr)

/-! ## Nesting -/

mutual

/-- How deep brackets nest in a class item. -/
def ClassItem.depth : ClassItem → Nat
  | .bracket _ set => set.depth + 1
  | _ => 0

/-- How deep brackets, operators and lists of items nest in a class. -/
def ClassSet.depth : ClassSet → Nat
  | .items [] => 0
  | .items [item] => item.depth
  | .items (item :: item' :: rest) => max item.depth (max item'.depth (ClassItem.depths rest)) + 1
  | .op _ left right => max left.depth right.depth + 1

/-- The largest depth of some class items. -/
def ClassItem.depths : List ClassItem → Nat
  | [] => 0
  | item :: rest => max item.depth (ClassItem.depths rest)

end

mutual

/-- How deep groups, repetitions, lists and brackets nest in an expression. -/
def Expr.depth : Expr → Nat
  | .bracket _ set => set.depth + 1
  | .repeated _ _ body => body.depth + 1
  | .group _ _ body => body.depth + 1
  | .alternatives branches => Expr.depths branches + 1
  | .sequence items => Expr.depths items + 1
  | _ => 0

/-- The largest depth of some expressions. -/
def Expr.depths : List Expr → Nat
  | [] => 0
  | e :: rest => max e.depth (Expr.depths rest)

end

/-! ## Smart constructors -/

/-- Items one after the other; a single item stands for itself. -/
def Expr.ofSequence : List Expr → Expr
  | [] => .empty
  | [e] => e
  | es => .sequence es

/-- Branches of which any may match; a single branch stands for itself. -/
def Expr.ofBranches : List Expr → Expr
  | [] => .empty
  | [e] => e
  | es => .alternatives es

end AccessPolicy.Pattern
