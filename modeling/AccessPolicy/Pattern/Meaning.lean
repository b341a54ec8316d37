import AccessPolicy.Pattern.Basic
import AccessPolicy.Pattern.Expr
import AccessPolicy.Unicode.CaseFolding
import AccessPolicy.Unicode.Property

/-!
# What an expression means

Resolves the flags of an expression. A class becomes the set of its characters. Patterns are
matched against text, so where Unicode is off a class that would take bytes beyond ASCII has no
meaning.
-/

namespace AccessPolicy.Pattern

/-- The flags in force at a place of an expression. -/
structure Flags where
  ignoreCase : Bool := false
  multiLine : Bool := false
  dotAll : Bool := false
  crlf : Bool := false
  unicode : Bool := true
deriving DecidableEq, Repr

/-- The flags after a change. -/
def Flags.apply (flags : Flags) (change : FlagChange) : Flags where
  ignoreCase := (change.setting? .ignoreCase).getD flags.ignoreCase
  multiLine := (change.setting? .multiLine).getD flags.multiLine
  dotAll := (change.setting? .dotAll).getD flags.dotAll
  crlf := (change.setting? .crlf).getD flags.crlf
  unicode := (change.setting? .unicode).getD flags.unicode

/-- The kind of word that boundaries look for. -/
def Flags.words (flags : Flags) : WordKind :=
  if flags.unicode then .unicode else .ascii

/-! ## Sets of characters -/

/-- The set of the characters of some ranges, given as characters. -/
def charRanges (rs : List (Char × Char)) : CharSet :=
  .ofRanges (rs.map fun (lo, hi) => (lo.toNat, hi.toNat))

/-- The characters of an ASCII class. -/
def AsciiClass.chars : AsciiClass → CharSet
  | .alnum => charRanges [('0', '9'), ('A', 'Z'), ('a', 'z')]
  | .alpha => charRanges [('A', 'Z'), ('a', 'z')]
  | .ascii => .range 0 0x7F
  | .blank => charRanges [('\t', '\t'), (' ', ' ')]
  | .cntrl => .ofRanges [(0, 0x1F), (0x7F, 0x7F)]
  | .digit => charRanges [('0', '9')]
  | .graph => charRanges [('!', '~')]
  | .lower => charRanges [('a', 'z')]
  | .print => charRanges [(' ', '~')]
  | .punct => charRanges [('!', '/'), (':', '@'), ('[', '\x60'), ('\x7b', '~')]
  | .space => .ofRanges [(0x09, 0x0D), (0x20, 0x20)]
  | .upper => charRanges [('A', 'Z')]
  | .word => charRanges [('0', '9'), ('A', 'Z'), ('_', '_'), ('a', 'z')]
  | .xdigit => charRanges [('0', '9'), ('A', 'F'), ('a', 'f')]

/-- The characters of `\d`, `\s` and `\w`. -/
def LetterClass.chars (unicode : Bool) : LetterClass → CharSet
  | .digit => if unicode then Unicode.digits else AsciiClass.digit.chars
  | .space => if unicode then Unicode.spaces else AsciiClass.space.chars
  | .word => if unicode then Unicode.words else AsciiClass.word.chars

/-- The characters that a property asks for, if it is known. -/
def PropertyQuery.chars? : PropertyQuery → Option CharSet
  | .named name => Unicode.namedClass name
  | .valued property value => Unicode.valueClass property value

namespace Flags

/-- The set, closed under case if case is ignored. -/
def fold (flags : Flags) (s : CharSet) : CharSet :=
  if flags.ignoreCase then
    if flags.unicode then s.closeCase else s.closeAsciiCase
  else s

/-- The set, if it has a meaning: where Unicode is off it must stay within ASCII. -/
def allowed? (flags : Flags) (s : CharSet) : Option CharSet :=
  if flags.unicode || s.isAscii then some s else none

/-- Closes a set under case, then negates it if asked to. -/
def foldNegate (flags : Flags) (negated : Bool) (s : CharSet) : Option CharSet :=
  flags.allowed? ((flags.fold s).complIf negated)

/-- The characters of `\d`, `\s`, `\w` and their negations. -/
def letterClass (flags : Flags) (negated : Bool) (cls : LetterClass) : Option CharSet :=
  flags.allowed? ((cls.chars flags.unicode).complIf negated)

/-- The characters of a property, which needs Unicode. -/
def property (flags : Flags) (negated : Bool) (query : PropertyQuery) : Option CharSet := do
  if flags.unicode then flags.foldNegate negated (← query.chars?) else none

/-- The character of a literal; a byte beyond ASCII is no character. -/
def char (flags : Flags) (lit : Literal) : Option Char :=
  if flags.unicode || !lit.byteEscape || lit.char.toNat < 0x80 then some lit.char else none

/-- The character of a literal inside a class, where it must be ASCII if Unicode is off. -/
def classChar (flags : Flags) (lit : Literal) : Option Char :=
  if flags.unicode || lit.char.toNat < 0x80 then some lit.char else none

end Flags

/-- Applies an operator of classes. -/
def SetOp.apply : SetOp → CharSet → CharSet → CharSet
  | .inter => CharSet.inter
  | .diff => CharSet.diff
  | .symmDiff => CharSet.symmDiff

mutual

/-- The characters of a class item. -/
def ClassItem.chars? (flags : Flags) : ClassItem → Option CharSet
  | .literal lit => (flags.classChar lit).map CharSet.single
  | .range first last => do
    return .range (← flags.classChar first).toNat (← flags.classChar last).toNat
  | .ascii negated cls => flags.foldNegate negated cls.chars
  | .letter negated cls => flags.letterClass negated cls
  | .property negated query => flags.property negated query
  | .bracket negated set => do flags.foldNegate negated (← set.chars? flags)

/-- The characters of all items of a list. -/
def ClassItem.allChars? (flags : Flags) : List ClassItem → Option (List CharSet)
  | [] => some []
  | item :: rest => do return (← item.chars? flags) :: (← ClassItem.allChars? flags rest)

/-- The characters of what stands between brackets. -/
def ClassSet.chars? (flags : Flags) : ClassSet → Option CharSet
  | .items items => do return .unions (← ClassItem.allChars? flags items)
  | .op op left right => do
    let left ← left.chars? flags
    let right ← right.chars? flags
    return op.apply (flags.fold left) (flags.fold right)

end

/-! ## Expressions -/

/-- The test that an assertion stands for. -/
def Assertion.look (flags : Flags) : Assertion → Look
  | .lineStart =>
    if flags.multiLine then (if flags.crlf then .crlfLineStart else .lineStart) else .textStart
  | .lineEnd =>
    if flags.multiLine then (if flags.crlf then .crlfLineEnd else .lineEnd) else .textEnd
  | .textStart => .textStart
  | .textEnd => .textEnd
  | .boundary => .boundary flags.words
  | .noBoundary => .noBoundary flags.words
  | .wordStart => .wordStart flags.words
  | .wordEnd => .wordEnd flags.words
  | .wordStartHalf => .wordStartHalf flags.words
  | .wordEndHalf => .wordEndHalf flags.words

/-- The characters that the dot takes; it needs Unicode. -/
def Flags.dotChars? (flags : Flags) : Option CharSet :=
  if !flags.unicode then none
  else if flags.dotAll then some .all
  else if flags.crlf then some (charRanges [('\n', '\n'), ('\r', '\r')]).compl
  else some (CharSet.single '\n').compl

mutual

/-- The pattern that an expression means under given flags, and the flags in force after it. -/
def Expr.meaning? (flags : Flags) : Expr → Option (Pattern × Flags)
  | .empty => some (.empty, flags)
  | .flags change => some (.empty, flags.apply change)
  | .literal lit => do return (.chars (flags.fold (.single (← flags.char lit))), flags)
  | .dot => do return (.chars (← flags.dotChars?), flags)
  | .assertion test => some (.look (test.look flags), flags)
  | .letter negated cls => do return (.chars (← flags.letterClass negated cls), flags)
  | .property negated query => do return (.chars (← flags.property negated query), flags)
  | .bracket negated set => do
    return (.chars (← flags.foldNegate negated (← set.chars? flags)), flags)
  | .repeated min max body => do
    let (p, flags) ← body.meaning? flags
    return (.repeated min max p, flags)
  | .group captures change body => do
    let (p, _) ← body.meaning? (flags.apply change)
    return (if captures then .capture p else p, flags)
  | .alternatives branches => do
    let (ps, flags) ← Expr.meanings? flags branches
    return (Pattern.alternatives ps, flags)
  | .sequence items => do
    let (ps, flags) ← Expr.meanings? flags items
    return (Pattern.sequence ps, flags)

/-- The meanings of expressions that follow each other: flags switched in one are in force in
the next. -/
def Expr.meanings? (flags : Flags) : List Expr → Option (List Pattern × Flags)
  | [] => some ([], flags)
  | e :: rest => do
    let (p, flags) ← e.meaning? flags
    let (ps, flags) ← Expr.meanings? flags rest
    return (p :: ps, flags)

end

end AccessPolicy.Pattern
