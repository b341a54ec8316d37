import AccessPolicy.Pattern.Basic
import AccessPolicy.Unicode.Property

/-!
# Searching a text

A text of `n` characters has the positions `0` to `n`. A set of positions is a number, with bit
`i` set for position `i`. Laying a pattern over a text gives a plan that takes the set of positions
where a match may begin to the set of positions where it may end; no match is ever tried twice, so
the work is bounded by the size of the pattern times the square of the length of the text.
-/

namespace AccessPolicy.Pattern

/-! ## Tests of a position -/

/-- Whether a character counts as part of a word. -/
def WordKind.has (words : WordKind) (c : Char) : Bool :=
  match words with
  | .unicode => Unicode.words.contains c
  | .ascii => c.isAlphanum || c = '_'

/-- Whether the position between two characters passes a test; a missing character is an end of
the text. -/
def Look.holds (before after : Option Char) : Look → Bool
  | .textStart => before.isNone
  | .textEnd => after.isNone
  | .lineStart => before.isNone || before = some '\n'
  | .lineEnd => after.isNone || after = some '\n'
  | .crlfLineStart =>
    before.isNone || before = some '\n' || (before = some '\r' && after != some '\n')
  | .crlfLineEnd =>
    after.isNone || after = some '\r' || (after = some '\n' && before != some '\r')
  | .boundary words => before.any words.has != after.any words.has
  | .noBoundary words => before.any words.has == after.any words.has
  | .wordStart words => !before.any words.has && after.any words.has
  | .wordEnd words => before.any words.has && !after.any words.has
  | .wordStartHalf words => !before.any words.has
  | .wordEndHalf words => !after.any words.has

/-! ## Sets of positions -/

/-- All positions of a text. -/
def allPositions : List Char → Nat
  | [] => 1
  | _ :: rest => 2 * allPositions rest + 1

/-- The positions in front of a character of the set. -/
def charPositions (set : CharSet) : List Char → Nat
  | [] => 0
  | c :: rest => 2 * charPositions set rest + (set.contains c).toNat

/-- The positions of the text after `before` that pass a test. -/
def lookPositions (test : Look) (before : Option Char) : List Char → Nat
  | [] => (test.holds before none).toNat
  | c :: rest =>
    2 * lookPositions test (some c) rest + (test.holds before (some c)).toNat

/-! ## Plans -/

/-- A pattern laid over a text. -/
inductive Plan where
  | keep
  /-- Steps over one character from the given positions. -/
  | eat (positions : Nat)
  /-- Goes on at the given positions only. -/
  | only (positions : Nat)
  | seq (first second : Plan)
  | alt (first second : Plan)
  /-- As many copies as `times` says, then up to `more` others. -/
  | repeated (times more : Nat) (body : Plan)

/-- Applies a function again and again, up to a count or until nothing changes. -/
def settle (f : Nat → Nat) : Nat → Nat → Nat
  | 0, s => s
  | k + 1, s =>
    let t := f s
    if t = s then s else settle f k t

/-- The positions where matches end that begin at given positions. -/
def Plan.run : Plan → Nat → Nat
  | .keep, s => s
  | .eat positions, s => (s &&& positions) <<< 1
  | .only positions, s => s &&& positions
  | .seq first second, s => second.run (first.run s)
  | .alt first second, s => first.run s ||| second.run s
  | .repeated times more body, s =>
    settle (fun s => s ||| body.run s) more (settle body.run times s)

/-- Lays a pattern over a text. Without an upper bound, as many further copies are tried as the
text has positions. -/
def plan (text : List Char) : Pattern → Plan
  | .empty => .keep
  | .chars set => .eat (charPositions set text)
  | .look test => .only (lookPositions test none text)
  | .seq first second => .seq (first.plan text) (second.plan text)
  | .alt first second => .alt (first.plan text) (second.plan text)
  | .repeated min max body =>
    .repeated min ((max.map (· - min)).getD (text.length + 1)) (body.plan text)
  | .capture body => body.plan text

/-- The positions where matches of the pattern end that begin at given positions. -/
def ends (p : Pattern) (text : List Char) (starts : Nat) : Nat :=
  (p.plan text).run starts

/-- Whether the pattern matches some part of a text. -/
def isMatch (p : Pattern) (text : List Char) : Bool :=
  p.ends text (allPositions text) != 0

/-- Whether the pattern matches a text from its first to its last character. -/
def isFullMatch (p : Pattern) (text : List Char) : Bool :=
  (p.ends text 1).testBit text.length

end AccessPolicy.Pattern
