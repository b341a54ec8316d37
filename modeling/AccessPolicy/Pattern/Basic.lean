import AccessPolicy.Unicode.CharSet

/-!
# Patterns

A pattern with all its flags resolved: sets of characters, tests of a position, and the ways to
combine them.
-/

namespace AccessPolicy

namespace Pattern

/-- Which characters make up words. -/
inductive WordKind where
  /-- Word characters of every script. -/
  | unicode
  /-- ASCII letters and digits, and the low line. -/
  | ascii
deriving DecidableEq, Repr

/-- Tests of a position, by the characters on its two sides. -/
inductive Look where
  | textStart
  | textEnd
  | lineStart
  | lineEnd
  /-- A line starts after a line feed, or after a carriage return that no line feed follows. -/
  | crlfLineStart
  /-- A line ends before a carriage return, or before a line feed that follows none. -/
  | crlfLineEnd
  | boundary (words : WordKind)
  | noBoundary (words : WordKind)
  | wordStart (words : WordKind)
  | wordEnd (words : WordKind)
  | wordStartHalf (words : WordKind)
  | wordEndHalf (words : WordKind)
deriving DecidableEq, Repr

end Pattern

/-- A pattern. -/
inductive Pattern where
  /-- Matches the empty text. -/
  | empty
  /-- Matches one character of a set. -/
  | chars (set : CharSet)
  /-- Matches the empty text at the positions that pass a test. -/
  | look (test : Pattern.Look)
  | seq (first second : Pattern)
  | alt (first second : Pattern)
  /-- At least `min` copies and, unless `max` is absent, at most `max`. -/
  | repeated (min : Nat) (max : Option Nat) (body : Pattern)
  /-- A capturing group. -/
  | capture (body : Pattern)
deriving DecidableEq, Repr

namespace Pattern

/-- Patterns one after the other. -/
def sequence : List Pattern → Pattern
  | [] => .empty
  | [p] => p
  | p :: rest => .seq p (sequence rest)

/-- Patterns of which any may match. -/
def alternatives : List Pattern → Pattern
  | [] => .chars .empty
  | [p] => p
  | p :: rest => .alt p (alternatives rest)

end Pattern

end AccessPolicy
