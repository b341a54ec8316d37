import AccessPolicy.Pattern.Basic

/-!
# The size of a pattern

Patterns are matched byte by byte on UTF-8 text, and a pattern may only take so much memory as an
automaton over bytes. This module counts that memory without building the automaton: a state is
32 bytes, a byte transition of a branching state 8 and an alternative of a fork 4. Both the
automaton that reads forwards and the one that reads backwards have to fit.
-/

namespace AccessPolicy.Pattern

/-- The automata of a pattern. -/
inductive Direction where
  | forward
  | backward
deriving DecidableEq, Repr

/-- The bytes of a state. -/
def stateSize : Nat := 32

/-- The bytes of a fork with some alternatives. -/
def forkSize (alternatives : Nat) : Nat := stateSize + 4 * alternatives

/-- The bytes of a state with some byte transitions. -/
def branchSize (transitions : Nat) : Nat := stateSize + 8 * transitions

/-! ## Characters as bytes -/

/-- The UTF-8 bytes of a code point. -/
def utf8Bytes (n : Nat) : List Nat :=
  if n < 0x80 then [n]
  else if n < 0x800 then [0xC0 + n / 64, 0x80 + n % 64]
  else if n < 0x10000 then [0xE0 + n / 4096, 0x80 + n / 64 % 64, 0x80 + n % 64]
  else [0xF0 + n / 262144, 0x80 + n / 4096 % 64, 0x80 + n / 64 % 64, 0x80 + n % 64]

/-- One range of bytes for each byte of a character. -/
abbrev ByteRanges := List (Nat × Nat)

/-- Where to cut the code points from `lo` to `hi`, if their bytes do not vary independently: the
last point of the first part. -/
def cutAfter (lo hi : Nat) : Option Nat :=
  match [0x7F, 0x7FF, 0xFFFF].find? fun m => lo ≤ m && m < hi with
  | some m => some m
  | none =>
    if hi < 0x80 then none
    else [64, 4096, 262144].findSome? fun m =>
      if lo / m = hi / m then none
      else if lo % m ≠ 0 then some (lo / m * m + (m - 1))
      else if hi % m ≠ m - 1 then some (hi / m * m - 1)
      else none

/-- The code points from `lo` to `hi` as independent ranges of bytes, in ascending order. -/
def splitRange : Nat → Nat → Nat → List ByteRanges
  | 0, _, _ => []
  | fuel + 1, lo, hi =>
    match cutAfter lo hi with
    | some m => splitRange fuel lo m ++ splitRange fuel (m + 1) hi
    | none => [(utf8Bytes lo).zip (utf8Bytes hi)]

/-- The byte ranges of a set of characters; surrogates have no bytes. -/
def byteRanges (set : CharSet) : List ByteRanges :=
  set.ranges.flatMap fun (lo, hi) =>
    let below := if lo ≤ 0xD7FF then splitRange 32 lo (min hi 0xD7FF) else []
    let above := if 0xE000 ≤ hi then splitRange 32 (max lo 0xE000) hi else []
    below ++ above

/-! ## Automata of sets -/

/-- A state that reads a set: its transitions and the states they lead to, written out as numbers
so that equal states are equal lists. -/
abbrev StateCode := List Nat

/-- Reads off adjacent entries with one first range of bytes: that range and the entries' rests. -/
def groupByFirst : List ByteRanges → List ((Nat × Nat) × List ByteRanges)
  | [] => []
  | [] :: rest => groupByFirst rest
  | (first :: tail) :: rest =>
    match groupByFirst rest with
    | (first', tails) :: groups =>
      if first = first' then (first, tail :: tails) :: groups
      else (first, [tail]) :: (first', tails) :: groups
    | [] => [(first, [tail])]

/-- The code of the state that reads given byte ranges, and the codes of all states from there on,
with the count of transitions of each. No character has more bytes than the first argument. -/
def stateCodes : Nat → List ByteRanges → StateCode × List (StateCode × Nat)
  | 0, _ => ([], [])
  | bytes + 1, ranges =>
    match groupByFirst ranges with
    | [] => ([], [])
    | groups =>
      let inner := groups.map fun ((lo, hi), tails) =>
        let (code, states) := stateCodes bytes tails
        (lo :: hi :: code.length :: code, states)
      let code := inner.flatMap Prod.fst
      (code, (code, groups.length) :: inner.flatMap Prod.snd)

/-- Dictionary order of codes. -/
def codeLe : StateCode → StateCode → Bool
  | [], _ => true
  | _ :: _, [] => false
  | m :: ms, n :: ns => m < n || (m = n && codeLe ms ns)

/-- Drops neighbours that are equal. -/
def dropRepeats : List (StateCode × Nat) → List (StateCode × Nat)
  | a :: b :: rest => if a = b then dropRepeats (b :: rest) else a :: dropRepeats (b :: rest)
  | states => states

/-- The bytes of the states that read one character of a set. Forwards, equal states are shared;
backwards, equal beginnings of the byte sequences are. -/
def charsSize (direction : Direction) (set : CharSet) : Nat :=
  match set.ranges with
  | [(lo, hi)] =>
    if lo = hi then stateSize * (utf8Bytes lo).length
    else if hi < 0x80 then branchSize 1 + stateSize
    else wide
  | _ => if set.isAscii then branchSize set.ranges.length + stateSize else wide
where
  wide : Nat :=
    let ranges := byteRanges set
    match direction with
    | .forward =>
      let states := (stateCodes 4 ranges).2.mergeSort fun a b => codeLe a.1 b.1
      stateSize + ((dropRepeats states).map fun state => branchSize state.2).foldr (· + ·) 0
    | .backward =>
      let rec starts (fuel : Nat) (ranges : List ByteRanges) : Nat :=
        match fuel with
        | 0 => 0
        | fuel + 1 =>
          let groups := groupByFirst ranges
          groups.length + (groups.map fun group => starts fuel group.2).foldr (· + ·) 0
      stateSize + forkSize ranges.length + stateSize * starts 4 ranges

/-! ## Automata of patterns -/

/-- Whether a pattern can only match the empty text. -/
def isWidthless : Pattern → Bool
  | .empty => true
  | .chars _ => false
  | .look _ => true
  | .seq first second => first.isWidthless && second.isWidthless
  | .alt first second => first.isWidthless && second.isWidthless
  | .repeated _ max body => max = some 0 || body.isWidthless
  | .capture body => body.isWidthless

/-- Whether the length of what a pattern matches can be zero. -/
def canBeEmpty : Pattern → Bool
  | .empty => true
  | .chars _ => false
  | .look _ => true
  | .seq first second => first.canBeEmpty && second.canBeEmpty
  | .alt first second => first.canBeEmpty || second.canBeEmpty
  | .repeated min _ body => min = 0 || body.canBeEmpty
  | .capture body => body.canBeEmpty

/-- The bytes of a repetition whose body takes `size` bytes. -/
def repeatedSize (size : Nat) (bodyEmpty : Bool) : Nat → Option Nat → Nat
  | 0, none => if bodyEmpty then size + 2 * forkSize 2 + stateSize else size + forkSize 2
  | min + 1, none => (min + 1) * size + forkSize 2
  | min, some max =>
    if max ≤ min then (if min = 0 then stateSize else min * size)
    else min * size + (max - min) * (size + forkSize 2) + stateSize

/-- The bytes of the automaton of a pattern. -/
def size (direction : Direction) : Pattern → Nat
  | .empty => stateSize
  | .chars set => charsSize direction set
  | .look _ => stateSize
  | .seq first second => first.size direction + second.size direction
  | .alt first (.alt second third) =>
    first.size direction + 4 + (Pattern.alt second third).size direction
  | .alt first second =>
    first.size direction + second.size direction + forkSize 2 + stateSize
  | .repeated min max body =>
    if max = some 0 then stateSize
    else if body.isWidthless then
      repeatedSize (body.size direction) true (Nat.min min 1) (some ((max.getD 1).min 1))
    else repeatedSize (body.size direction) body.canBeEmpty min max
  | .capture body =>
    body.size direction + (match direction with | .forward => 2 * stateSize | .backward => 0)

/-- The memory that an automaton may take. -/
def sizeLimit : Nat := 10 * 1024 * 1024

/-- What surrounds the automaton of every pattern: the loop that skips to where a match begins,
the marks of the whole match, and its end. -/
def frameSize : Nat := 6 * stateSize + forkSize 2

/-- Whether both automata of a pattern fit. -/
def fits (p : Pattern) : Bool :=
  frameSize + p.size .forward ≤ sizeLimit && frameSize + p.size .backward ≤ sizeLimit

end AccessPolicy.Pattern
