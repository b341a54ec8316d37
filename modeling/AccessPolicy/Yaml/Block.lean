import AccessPolicy.Yaml.Scalar

/-!
# YAML documents

Reads the documents of a text. Collections are written in brackets or laid out in a block, where
the column tells what belongs together. A key is found by looking ahead for its colon. Anchors,
tags, directives and block scalars are refused.
-/

namespace AccessPolicy.Yaml

/-! ## Collections in brackets -/

mutual

/-- A value inside brackets. No tab may stand in the first `low` columns of a line between the words
of a scalar. -/
def flowNode (low : Nat) : Nat → Place → Option (Yaml × Place)
  | 0, _ => none
  | fuel + 1, p =>
    if p.atMark then none
    else match p.rest with
    | '[' :: _ => flowItems low fuel [] p.next
    | '\x7b' :: _ => flowEntries low fuel [] p.next
    | _ => readScalar true low p

/-- The value behind a colon inside brackets, which may be missing. -/
def flowValue (low : Nat) : Nat → Place → Option (Yaml × Place)
  | 0, _ => none
  | fuel + 1, p =>
    let q := p.skip true true
    if q.rest.head?.any fun c => c = ',' || c = ']' || c = '\x7d' then some (.empty, q)
    else flowNode low fuel q

/-- The rest of a sequence; `items` lists the items so far, last one first. An item with a colon is
a mapping of one entry. -/
def flowItems (low : Nat) : Nat → List Yaml → Place → Option (Yaml × Place)
  | 0, _, _ => none
  | fuel + 1, items, p =>
    let p := p.skip true true
    match p.rest with
    | ']' :: _ => some (.sequence items.reverse, p.next)
    | _ => do
      let (item, q) ← flowNode low fuel p
      let colon := q.skip true true
      let (item, q) ← match colon.rest with
        | ':' :: _ =>
          if p.canBeKey colon then do
            let (value, r) ← flowValue low fuel colon.next
            pure (.mapping [(item, value)], r)
          else none
        | _ => pure (item, q)
      let q := q.skip true true
      match q.rest with
      | ',' :: _ => flowItems low fuel (item :: items) q.next
      | ']' :: _ => return (.sequence (item :: items).reverse, q.next)
      | _ => none

/-- The rest of a mapping; `entries` lists the entries so far, last one first. -/
def flowEntries (low : Nat) : Nat → List (Yaml × Yaml) → Place → Option (Yaml × Place)
  | 0, _, _ => none
  | fuel + 1, entries, p =>
    let p := p.skip true true
    match p.rest with
    | '\x7d' :: _ => some (.mapping entries.reverse, p.next)
    | _ => do
      let (key, q) ← flowNode low fuel p
      let colon := q.skip true true
      let (value, q) ← match colon.rest with
        | ':' :: _ => if p.canBeKey colon then flowValue low fuel colon.next else none
        | _ => pure (.empty, q)
      let q := q.skip true true
      match q.rest with
      | ',' :: _ => flowEntries low fuel ((key, value) :: entries) q.next
      | '\x7d' :: _ => return (.mapping ((key, value) :: entries).reverse, q.next)
      | _ => none

end

/-! ## Blocks -/

/-- A value that stands by itself: a scalar, or a collection in brackets. -/
def leaf (fuel low : Nat) (p : Place) : Option (Yaml × Place) :=
  match p.rest with
  | '[' :: _ | '\x7b' :: _ => flowNode low fuel p
  | _ => readScalar false low p

/-- How an outer block goes on behind one of its parts. -/
inductive Continuation where
  /-- The block is over. -/
  | over
  /-- Another part starts at a place. -/
  | more (p : Place)

/-- What follows a part of the block of a column: the next part at that column, or the end of the
block. Something further to the right, or on the same line, belongs nowhere. -/
def continueBlock (column : Nat) (p : Place) : Option Continuation :=
  let q := p.skip false true
  if q.atEnd || q.atMark then some .over
  else if q.line = p.line || column < q.column then none
  else if q.column = column then some (.more q)
  else some .over

mutual

/-- A value in a block, which may be missing. It starts at column `low` or further right, a sequence
also at `sequenceLow`. `fresh` says that a block may start on this line. -/
def blockNode : Nat → Nat → Nat → Bool → Place → Option (Yaml × Place)
  | 0, _, _, _, _ => none
  | fuel + 1, low, sequenceLow, fresh, start =>
    let p := start.skip false !fresh
    let fresh := fresh || start.line < p.line
    if p.atEnd || p.atMark then some (.empty, start)
    else if p.column < (if p.atItem then sequenceLow else low) then some (.empty, start)
    else if p.atItem then
      if fresh then blockItems fuel p.column [] p else none
    else do
      let (node, q) ← leaf fuel low p
      let colon := q.skip false true
      if colon.atColon && colon.line = q.line then
        if fresh && p.canBeKey colon then blockEntries fuel p.column [] p else none
      else
        return (node, q)

/-- The items of a sequence whose hyphens stand in a column, from one of the hyphens on. -/
def blockItems : Nat → Nat → List Yaml → Place → Option (Yaml × Place)
  | 0, _, _, _ => none
  | fuel + 1, column, items, p => do
    let (item, q) ← blockNode fuel (column + 1) (column + 1) true p.next
    let items := item :: items
    match ← continueBlock column q with
    | .more r =>
      if r.atItem then blockItems fuel column items r
      else return (.sequence items.reverse, q)
    | .over => return (.sequence items.reverse, q)

/-- The entries of a mapping whose keys stand in a column, from one of the keys on. -/
def blockEntries : Nat → Nat → List (Yaml × Yaml) → Place → Option (Yaml × Place)
  | 0, _, _, _ => none
  | fuel + 1, column, entries, p => do
    let (key, q) ← leaf fuel (column + 1) p
    let colon := q.skip false true
    if colon.atColon && p.canBeKey colon then
      let (value, q) ← blockNode fuel (column + 1) column false colon.next
      let entries := (key, value) :: entries
      match ← continueBlock column q with
      | .more r => blockEntries fuel column entries r
      | .over => return (.mapping entries.reverse, q)
    else
      none

end

/-! ## Documents -/

/-- The documents from a place on. A document starts with a mark, which the first one may lack;
`isFirst` says that it is next. -/
def documentsFrom : Nat → Bool → Place → Option (List Yaml)
  | 0, _, _ => none
  | fuel + 1, isFirst, start =>
    let p := start.skip false false
    let read (fresh : Bool) (from_ : Place) : Option (List Yaml) := do
      let (node, q) ← blockNode fuel 0 0 fresh from_
      let r := q.skip false true
      if r.atEnd || r.atMark then return node :: (← documentsFrom fuel false r) else none
    if p.atEnd then some (if isFirst then [.empty] else [])
    else if p.atMark then
      if p.rest.head? = some '-' then read false (p.past 3 (p.rest.drop 3))
      else documentsFrom fuel isFirst (p.past 3 (p.rest.drop 3))
    else if isFirst then read true start
    else none

/-- Whether a character may stand in a text. -/
def isAllowed (c : Char) : Bool :=
  c = '\t' || c = '\n' || c = '\r' || c = '\u0085' || (' ' ≤ c && c ≤ '~')
    || ('\u00a0' ≤ c && c ≤ '\ufffd') || 0x10000 ≤ c.toNat

/-- A text with every break written as a line feed, but for the separators of lines and
paragraphs. -/
def normalizeBreaks : List Char → List Char
  | [] => []
  | '\r' :: '\n' :: rest => '\n' :: normalizeBreaks rest
  | c :: rest => (if c = '\r' || c = '\u0085' then '\n' else c) :: normalizeBreaks rest

/-- The documents of a text. -/
def documents (text : String) : Option (List Yaml) :=
  let chars := match text.toList with
    | '\ufeff' :: rest => rest
    | chars => chars
  if chars.all isAllowed then
    documentsFrom (2 * chars.length + 4) true { rest := normalizeBreaks chars }
  else none

end AccessPolicy.Yaml
