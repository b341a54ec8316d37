/-!
# Places in a YAML text

Structure in YAML hangs on columns and lines, so a reader keeps them beside the rest of the text.
-/

namespace AccessPolicy

/-- A value of a YAML document. -/
inductive Yaml where
  /-- A text, and whether it was written without quotes. -/
  | scalar (plain : Bool) (text : String)
  | sequence (items : List Yaml)
  /-- Keys and values in the order of the text. -/
  | mapping (entries : List (Yaml × Yaml))

namespace Yaml

/-- What stands in the place of a missing value. -/
def empty : Yaml := .scalar true ""

/-- Spaces and tabs. -/
def isBlank (c : Char) : Bool := c = ' ' || c = '\t'

/-- Line feeds and the separators of lines and paragraphs. -/
def isBreak (c : Char) : Bool := c = '\n' || c = '\u2028' || c = '\u2029'

/-- Whether a text is at its end, at a blank or at a break. -/
def atSpace (text : List Char) : Bool :=
  text.head?.all fun c => isBlank c || isBreak c

/-- The rest of a text, with the line and the column where it starts and the count of characters
before it. -/
structure Place where
  rest : List Char
  line : Nat := 0
  column : Nat := 0
  offset : Nat := 0

namespace Place

/-- The place behind `n` characters of the same line, given the text there. -/
def past (p : Place) (n : Nat) (rest : List Char) : Place :=
  ⟨rest, p.line, p.column + n, p.offset + n⟩

/-- The place behind the next character. -/
def next (p : Place) : Place :=
  match p.rest with
  | [] => p
  | c :: rest =>
    if isBreak c then ⟨rest, p.line + 1, 0, p.offset + 1⟩ else p.past 1 rest

/-- Whether the text has come to its end. -/
def atEnd (p : Place) : Bool := p.rest.isEmpty

/-- Whether a line starts here that begins or ends a document. -/
def atMark (p : Place) : Bool :=
  p.column = 0 && (['-', '-', '-'].isPrefixOf p.rest || ['.', '.', '.'].isPrefixOf p.rest)
    && atSpace (p.rest.drop 3)

/-- Whether an item of a block sequence starts here. -/
def atItem (p : Place) : Bool :=
  match p.rest with
  | '-' :: rest => atSpace rest
  | _ => false

/-- Whether the colon behind a key in a block stands here. -/
def atColon (p : Place) : Bool :=
  match p.rest with
  | ':' :: rest => atSpace rest
  | _ => false

/-- Whether what lies between two places is short enough for a key: one line, and no more than
1024 characters. -/
def canBeKey (start stop : Place) : Bool :=
  start.line = stop.line && stop.offset ≤ start.offset + 1024

/-- Skips blanks, breaks and comments. Outside brackets a tab is no blank at the start of a line;
`tabs` says whether it is one at the start of the text. -/
def skip (inBrackets tabs : Bool) (p : Place) : Place :=
  go tabs false p.rest p.line p.column p.offset
where
  go (tabs comment : Bool) : List Char → Nat → Nat → Nat → Place
    | [], line, column, offset => ⟨[], line, column, offset⟩
    | c :: rest, line, column, offset =>
      if isBreak c then go inBrackets false rest (line + 1) 0 (offset + 1)
      else if comment || c = ' ' || (c = '\t' && tabs) then
        go tabs comment rest line (column + 1) (offset + 1)
      else if c = '#' then go tabs true rest line (column + 1) (offset + 1)
      else ⟨c :: rest, line, column, offset⟩

/-- What lies between two words of a scalar: the blanks before the first break, the breaks, whether
a tab stands in the first `low` columns of a line, and the place behind. -/
structure Gap where
  blanks : List Char
  breaks : List Char
  tabbed : Bool
  place : Place

/-- The gap that starts here, which may be empty. -/
def gap (low : Nat) (p : Place) : Gap :=
  go [] [] false p.rest p.line p.column p.offset
where
  go (blanks breaks : List Char) (tabbed : Bool) : List Char → Nat → Nat → Nat → Gap
    | [], line, column, offset => ⟨blanks.reverse, breaks.reverse, tabbed, ⟨[], line, column, offset⟩⟩
    | c :: rest, line, column, offset =>
      if isBreak c then go blanks (c :: breaks) tabbed rest (line + 1) 0 (offset + 1)
      else if isBlank c then
        if breaks.isEmpty then go (c :: blanks) breaks tabbed rest line (column + 1) (offset + 1)
        else go blanks breaks (tabbed || (c = '\t' && column < low)) rest line (column + 1) (offset + 1)
      else ⟨blanks.reverse, breaks.reverse, tabbed, ⟨c :: rest, line, column, offset⟩⟩

/-- What a gap adds to the text of a scalar: blanks as they are, one line feed as a space, and of
more breaks all but the first. -/
def Gap.text (gap : Gap) : List Char :=
  match gap.breaks with
  | [] => gap.blanks
  | ['\n'] => [' ']
  | '\n' :: breaks => breaks
  | breaks => breaks

end Place

end Yaml

end AccessPolicy
