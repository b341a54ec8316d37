import AccessPolicy.Text.Hex
import AccessPolicy.Yaml.Place

/-!
# YAML scalars

Texts without quotes, in single quotes and in double quotes. All three may go on over several
lines, which are folded into one.
-/

namespace AccessPolicy.Yaml

open Yaml.Place (Gap)

/-- The signs that end a plain scalar inside brackets. -/
def isFlowSign (c : Char) : Bool :=
  c = ',' || c = '[' || c = ']' || c = '\x7b' || c = '\x7d'

/-- Signs with a meaning of their own at the start of a scalar. -/
def isIndicator (c : Char) : Bool :=
  "-?:,[]\x7b\x7d#&*!|>'\"%@\x60".toList.contains c

/-- Whether a plain scalar can start a text. -/
def startsPlain (inBrackets : Bool) : List Char → Bool
  | [] => false
  | c :: rest =>
    if isBlank c || isBreak c then false
    else if c = '-' then !atSpace rest
    else if c = '?' || c = ':' then !inBrackets && !atSpace rest
    else !isIndicator c

/-- The longest word at the start of a text, up to a space or an end of the scalar. Inside brackets
a colon in front of another sign is refused. -/
def plainWord (inBrackets : Bool) : List Char → Option (List Char × List Char)
  | [] => some ([], [])
  | c :: rest =>
    if isBlank c || isBreak c || (c = ':' && atSpace rest) || (inBrackets && isFlowSign c) then
      some ([], c :: rest)
    else if inBrackets && c = ':' && rest.head?.any (fun d => isFlowSign d || d = '?') then none
    else (plainWord inBrackets rest).map fun (word, rest) => (c :: word, rest)

/-- The words of a plain scalar. Outside brackets it ends at a line that starts before column
`low`. -/
def plainWords (inBrackets : Bool) (low : Nat) : Nat → Place → Option (List Char × Place)
  | 0, p => some ([], p)
  | fuel + 1, p => do
    let (word, rest) ← plainWord inBrackets p.rest
    let stop := p.past word.length rest
    let gap := stop.gap low
    let q := gap.place
    if gap.tabbed then none
    else if q.atMark || q.rest.head? = some '#' || (stop.offset = q.offset)
        || (!inBrackets && !gap.breaks.isEmpty && q.column < low) then
      return (word, stop)
    else
      let (more, last) ← plainWords inBrackets low fuel q
      if more.isEmpty then return (word, stop) else return (word ++ gap.text ++ more, last)

/-- A plain scalar. -/
def readPlain (inBrackets : Bool) (low : Nat) (p : Place) : Option (Yaml × Place) := do
  let (text, q) ← plainWords inBrackets low (p.rest.length + 1) p
  return (.scalar true (String.ofList text), q)

/-! ## Quoted scalars -/

/-- The character of an escape of one letter. -/
def shortEscape? : Char → Option Char
  | '0' => some '\x00'
  | 'a' => some '\x07'
  | 'b' => some '\x08'
  | 't' | '\t' => some '\t'
  | 'n' => some '\n'
  | 'v' => some '\x0b'
  | 'f' => some '\x0c'
  | 'r' => some '\r'
  | 'e' => some '\x1b'
  | ' ' => some ' '
  | '"' => some '"'
  | '/' => some '/'
  | '\\' => some '\\'
  | 'N' => some '\u0085'
  | '_' => some '\u00a0'
  | 'L' => some '\u2028'
  | 'P' => some '\u2029'
  | _ => none

/-- The count of digits of an escape by number. -/
def escapeDigits? : Char → Option Nat
  | 'x' => some 2
  | 'u' => some 4
  | 'U' => some 8
  | _ => none

/-- The character of an escape and the place behind it, given the place behind its backslash. -/
def readEscape (p : Place) : Option (Char × Place) :=
  match p.rest with
  | [] => none
  | c :: rest => match escapeDigits? c with
    | some n => do
      let digits := rest.take n
      if digits.length < n then none
      let char ← Text.scalar? (← Text.hexValue? digits)
      return (char, p.past (n + 1) (rest.drop n))
    | none => (shortEscape? c).map (·, p.next)

/-- The text of a quoted scalar and the place behind it, given the place behind its first quote. A
backslash at the end of a line takes the break and the blanks of the next line away. -/
def readQuoted (double : Bool) : Nat → Place → Option (List Char × Place)
  | 0, _ => none
  | fuel + 1, p =>
    if p.atMark then none
    else match p.rest with
    | [] => none
    | c :: rest =>
      if c = '"' && double then some ([], p.next)
      else if c = '\'' && !double then
        if rest.head? = some '\'' then
          (readQuoted double fuel p.next.next).map fun (text, q) => ('\'' :: text, q)
        else some ([], p.next)
      else if c = '\\' && double then
        if rest.head?.any isBreak then
          let gap := p.next.gap 0
          (readQuoted double fuel gap.place).map fun (text, q) => (gap.breaks.drop 1 ++ text, q)
        else do
          let (char, q) ← readEscape p.next
          let (text, q) ← readQuoted double fuel q
          return (char :: text, q)
      else if isBlank c || isBreak c then
        let gap := p.gap 0
        (readQuoted double fuel gap.place).map fun (text, q) => (gap.text ++ text, q)
      else
        (readQuoted double fuel p.next).map fun (text, q) => (c :: text, q)

/-- A scalar, quoted or plain. -/
def readScalar (inBrackets : Bool) (low : Nat) (p : Place) : Option (Yaml × Place) :=
  let quoted (double : Bool) : Option (Yaml × Place) :=
    (readQuoted double (p.rest.length + 1) p.next).map fun (text, q) =>
      (.scalar false (String.ofList text), q)
  match p.rest with
  | '"' :: _ => quoted true
  | '\'' :: _ => quoted false
  | rest => if startsPlain inBrackets rest then readPlain inBrackets low p else none

end AccessPolicy.Yaml
