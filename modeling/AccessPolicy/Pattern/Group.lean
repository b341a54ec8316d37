import AccessPolicy.Pattern.Escape

/-!
# Groups and repetitions

Reads what follows an opening parenthesis and what follows the brace of a counted repetition.
-/

namespace AccessPolicy.Pattern

/-- What an opening parenthesis begins. -/
inductive GroupStart where
  /-- A capturing group, with its name if it has one. -/
  | capture (name : Option (List Char))
  /-- `(?flags:` -/
  | scoped (change : FlagChange)
  /-- `(?flags)`, which is no group but switches flags up to the end of the enclosing one. -/
  | switch (change : FlagChange)

/-- The flag of a letter. -/
def Flag.ofChar? : Char → Option Flag
  | 'i' => some .ignoreCase
  | 'm' => some .multiLine
  | 's' => some .dotAll
  | 'U' => some .swapGreed
  | 'u' => some .unicode
  | 'R' => some .crlf
  | 'x' => some .verbose
  | _ => none

/-- The change that letters spell. Each flag may be named once, one hyphen may stand between the
flags switched on and those switched off, and some flag must follow the hyphen. -/
def FlagChange.ofText? (text : List Char) : Option FlagChange := do
  let on ← (text.takeWhile (· != '-')).mapM Flag.ofChar?
  let off ← match text.dropWhile (· != '-') with
    | [] => some []
    | [_] => none
    | _ :: letters => letters.mapM Flag.ofChar?
  if (on ++ off).Nodup then some ⟨on, off⟩ else none

/-- Whether a character may stand in the name of a group. -/
def isNameChar (first : Bool) (c : Char) : Bool :=
  c = '_' || Unicode.letters.contains c
    || (!first && (c = '.' || c = '[' || c = ']' || Unicode.numbers.contains c))

/-- The name of a group and the rest of the text, given what follows the angle bracket. -/
def readGroupName (text : List Char) : Option (List Char × List Char) :=
  let name := text.takeWhile (· != '>')
  match name, text.drop name.length with
  | c :: tail, _ :: rest =>
    if isNameChar true c && tail.all (isNameChar false) then some (name, rest) else none
  | _, _ => none

/-- Reads flags up to the colon or the parenthesis behind them, given the text after the question
mark. -/
def readFlags (text : List Char) : Option (GroupStart × List Char) :=
  let letters := text.takeWhile fun c => c != ':' && c != ')'
  match text.drop letters.length with
  | ':' :: rest => (FlagChange.ofText? letters).map fun change => (.scoped change, rest)
  | _ :: rest =>
    if letters.isEmpty then none
    else (FlagChange.ofText? letters).map fun change => (.switch change, rest)
  | [] => none

/-- Reads the start of a group, given the text after its parenthesis. Tests that look around are
refused. -/
def readGroupStart (verbose : Bool) (text : List Char) : Option (GroupStart × List Char) :=
  match skipBlank verbose text with
  | '?' :: '=' :: _ | '?' :: '!' :: _ | '?' :: '<' :: '=' :: _ | '?' :: '<' :: '!' :: _ => none
  | '?' :: 'P' :: '<' :: rest | '?' :: '<' :: rest =>
    (readGroupName rest).map fun (name, rest) => (.capture (some name), rest)
  | '?' :: rest => readFlags rest
  | rest => some (.capture none, rest)

/-- Drops the mark that asks for few copies. -/
def skipLazyMark : List Char → List Char
  | '?' :: rest => rest
  | text => text

/-- The upper bound of a counted repetition: what stands behind a comma, or the lower bound. -/
def readMax (verbose : Bool) (min : Nat) : List Char → Option (Option Nat × List Char)
  | ',' :: rest => match skipBlank verbose rest with
    | '\x7d' :: rest => some (none, '\x7d' :: rest)
    | rest => (readDecimal verbose rest).map fun (max, rest) => (some max, rest)
  | rest => some (some min, rest)

/-- Reads the bounds of a counted repetition, given the text after its opening brace. -/
def readBounds (verbose : Bool) (text : List Char) :
    Option ((Nat × Option Nat) × List Char) := do
  let (min, rest) ← readDecimal verbose (skipBlank verbose text)
  let (max, rest) ← readMax verbose min rest
  match rest with
  | '\x7d' :: rest =>
    if max.all (min ≤ ·) then some ((min, max), skipLazyMark (skipBlank verbose rest)) else none
  | _ => none

end AccessPolicy.Pattern
