import AccessPolicy.Pattern.Blank
import AccessPolicy.Pattern.Expr
import AccessPolicy.Text.Hex

/-!
# Escapes

Reads what follows a backslash. The readers answer `none` for a text that is no escape; else the
expression's smallest part and the text after it.
-/

namespace AccessPolicy.Pattern

open Text (hexDigit? hexValue? scalar?)

/-- The smallest parts of an expression. -/
inductive Atom where
  | literal (lit : Literal)
  | dot
  | assertion (test : Assertion)
  | letter (negated : Bool) (cls : LetterClass)
  | property (negated : Bool) (query : PropertyQuery)
deriving Repr

/-- The expression that consists of one atom. -/
def Atom.expr : Atom → Expr
  | .literal lit => .literal lit
  | .dot => .dot
  | .assertion test => .assertion test
  | .letter negated cls => .letter negated cls
  | .property negated query => .property negated query

/-- Characters with a meaning of their own somewhere in a pattern. -/
def isMeta (c : Char) : Bool :=
  "\\.+*?()|[]\x7b\x7d^$#&-~".toList.contains c

/-- Characters that a backslash turns into themselves: every ASCII sign but `<` and `>`. -/
def isEscapable (c : Char) : Bool :=
  isMeta c || (c.toNat < 0x80 && !c.isAlphanum && c != '<' && c != '>')

/-! ## Numbers -/

/-- A decimal number below `2 ^ 32`; white space around it is ignored in every mode. -/
def readDecimal (verbose : Bool) (text : List Char) : Option (Nat × List Char) := do
  let (digits, rest) := spanLoose verbose Char.isDigit (text.dropWhile isBlank)
  let (_, rest) := spanLoose verbose isBlank rest
  let n := digits.foldl (fun n c => n * 10 + (c.toNat - '0'.toNat)) 0
  if digits.isEmpty || 0xFFFFFFFF < n then none else some (n, rest)

/-! ## The escapes -/

/-- Exactly `count` hexadecimal digits, blanks after each skipped. -/
def readHexDigits (verbose : Bool) : Nat → Nat → List Char → Option (Nat × List Char)
  | 0, n, text => some (n, text)
  | _ + 1, _, [] => none
  | count + 1, n, c :: rest => do
    readHexDigits verbose count (n * 16 + (← hexDigit? c)) (skipBlank verbose rest)

/-- A character by its number: a fixed count of digits, or any count in braces. -/
def readHex (verbose : Bool) (count : Nat) (text : List Char) : Option (Atom × List Char) :=
  match skipBlank verbose text with
  | '\x7b' :: rest => do
    let (digits, rest) := spanLoose verbose (· != '\x7d') (skipBlank verbose rest)
    match rest with
    | '\x7d' :: rest =>
      if digits.isEmpty then none
      let c ← scalar? (← hexValue? digits)
      return (.literal ⟨c, false⟩, skipBlank verbose rest)
    | _ => none
  | text => do
    let (n, rest) ← readHexDigits verbose count 0 text
    return (.literal ⟨← scalar? n, count = 2⟩, rest)

/-- Splits a list at the first occurrence of a separator. -/
def splitAtFirst (sep : List Char) : List Char → Option (List Char × List Char)
  | [] => if sep.isEmpty then some ([], []) else none
  | c :: rest =>
    if sep.isPrefixOf (c :: rest) then some ([], (c :: rest).drop sep.length)
    else (splitAtFirst sep rest).map fun (before, after) => (c :: before, after)

/-- What the text in the braces of `\p{…}` asks for. -/
def PropertyQuery.ofText (text : List Char) : PropertyQuery :=
  match splitAtFirst ['!', '='] text <|> splitAtFirst [':'] text <|> splitAtFirst ['='] text with
  | some (property, value) => .valued property value
  | none => .named text

/-- A property: one letter, or a name in braces. -/
def readProperty (verbose negated : Bool) (text : List Char) : Option (Atom × List Char) :=
  match skipBlank verbose text with
  | [] => none
  | '\x7b' :: rest =>
    let (name, rest) := spanLoose verbose (· != '\x7d') (skipBlank verbose rest)
    match rest with
    | '\x7d' :: rest => some (.property negated (.ofText name), rest)
    | _ => none
  | '\\' :: _ => none
  | c :: rest => some (.property negated (.named [c]), skipBlank verbose rest)

/-- A word boundary, given what follows `\b`: braces that start with a letter or a hyphen name
one of its variants, all other text is left as it is. -/
def readBoundary (verbose : Bool) (text : List Char) : Option (Atom × List Char) :=
  let isNameChar (c : Char) : Bool := c.isAlpha || c = '-'
  match text with
  | '\x7b' :: rest =>
    match skipBlank verbose rest with
    | [] => none
    | c :: inner =>
      if isNameChar c then
        let (name, rest) := spanLoose verbose isNameChar (c :: inner)
        match rest with
        | '\x7d' :: rest =>
          match String.ofList name with
          | "start" => some (.assertion .wordStart, rest)
          | "end" => some (.assertion .wordEnd, rest)
          | "start-half" => some (.assertion .wordStartHalf, rest)
          | "end-half" => some (.assertion .wordEndHalf, rest)
          | _ => none
        | _ => none
      else
        some (.assertion .boundary, text)
  | _ => some (.assertion .boundary, text)

/-- Reads an escape, given the text after the backslash. References to groups and unknown letters
are refused. -/
def readEscape (verbose : Bool) : List Char → Option (Atom × List Char)
  | [] => none
  | 'x' :: rest => readHex verbose 2 rest
  | 'u' :: rest => readHex verbose 4 rest
  | 'U' :: rest => readHex verbose 8 rest
  | 'p' :: rest => readProperty verbose false rest
  | 'P' :: rest => readProperty verbose true rest
  | 'd' :: rest => some (.letter false .digit, rest)
  | 'D' :: rest => some (.letter true .digit, rest)
  | 's' :: rest => some (.letter false .space, rest)
  | 'S' :: rest => some (.letter true .space, rest)
  | 'w' :: rest => some (.letter false .word, rest)
  | 'W' :: rest => some (.letter true .word, rest)
  | 'a' :: rest => some (.literal ⟨'\x07', false⟩, rest)
  | 'f' :: rest => some (.literal ⟨'\x0c', false⟩, rest)
  | 't' :: rest => some (.literal ⟨'\t', false⟩, rest)
  | 'n' :: rest => some (.literal ⟨'\n', false⟩, rest)
  | 'r' :: rest => some (.literal ⟨'\r', false⟩, rest)
  | 'v' :: rest => some (.literal ⟨'\x0b', false⟩, rest)
  | 'A' :: rest => some (.assertion .textStart, rest)
  | 'z' :: rest => some (.assertion .textEnd, rest)
  | 'b' :: rest => readBoundary verbose rest
  | 'B' :: rest => some (.assertion .noBoundary, rest)
  | '<' :: rest => some (.assertion .wordStart, rest)
  | '>' :: rest => some (.assertion .wordEnd, rest)
  | c :: rest => if isEscapable c then some (.literal ⟨c, false⟩, rest) else none

end AccessPolicy.Pattern
