import AccessPolicy.Json.Number
import AccessPolicy.Text.Hex

/-!
# Tokens of JSON

Cuts a text into tokens. A text may go wrong anywhere; the tokens before that place are still
there, with a fault behind them.
-/

namespace AccessPolicy.Json

/-- A token. A string holds no text if its escapes name half a surrogate pair. -/
inductive Token where
  | openObject
  | closeObject
  | openArray
  | closeArray
  | comma
  | colon
  | null
  | bool (b : Bool)
  | number (n : Number)
  | string (s : Option String)
  /-- No token starts here. -/
  | fault
deriving DecidableEq, Repr

/-! ## Strings -/

/-- A part of a string: a character, or a unit of sixteen bits by its number. -/
inductive StringPart where
  | char (c : Char)
  | unit (n : Nat)
deriving DecidableEq, Repr

/-- The characters of a string. Units of surrogates must come in pairs. -/
def joinParts : List StringPart → Option (List Char)
  | [] => some []
  | .char c :: rest => (joinParts rest).map (c :: ·)
  | .unit high :: .unit low :: rest =>
    if 0xD800 ≤ high ∧ high < 0xDC00 ∧ 0xDC00 ≤ low ∧ low < 0xE000 then
      (joinParts rest).map (Char.ofNat (0x10000 + (high - 0xD800) * 0x400 + (low - 0xDC00)) :: ·)
    else if 0xD800 ≤ high ∧ high < 0xE000 then none
    else (joinParts (.unit low :: rest)).map (Char.ofNat high :: ·)
  | .unit n :: rest =>
    if 0xD800 ≤ n ∧ n < 0xE000 then none else (joinParts rest).map (Char.ofNat n :: ·)

/-- The character of an escape of one letter. -/
def shortEscape? : Char → Option Char
  | '"' => some '"'
  | '\\' => some '\\'
  | '/' => some '/'
  | 'b' => some '\x08'
  | 'f' => some '\x0c'
  | 'n' => some '\n'
  | 'r' => some '\r'
  | 't' => some '\t'
  | _ => none

/-- The rest of a string up to its closing quote, which control characters cannot precede. -/
def readString : List Char → Option (List StringPart × List Char)
  | [] => none
  | '"' :: rest => some ([], rest)
  | '\\' :: 'u' :: a :: b :: c :: d :: rest => do
    let n ← Text.hexValue? [a, b, c, d]
    let (parts, rest) ← readString rest
    return (.unit n :: parts, rest)
  | '\\' :: e :: rest => do
    let c ← shortEscape? e
    let (parts, rest) ← readString rest
    return (.char c :: parts, rest)
  | c :: rest =>
    if c.toNat < 0x20 ∨ c = '\\' then none
    else (readString rest).map fun (parts, rest) => (.char c :: parts, rest)

/-! ## Numbers -/

/-- The digits at the start of a text. -/
def takeDigits (text : List Char) : List Nat × List Char :=
  let digits := text.takeWhile Char.isDigit
  (digits.map fun c => c.toNat - '0'.toNat, text.drop digits.length)

/-- The part of a number behind its point, if it has one. -/
def readFraction : List Char → Option (List Nat × List Char)
  | '.' :: rest => match takeDigits rest with
    | ([], _) => none
    | result => some result
  | text => some ([], text)

/-- The exponent of a number, if it has one. -/
def readExponent : List Char → Option (Option (Bool × List Nat) × List Char)
  | [] => some (none, [])
  | c :: rest =>
    if c = 'e' ∨ c = 'E' then
      let (negative, rest) := match rest with
        | '+' :: rest => (false, rest)
        | '-' :: rest => (true, rest)
        | rest => (false, rest)
      match takeDigits rest with
      | ([], _) => none
      | (digits, rest) => some (some (negative, digits), rest)
    else some (none, c :: rest)

/-- A number without its sign. Only a lone zero may start with zero. -/
def readNumber (negative : Bool) (text : List Char) : Option (Token × List Char) := do
  let (whole, rest) := takeDigits text
  if whole.isEmpty || (whole.head? = some 0 && 1 < whole.length) then none
  let (fraction, rest) ← readFraction rest
  let (exponent, rest) ← readExponent rest
  return (.number ⟨negative, whole, fraction, exponent⟩, rest)

/-! ## Texts -/

/-- Whether a character may stand between tokens. -/
def isSpace (c : Char) : Bool :=
  c = ' ' || c = '\t' || c = '\n' || c = '\r'

/-- The token at the start of a text, which no space precedes. -/
def readToken : List Char → Option (Token × List Char)
  | '\x7b' :: rest => some (.openObject, rest)
  | '\x7d' :: rest => some (.closeObject, rest)
  | '[' :: rest => some (.openArray, rest)
  | ']' :: rest => some (.closeArray, rest)
  | ',' :: rest => some (.comma, rest)
  | ':' :: rest => some (.colon, rest)
  | 'n' :: 'u' :: 'l' :: 'l' :: rest => some (.null, rest)
  | 't' :: 'r' :: 'u' :: 'e' :: rest => some (.bool true, rest)
  | 'f' :: 'a' :: 'l' :: 's' :: 'e' :: rest => some (.bool false, rest)
  | '"' :: rest => (readString rest).map fun (parts, rest) =>
    (.string ((joinParts parts).map String.ofList), rest)
  | '-' :: rest => readNumber true rest
  | text => readNumber false text

/-- The tokens of a text, up to the first fault. -/
def tokensFrom : Nat → List Char → List Token
  | 0, _ => []
  | fuel + 1, text =>
    match text.dropWhile isSpace with
    | [] => []
    | c :: rest => match readToken (c :: rest) with
      | some (token, rest) => token :: tokensFrom fuel rest
      | none => [.fault]

/-- The tokens of a text. -/
def tokens (text : String) : List Token :=
  let chars := text.toList
  tokensFrom (chars.length + 1) chars

end AccessPolicy.Json
