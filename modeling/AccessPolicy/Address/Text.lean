import AccessPolicy.Address.Basic
import AccessPolicy.Text.Hex

/-!
# Addresses as text

Reads and writes addresses. An octet is written without leading zeros. In an IPv6 address one run
of zero groups may be left out, and the last two groups may be written as an IPv4 address; the
written form leaves out the longest run of two groups or more, the first one of several.
-/

namespace AccessPolicy.Address

/-! ## Reading -/

/-- The value of a digit to base ten or sixteen. -/
def digit? (base : Nat) (c : Char) : Option Nat :=
  (Text.hexDigit? c).filter (· < base)

/-- All digits at the start of a text, as a number with the count of digits. -/
def readDigits (base : Nat) (text : List Char) : (Nat × Nat) × List Char :=
  go 0 0 text
where
  go (n count : Nat) : List Char → (Nat × Nat) × List Char
    | [] => ((n, count), [])
    | c :: rest => match digit? base c with
      | some d => go (n * base + d) (count + 1) rest
      | none => ((n, count), c :: rest)

/-- An octet in decimal digits: up to three, no leading zero. -/
def readOctet (text : List Char) : Option (UInt8 × List Char) :=
  let ((n, count), rest) := readDigits 10 text
  if count = 0 || 3 < count || 255 < n || (1 < count && text.head? = some '0') then none
  else some (n.toUInt8, rest)

/-- A group in up to four hexadecimal digits. -/
def readGroup (text : List Char) : Option (UInt16 × List Char) :=
  let ((n, count), rest) := readDigits 16 text
  if count = 0 || 4 < count then none else some (n.toUInt16, rest)

/-- An octet and the dot before it. -/
def readNextOctet : List Char → Option (UInt8 × List Char)
  | '.' :: rest => readOctet rest
  | _ => none

/-- Four octets, as they stand in an IPv4 address. -/
def readV4 (text : List Char) : Option ((UInt8 × UInt8 × UInt8 × UInt8) × List Char) := do
  let (a, rest) ← readOctet text
  let (b, rest) ← readNextOctet rest
  let (c, rest) ← readNextOctet rest
  let (d, rest) ← readNextOctet rest
  return ((a, b, c, d), rest)

/-- The group that two octets form. -/
def groupOf (high low : UInt8) : UInt16 :=
  high.toUInt16 <<< 8 ||| low.toUInt16

/-- As many groups as there are, up to a count, with colons between them; `first` says that no
colon precedes. An IPv4 address in the place of two groups ends the list, which the answer tells. -/
def readGroups : Nat → Bool → List Char → (List UInt16 × Bool) × List Char
  | 0, _, text => (([], false), text)
  | left + 1, first, text =>
    let body := if first then some text else match text with
      | ':' :: rest => some rest
      | _ => none
    match body with
    | none => (([], false), text)
    | some body =>
      match if 0 < left then readV4 body else none with
      | some ((a, b, c, d), rest) => (([groupOf a b, groupOf c d], true), rest)
      | none => match readGroup body with
        | some (group, rest) =>
          let ((groups, embedded), rest) := readGroups left false rest
          ((group :: groups, embedded), rest)
        | none => (([], false), text)

/-- The address of eight groups. -/
def ofGroups? : List UInt16 → Option Address
  | [a, b, c, d, e, f, g, h] => some (.v6 a b c d e f g h)
  | _ => none

/-- An IPv6 address. The two colons of the run left out stand for at least one group. -/
def readV6 (text : List Char) : Option (Address × List Char) :=
  let ((head, embedded), rest) := readGroups 8 true text
  if head.length = 8 then (ofGroups? head).map (·, rest)
  else if embedded then none
  else match rest with
    | ':' :: ':' :: rest =>
      let ((tail, _), rest) := readGroups (7 - head.length) true rest
      let zeros := List.replicate (8 - head.length - tail.length) 0
      (ofGroups? (head ++ zeros ++ tail)).map (·, rest)
    | _ => none

/-- The address that a whole text spells. -/
def ofLiteral? (text : List Char) : Option Address :=
  match readV4 text with
  | some ((a, b, c, d), []) => some (.v4 a b c d)
  | some (_, _ :: _) => none
  | none => match readV6 text with
    | some (address, []) => some address
    | _ => none

/-- Takes one pair of brackets off a text. -/
def stripBrackets (text : List Char) : List Char :=
  match text with
  | '[' :: rest => if rest.getLast? = some ']' then rest.dropLast else text
  | _ => text

/-- The address that a text spells, brackets around it allowed, in canonical form. -/
def ofText? (text : String) : Option Address :=
  (ofLiteral? (stripBrackets text.toList)).map canonical

/-! ## Writing -/

/-- Groups in hexadecimal digits with colons between them. -/
def groupsText (groups : List UInt16) : String :=
  ":".intercalate (groups.map fun group => String.ofList (Nat.toDigits 16 group.toNat))

/-- The start and the length of the longest run of zero groups, the first one of several. -/
def longestZeros (groups : List UInt16) : Nat × Nat :=
  go 0 (0, 0) groups
where
  /-- `i` is the index of the next group and `best` the longest run before it. -/
  go (i : Nat) (best : Nat × Nat) : List UInt16 → Nat × Nat
    | [] => best
    | group :: rest =>
      let run := ((group :: rest).takeWhile (· == 0)).length
      go (i + 1) (if best.2 < run then (i, run) else best) rest

/-- The text of an address in canonical form. -/
def text : Address → String
  | .v4 a b c d => ".".intercalate ([a, b, c, d].map fun octet => toString octet.toNat)
  | .v6 a b c d e f g h =>
    let groups := [a, b, c, d, e, f, g, h]
    let (start, length) := longestZeros groups
    if 1 < length then
      groupsText (groups.take start) ++ "::" ++ groupsText (groups.drop (start + length))
    else
      groupsText groups

end AccessPolicy.Address
