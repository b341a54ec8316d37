import AccessPolicy.Json.Basic

/-!
# The grammar of JSON

Which texts spell a value, as a grammar with a rule for each way of writing: every character of a
string may be escaped or not, and space may stand between any two tokens. The grammar says nothing
of reading. Reading inverts it: a text that spells a value is read as this value, and as complete.

The proof goes over the derivation of a text, with whatever stands behind the text as a parameter.
What is spelled first is cut into tokens that arrange into its value, and the rest is left for what
is open around the value.

Main results:

* `readString_of_spelled`, `readNumber_of_spelled` — strings and numbers are read to their end;
* `readsBack_of_spells` — so is every value, wherever it stands;
* `ofText_of_spelledBy` — a text that spells a value is read as the value.
-/

namespace AccessPolicy.Json

/-! ## Strings -/

/-- The letters that escape a character, with the characters. -/
def shortEscapes : List (Char × Char) :=
  [('"', '"'), ('\\', '\\'), ('/', '/'), ('b', '\x08'), ('f', '\x0c'), ('n', '\n'), ('r', '\r'),
    ('t', '\t')]

/-- The ways to write a character inside a string. -/
inductive CharSpelled (c : Char) : List Char → Prop where
  | plain (not_control : 0x20 ≤ c.toNat) (not_quote : c ≠ '"') (not_backslash : c ≠ '\\') :
    CharSpelled c [c]
  | short {letter : Char} (h : (letter, c) ∈ shortEscapes) : CharSpelled c ['\\', letter]
  /-- A code point of sixteen bits by four hexadecimal digits. -/
  | unit {x₁ x₂ x₃ x₄ : Char} (h : Text.hexValue? [x₁, x₂, x₃, x₄] = some c.toNat) :
    CharSpelled c ['\\', 'u', x₁, x₂, x₃, x₄]
  /-- A larger code point by a pair of surrogates, each of which holds ten bits of it. -/
  | pair {x₁ x₂ x₃ x₄ y₁ y₂ y₃ y₄ : Char} {high low : Nat} (high_lt : high < 0x400)
    (low_lt : low < 0x400) (hhigh : Text.hexValue? [x₁, x₂, x₃, x₄] = some (0xD800 + high))
    (hlow : Text.hexValue? [y₁, y₂, y₃, y₄] = some (0xDC00 + low))
    (h : c.toNat = 0x10000 + high * 0x400 + low) :
    CharSpelled c ['\\', 'u', x₁, x₂, x₃, x₄, '\\', 'u', y₁, y₂, y₃, y₄]

/-- The ways to write some characters inside a string. -/
inductive CharsSpelled : List Char → List Char → Prop where
  | nil : CharsSpelled [] []
  | cons {c : Char} {cs text rest : List Char} (hc : CharSpelled c text)
    (hcs : CharsSpelled cs rest) : CharsSpelled (c :: cs) (text ++ rest)

/-! ## Numbers -/

/-- A text of digits, of which there is at least one. -/
structure DigitsSpelled (digits : List Nat) (text : List Char) : Prop where
  ne_nil : text ≠ []
  isDigit : ∀ c ∈ text, c.isDigit
  digits_eq : digits = text.map fun c => c.toNat - '0'.toNat

/-- What may stand behind the point of a number, and the point. -/
inductive FractionSpelled : List Nat → List Char → Prop where
  | none : FractionSpelled [] []
  | some {digits : List Nat} {text : List Char} (h : DigitsSpelled digits text) :
    FractionSpelled digits ('.' :: text)

/-- The signs of an exponent. -/
inductive SignSpelled : Bool → List Char → Prop where
  | none : SignSpelled false []
  | plus : SignSpelled false ['+']
  | minus : SignSpelled true ['-']

/-- The exponents that a number may have, also none. -/
inductive ExponentSpelled : Option (Bool × List Nat) → List Char → Prop where
  | none : ExponentSpelled none []
  | some {mark : Char} {negative : Bool} {sign text : List Char} {digits : List Nat}
    (hmark : mark = 'e' ∨ mark = 'E') (hsign : SignSpelled negative sign)
    (hdigits : DigitsSpelled digits text) :
    ExponentSpelled (some (negative, digits)) (mark :: sign ++ text)

/-- A number by its parts. Only a lone zero starts with zero. -/
inductive NumberSpelled : Number → List Char → Prop where
  | mk {negative : Bool} {whole fraction : List Nat} {exponent : Option (Bool × List Nat)}
    {w f e : List Char} (hwhole : DigitsSpelled whole w)
    (hzero : whole.head? = some 0 → whole.length = 1) (hfraction : FractionSpelled fraction f)
    (hexponent : ExponentSpelled exponent e) :
    NumberSpelled ⟨negative, whole, fraction, exponent⟩
      ((if negative then ['-'] else []) ++ w ++ f ++ e)

/-! ## Values -/

/-- A text of space only. -/
def Blank (text : List Char) : Prop :=
  ∀ c ∈ text, isSpace c

/-- A text with space around it. -/
inductive Around (inner : List Char) : List Char → Prop where
  | mk {before after : List Char} (hbefore : Blank before) (hafter : Blank after) :
    Around inner (before ++ inner ++ after)

/-- The texts of a string. -/
inductive StringSpelled : String → List Char → Prop where
  | mk {cs text : List Char} (h : CharsSpelled cs text) :
    StringSpelled (String.ofList cs) ('"' :: text ++ ['"'])

mutual

/-- The texts of a value, without space around them. -/
inductive Spells : Json → List Char → Prop where
  | null : Spells .null ['n', 'u', 'l', 'l']
  | true : Spells (.bool true) ['t', 'r', 'u', 'e']
  | false : Spells (.bool false) ['f', 'a', 'l', 's', 'e']
  | number {n : Number} {text : List Char} (h : NumberSpelled n text) : Spells (.number n) text
  | string {s : String} {text : List Char} (h : StringSpelled s text) :
    Spells (.string (some s)) text
  | emptyArray {gap : List Char} (h : Blank gap) : Spells (.array []) ('[' :: gap ++ [']'])
  | array {items : List Json} {text : List Char} (h : SpellsItems items text) :
    Spells (.array items) ('[' :: text ++ [']'])
  | emptyObject {gap : List Char} (h : Blank gap) :
    Spells (.object []) ('\x7b' :: gap ++ ['\x7d'])
  | object {entries : List (Json × Json)} {text : List Char} (h : SpellsEntries entries text) :
    Spells (.object entries) ('\x7b' :: text ++ ['\x7d'])

/-- The texts of one or more items of an array, divided by commas. -/
inductive SpellsItems : List Json → List Char → Prop where
  | one {item : Json} {inner text : List Char} (hitem : Spells item inner)
    (hspace : Around inner text) : SpellsItems [item] text
  | more {item : Json} {items : List Json} {inner text rest : List Char}
    (hitem : Spells item inner) (hspace : Around inner text) (hrest : SpellsItems items rest) :
    SpellsItems (item :: items) (text ++ ',' :: rest)

/-- The texts of an entry of an object. -/
inductive SpellsEntry : Json × Json → List Char → Prop where
  | mk {name : String} {value : Json} {key keyText inner text : List Char}
    (hname : StringSpelled name key) (hspace : Around key keyText) (hvalue : Spells value inner)
    (hspace' : Around inner text) :
    SpellsEntry (.string (some name), value) (keyText ++ ':' :: text)

/-- The texts of one or more entries of an object, divided by commas. -/
inductive SpellsEntries : List (Json × Json) → List Char → Prop where
  | one {entry : Json × Json} {text : List Char} (hentry : SpellsEntry entry text) :
    SpellsEntries [entry] text
  | more {entry : Json × Json} {entries : List (Json × Json)} {text rest : List Char}
    (hentry : SpellsEntry entry text) (hrest : SpellsEntries entries rest) :
    SpellsEntries (entry :: entries) (text ++ ',' :: rest)

end

/-- A whole text that spells a value, with space around it or not. -/
def SpelledBy (json : Json) (text : String) : Prop :=
  ∃ inner, Spells json inner ∧ Around inner text.toList

/-! ## Plain spellings -/

/-- Whether a character needs no escape. -/
def isPlain (c : Char) : Bool :=
  0x20 ≤ c.toNat && c ≠ '"' && c ≠ '\\'

theorem charsSpelled_self {cs : List Char} (h : cs.all isPlain) : CharsSpelled cs cs := by
  induction cs with
  | nil => exact .nil
  | cons c rest ih =>
    rw [List.all_cons, Bool.and_eq_true] at h
    obtain ⟨hc, hrest⟩ := h
    simp only [isPlain, Bool.and_eq_true, decide_eq_true_eq] at hc
    obtain ⟨⟨not_control, not_quote⟩, not_backslash⟩ := hc
    exact .cons (.plain not_control not_quote not_backslash) (ih hrest)

/-- A string of characters that need no escape may be written as it is. -/
theorem stringSpelled_self {s : String} (h : s.toList.all isPlain) :
    StringSpelled s ('"' :: s.toList ++ ['"']) := by
  have hspelled := StringSpelled.mk (charsSpelled_self h)
  rwa [String.ofList_toList] at hspelled

theorem around_self (inner : List Char) : Around inner inner := by
  have haround : Around inner ([] ++ inner ++ []) := .mk (by simp [Blank]) (by simp [Blank])
  simpa using haround

theorem around_space (inner : List Char) : Around inner (' ' :: inner) := by
  have haround : Around inner ([' '] ++ inner ++ []) :=
    .mk (by simp [Blank, isSpace]) (by simp [Blank])
  simpa using haround

/-! ## Reading strings -/

theorem shortEscape?_of_mem {letter c : Char} (h : (letter, c) ∈ shortEscapes) :
    letter ≠ 'u' ∧ shortEscape? letter = some c := by
  have hall : ∀ p ∈ shortEscapes, p.1 ≠ 'u' ∧ shortEscape? p.1 = some p.2 := by decide
  exact hall _ h

/-- No character has the code point of a surrogate. -/
theorem not_surrogate (c : Char) : ¬ (0xD800 ≤ c.toNat ∧ c.toNat < 0xE000) := by
  have hvalid := c.valid
  simp only [UInt32.isValidChar, Nat.isValidChar] at hvalid
  simp only [Char.toNat]
  omega

theorem joinParts_unit (c : Char) (parts : List StringPart) :
    joinParts (.unit c.toNat :: parts) = (joinParts parts).map (c :: ·) := by
  have hc := not_surrogate c
  match parts with
  | [] | .char _ :: _ => simp only [joinParts, if_neg hc, Char.ofNat_toNat]
  | .unit low :: rest =>
    have hpair : ¬ (0xD800 ≤ c.toNat ∧ c.toNat < 0xDC00 ∧ 0xDC00 ≤ low ∧ low < 0xE000) := by omega
    simp only [joinParts, if_neg hc, if_neg hpair, Char.ofNat_toNat]

theorem joinParts_pair {c : Char} {high low : Nat} (high_lt : high < 0x400) (low_lt : low < 0x400)
    (h : c.toNat = 0x10000 + high * 0x400 + low) (parts : List StringPart) :
    joinParts (.unit (0xD800 + high) :: .unit (0xDC00 + low) :: parts) =
      (joinParts parts).map (c :: ·) := by
  have hpair : 0xD800 ≤ 0xD800 + high ∧ 0xD800 + high < 0xDC00 ∧ 0xDC00 ≤ 0xDC00 + low ∧
      0xDC00 + low < 0xE000 := by omega
  rw [joinParts, if_pos hpair, Nat.add_sub_cancel_left, Nat.add_sub_cancel_left, ← h,
    Char.ofNat_toNat]

/-- A string is read up to its closing quote, as parts that join to its characters. -/
theorem readString_of_spelled {cs text : List Char} (h : CharsSpelled cs text) :
    ∃ parts, joinParts parts = some cs ∧
      ∀ rest, readString (text ++ '"' :: rest) = some (parts, rest) := by
  induction h with
  | nil => exact ⟨[], rfl, fun rest => rfl⟩
  | @cons c cs text more hc _ ih =>
    obtain ⟨parts, hparts, hread⟩ := ih
    cases hc with
    | plain not_control not_quote not_backslash =>
      refine ⟨.char c :: parts, by simp [joinParts, hparts], fun rest => ?_⟩
      simp [readString, not_backslash, Nat.not_lt.mpr not_control, hread]
    | short hshort =>
      obtain ⟨hletter, hshort⟩ := shortEscape?_of_mem hshort
      refine ⟨.char c :: parts, by simp [joinParts, hparts], fun rest => ?_⟩
      simp [readString, hletter, hshort, hread]
    | unit hunit =>
      refine ⟨.unit c.toNat :: parts, by rw [joinParts_unit, hparts]; rfl, fun rest => ?_⟩
      simp [readString, hunit, hread]
    | @pair _ _ _ _ _ _ _ _ high low high_lt low_lt hhigh hlow hpair =>
      refine ⟨.unit (0xD800 + high) :: .unit (0xDC00 + low) :: parts, ?_, fun rest => ?_⟩
      · rw [joinParts_pair high_lt low_lt hpair, hparts]
        rfl
      · simp [readString, hhigh, hlow, hread]

/-! ## Reading numbers -/

/-- Whether a text goes on with something that is part of no number. -/
def Stops (text : List Char) : Prop :=
  ∀ c ∈ text.head?, c.isDigit = false ∧ c ≠ '.' ∧ c ≠ 'e' ∧ c ≠ 'E'

theorem DigitsSpelled.digits_ne_nil {digits : List Nat} {text : List Char}
    (h : DigitsSpelled digits text) : digits ≠ [] := by
  rw [h.digits_eq]
  exact mt List.map_eq_nil_iff.mp h.ne_nil

theorem takeDigits_of_spelled {digits : List Nat} {text rest : List Char}
    (h : DigitsSpelled digits text) (hrest : ∀ c ∈ rest.head?, c.isDigit = false) :
    takeDigits (text ++ rest) = (digits, rest) := by
  have htake : (text ++ rest).takeWhile Char.isDigit = text := by
    rw [List.takeWhile_append_of_pos h.isDigit]
    cases rest with
    | nil => simp
    | cons c rest => simp [hrest c rfl]
  rw [takeDigits, htake, List.drop_left, h.digits_eq]

theorem readFraction_of_spelled {digits : List Nat} {text rest : List Char}
    (h : FractionSpelled digits text) (hrest : ∀ c ∈ rest.head?, c.isDigit = false ∧ c ≠ '.') :
    readFraction (text ++ rest) = some (digits, rest) ∧
      ∀ c ∈ (text ++ rest).head?, c.isDigit = false := by
  cases h with
  | none =>
    refine ⟨?_, fun c hc => (hrest c hc).1⟩
    match rest with
    | [] => rfl
    | c :: rest =>
      have hpoint : c ≠ '.' := (hrest c rfl).2
      simp [readFraction, hpoint]
  | some hdigits =>
    refine ⟨?_, by simp⟩
    have htake := takeDigits_of_spelled hdigits fun c hc => (hrest c hc).1
    obtain ⟨d, ds, rfl⟩ := List.exists_cons_of_ne_nil hdigits.digits_ne_nil
    simp [readFraction, htake]

theorem readExponent_of_spelled {exponent : Option (Bool × List Nat)} {text rest : List Char}
    (h : ExponentSpelled exponent text) (hrest : Stops rest) :
    readExponent (text ++ rest) = some (exponent, rest) ∧
      ∀ c ∈ (text ++ rest).head?, c.isDigit = false ∧ c ≠ '.' := by
  cases h with
  | none =>
    refine ⟨?_, fun c hc => ⟨(hrest c hc).1, (hrest c hc).2.1⟩⟩
    match rest with
    | [] => rfl
    | c :: rest =>
      have hmark : ¬ (c = 'e' ∨ c = 'E') := by simpa using (hrest c rfl).2.2
      simp [readExponent, hmark]
  | @some mark negative sign text digits hmark hsign hdigits =>
    refine ⟨?_, by rcases hmark with rfl | rfl <;> simp [Char.isDigit]⟩
    have htake := takeDigits_of_spelled hdigits fun c hc => (hrest c hc).1
    have hdigit := hdigits.isDigit
    obtain ⟨d, ds, rfl⟩ := List.exists_cons_of_ne_nil hdigits.digits_ne_nil
    obtain ⟨c, cs, rfl⟩ := List.exists_cons_of_ne_nil hdigits.ne_nil
    cases hsign with
    | none =>
      -- a digit is no sign
      have hplus : c ≠ '+' := by
        rintro rfl
        simpa using hdigit '+'
      have hminus : c ≠ '-' := by
        rintro rfl
        simpa using hdigit '-'
      simp_all [readExponent]
    | plus => simp_all [readExponent]
    | minus => simp_all [readExponent]

/-- A number is read up to something that is part of no number. -/
theorem readNumber_of_spelled (negative : Bool) {whole fraction : List Nat}
    {exponent : Option (Bool × List Nat)} {w f e rest : List Char} (hwhole : DigitsSpelled whole w)
    (hzero : whole.head? = some 0 → whole.length = 1) (hfraction : FractionSpelled fraction f)
    (hexponent : ExponentSpelled exponent e) (hrest : Stops rest) :
    readNumber negative (w ++ f ++ e ++ rest) =
      some (.number ⟨negative, whole, fraction, exponent⟩, rest) := by
  obtain ⟨hexponent, hbehind⟩ := readExponent_of_spelled hexponent hrest
  obtain ⟨hfraction, hbehind'⟩ := readFraction_of_spelled hfraction hbehind
  have htake := takeDigits_of_spelled hwhole hbehind'
  have hvalid : (whole.isEmpty || (whole.head? = some 0 && 1 < whole.length)) = false := by
    obtain ⟨d, ds, rfl⟩ := List.exists_cons_of_ne_nil hwhole.digits_ne_nil
    by_cases hd : d = 0
    · simp [hzero (by simp [hd])]
    · simp [hd]
  simp [readNumber, htake, hvalid, hfraction, hexponent]

/-! ## Cutting into tokens -/

/-- A text is cut into tokens, however much fuel there is beyond its length. -/
def Lexes (text : List Char) (tokens : List Token) : Prop :=
  ∀ fuel, text.length < fuel → tokensFrom fuel text = tokens

theorem Lexes.nil : Lexes [] [] := by
  intro fuel hfuel
  cases fuel with
  | zero => rfl
  | succ fuel => rfl

theorem Lexes.gap {gap text : List Char} {tokens : List Token} (hgap : Blank gap)
    (h : Lexes text tokens) : Lexes (gap ++ text) tokens := by
  intro fuel hfuel
  rw [List.length_append] at hfuel
  rw [← h fuel (by omega)]
  cases fuel with
  | zero => rfl
  | succ fuel => simp only [tokensFrom, List.dropWhile_append_of_pos hgap]

/-- A token is cut off that stands in front. -/
theorem Lexes.token {c : Char} {text rest : List Char} {token : Token} {tokens : List Token}
    (hspace : isSpace c = false) (hread : readToken (c :: text ++ rest) = some (token, rest))
    (h : Lexes rest tokens) : Lexes (c :: text ++ rest) (token :: tokens) := by
  intro fuel hfuel
  rw [List.cons_append, List.length_cons, List.length_append] at hfuel
  obtain ⟨fuel, rfl⟩ : ∃ n, fuel = n + 1 := ⟨fuel - 1, by omega⟩
  have hdrop : (c :: text ++ rest).dropWhile isSpace = c :: (text ++ rest) := by
    simp [hspace]
  rw [List.cons_append] at hread
  simp only [tokensFrom, hdrop, hread, h fuel (by omega)]

theorem readToken_digit {c : Char} (hc : c.isDigit) (text : List Char) :
    readToken (c :: text) = readNumber false (c :: text) := by
  unfold readToken
  split <;> simp_all

theorem isSpace_digit {c : Char} (hc : c.isDigit) : isSpace c = false := by
  rw [Bool.eq_false_iff]
  intro hspace
  simp only [isSpace, Bool.or_eq_true, decide_eq_true_eq] at hspace
  rcases hspace with ((rfl | rfl) | rfl) | rfl <;> simp at hc

theorem Lexes.number {n : Number} {text rest : List Char} {tokens : List Token}
    (hn : NumberSpelled n text) (hrest : Stops rest) (h : Lexes rest tokens) :
    Lexes (text ++ rest) (.number n :: tokens) := by
  obtain @⟨negative, _, _, _, _, _, _, hwhole, hzero, hfraction, hexponent⟩ := hn
  -- the sign tells that a number starts, or else its first digit
  have hread := readNumber_of_spelled negative hwhole hzero hfraction hexponent hrest
  cases negative with
  | true => exact .token rfl (by simpa [readToken] using hread) h
  | false =>
    have hdigit := hwhole.isDigit
    obtain ⟨c, cs, rfl⟩ := List.exists_cons_of_ne_nil hwhole.ne_nil
    have hc := hdigit c List.mem_cons_self
    refine .token (isSpace_digit hc) ?_ h
    rw [List.cons_append, readToken_digit hc]
    exact hread

theorem Lexes.string {s : String} {text rest : List Char} {tokens : List Token}
    (hs : StringSpelled s text) (h : Lexes rest tokens) :
    Lexes (text ++ rest) (.string (some s) :: tokens) := by
  obtain ⟨hs⟩ := hs
  obtain ⟨parts, hparts, hread⟩ := readString_of_spelled hs
  refine .token rfl ?_ h
  simp [readToken, hread, hparts]

/-! ## Arranging into a value -/

/-- Hands a value over to what is open around it. -/
def deliver (value : Json) (frames : List Frame) (rest : List Token) : Json × Bool :=
  match frames with
  | [] => (value, rest.isEmpty)
  | frame :: frames => arrange (frame.add value :: frames) .commaOrClose rest

/-- The places where a value may start. -/
def Want.TakesValue (want : Want) : Prop :=
  want = .value ∨ want = .valueOrClose

/-- The places where a name may start. -/
def Want.TakesName (want : Want) : Prop :=
  want = .name ∨ want = .nameOrClose

/-- A text is read as a value, wherever the value stands and whatever follows that does not go on
with it. -/
def ReadsBack (json : Json) (text : List Char) : Prop :=
  ∀ rest tokens, Stops rest → Lexes rest tokens → ∃ tokens', Lexes (text ++ rest) tokens' ∧
    ∀ frames (want : Want), want.TakesValue →
      arrange frames want tokens' = deliver json frames tokens

theorem arrange_scalar {token : Token} {value : Json} (h : token.scalar? = some value)
    {want : Want} (hwant : want.TakesValue) (frames : List Frame) (rest : List Token) :
    arrange frames want (token :: rest) = deliver value frames rest := by
  obtain rfl | rfl := hwant <;> cases token <;> cases h <;> cases frames <;> rfl

theorem arrange_openArray {want : Want} (hwant : want.TakesValue) (frames : List Frame)
    (rest : List Token) :
    arrange frames want (.openArray :: rest) =
      arrange (.array [] :: frames) .valueOrClose rest := by
  obtain rfl | rfl := hwant <;> simp [arrange]

theorem arrange_openObject {want : Want} (hwant : want.TakesValue) (frames : List Frame)
    (rest : List Token) :
    arrange frames want (.openObject :: rest) =
      arrange (.object [] none :: frames) .nameOrClose rest := by
  obtain rfl | rfl := hwant <;> simp [arrange]

theorem arrange_name {want : Want} (hwant : want.TakesName) (entries : List (Json × Json))
    (name : Option Json) (frames : List Frame) (s : String) (rest : List Token) :
    arrange (.object entries name :: frames) want (.string (some s) :: .colon :: rest) =
      arrange (.object entries (some (.string (some s))) :: frames) .value rest := by
  obtain rfl | rfl := hwant <;> simp [arrange]

theorem arrange_closeArray (items : List Json) (frames : List Frame) (rest : List Token) :
    arrange (.array items :: frames) .commaOrClose (.closeArray :: rest) =
      deliver (.array items.reverse) frames rest := by
  cases frames <;> rfl

theorem arrange_closeObject (entries : List (Json × Json)) (name : Option Json)
    (frames : List Frame) (rest : List Token) :
    arrange (.object entries name :: frames) .commaOrClose (.closeObject :: rest) =
      deliver (.object entries.reverse) frames rest := by
  cases frames <;> rfl

theorem arrange_comma_array (items : List Json) (frames : List Frame) (rest : List Token) :
    arrange (.array items :: frames) .commaOrClose (.comma :: rest) =
      arrange (.array items :: frames) .value rest := by
  rw [arrange]

theorem arrange_comma_object (entries : List (Json × Json)) (name : Option Json)
    (frames : List Frame) (rest : List Token) :
    arrange (.object entries name :: frames) .commaOrClose (.comma :: rest) =
      arrange (.object entries name :: frames) .name rest := by
  rw [arrange]

theorem deliver_array (item : Json) (items : List Json) (frames : List Frame) (rest : List Token) :
    deliver item (.array items :: frames) rest =
      arrange (.array (item :: items) :: frames) .commaOrClose rest := rfl

/-! ## Reading values -/

/-- Space and what divides values stop a number. -/
theorem Stops.gap {gap rest : List Char} (hgap : Blank gap) (h : Stops rest) :
    Stops (gap ++ rest) := by
  cases gap with
  | nil => exact h
  | cons c gap =>
    intro d hd
    obtain rfl : c = d := by simpa using hd
    have hspace := hgap c List.mem_cons_self
    simp only [isSpace, Bool.or_eq_true, decide_eq_true_eq] at hspace
    rcases hspace with ((rfl | rfl) | rfl) | rfl <;> decide

theorem stops_cons {c : Char} (hc : c ∈ [',', ']', '\x7d']) (rest : List Char) :
    Stops (c :: rest) := by
  simp only [List.mem_cons, List.not_mem_nil, or_false] at hc
  rcases hc with rfl | rfl | rfl <;> simp [Stops]

/-- The text of a scalar is read back if it is cut off as its token. -/
theorem readsBack_of_token {token : Token} {json : Json} {text : List Char}
    (hscalar : token.scalar? = some json)
    (htoken : ∀ rest tokens, Stops rest → Lexes rest tokens →
      Lexes (text ++ rest) (token :: tokens)) :
    ReadsBack json text := by
  intro rest tokens hstops hrest
  exact ⟨token :: tokens, htoken rest tokens hstops hrest, fun frames want hwant =>
    arrange_scalar hscalar hwant frames tokens⟩

theorem ReadsBack.around {json : Json} {inner text : List Char} (h : ReadsBack json inner)
    (hspace : Around inner text) : ReadsBack json text := by
  obtain ⟨hbefore, hafter⟩ := hspace
  intro rest tokens hstops hrest
  obtain ⟨tokens', hlexes, harrange⟩ := h _ tokens (hstops.gap hafter) (hrest.gap hafter)
  refine ⟨tokens', ?_, harrange⟩
  simpa using hlexes.gap hbefore

/-- The items of an array are read behind those read before, up to its end. -/
def ItemsReadBack (items : List Json) (text : List Char) : Prop :=
  ∀ rest tokens, Lexes rest tokens → ∃ tokens', Lexes (text ++ ']' :: rest) tokens' ∧
    ∀ frames before (want : Want), want.TakesValue →
      arrange (.array before :: frames) want tokens' =
        deliver (.array (before.reverse ++ items)) frames tokens

/-- An entry of an object is read behind those read before. -/
def EntryReadsBack (entry : Json × Json) (text : List Char) : Prop :=
  ∀ rest tokens, Stops rest → Lexes rest tokens → ∃ tokens', Lexes (text ++ rest) tokens' ∧
    ∀ frames before name (want : Want), want.TakesName →
      arrange (.object before name :: frames) want tokens' =
        arrange (.object (entry :: before) none :: frames) .commaOrClose tokens

/-- The entries of an object are read behind those read before, up to its end. -/
def EntriesReadBack (entries : List (Json × Json)) (text : List Char) : Prop :=
  ∀ rest tokens, Lexes rest tokens → ∃ tokens', Lexes (text ++ '\x7d' :: rest) tokens' ∧
    ∀ frames before name (want : Want), want.TakesName →
      arrange (.object before name :: frames) want tokens' =
        deliver (.object (before.reverse ++ entries)) frames tokens

theorem readsBack_emptyArray {gap : List Char} (hgap : Blank gap) :
    ReadsBack (.array []) ('[' :: gap ++ [']']) := by
  intro rest tokens _ hrest
  have hclose : Lexes (']' :: [] ++ rest) (.closeArray :: tokens) := .token rfl rfl hrest
  have hopen : Lexes ('[' :: [] ++ (gap ++ ']' :: rest)) (.openArray :: .closeArray :: tokens) :=
    .token rfl rfl (hclose.gap hgap)
  refine ⟨_, by simpa using hopen, fun frames want hwant => ?_⟩
  rw [arrange_openArray hwant]
  cases frames <;> rfl

theorem readsBack_array {items : List Json} {text : List Char} (h : ItemsReadBack items text) :
    ReadsBack (.array items) ('[' :: text ++ [']']) := by
  intro rest tokens _ hrest
  obtain ⟨tokens', hlexes, harrange⟩ := h rest tokens hrest
  have hopen : Lexes ('[' :: [] ++ (text ++ ']' :: rest)) (.openArray :: tokens') :=
    .token rfl rfl hlexes
  refine ⟨_, by simpa using hopen, fun frames want hwant => ?_⟩
  rw [arrange_openArray hwant, harrange frames [] .valueOrClose (.inr rfl)]
  rfl

theorem itemsReadBack_one {item : Json} {text : List Char} (h : ReadsBack item text) :
    ItemsReadBack [item] text := by
  intro rest tokens hrest
  have hclose : Lexes (']' :: [] ++ rest) (.closeArray :: tokens) := .token rfl rfl hrest
  obtain ⟨tokens', hlexes, harrange⟩ := h _ _ (stops_cons (by simp) rest) hclose
  refine ⟨tokens', hlexes, fun frames before want hwant => ?_⟩
  rw [harrange _ want hwant, deliver_array, arrange_closeArray, List.reverse_cons]

theorem itemsReadBack_cons {item : Json} {items : List Json} {text more : List Char}
    (h : ReadsBack item text) (hmore : ItemsReadBack items more) :
    ItemsReadBack (item :: items) (text ++ ',' :: more) := by
  intro rest tokens hrest
  -- the text is cut from its end, and arranged from its start
  obtain ⟨tokens₁, hlexes₁, harrange₁⟩ := hmore rest tokens hrest
  have hcomma : Lexes (',' :: [] ++ (more ++ ']' :: rest)) (.comma :: tokens₁) :=
    .token rfl rfl hlexes₁
  obtain ⟨tokens₂, hlexes₂, harrange₂⟩ := h _ _ (stops_cons (by simp) _) hcomma
  refine ⟨tokens₂, by simpa using hlexes₂, fun frames before want hwant => ?_⟩
  rw [harrange₂ _ want hwant, deliver_array, arrange_comma_array,
    harrange₁ frames (item :: before) .value (.inl rfl), List.reverse_cons, List.append_assoc]
  rfl

theorem readsBack_emptyObject {gap : List Char} (hgap : Blank gap) :
    ReadsBack (.object []) ('\x7b' :: gap ++ ['\x7d']) := by
  intro rest tokens _ hrest
  have hclose : Lexes ('\x7d' :: [] ++ rest) (.closeObject :: tokens) := .token rfl rfl hrest
  have hopen : Lexes ('\x7b' :: [] ++ (gap ++ '\x7d' :: rest))
      (.openObject :: .closeObject :: tokens) := .token rfl rfl (hclose.gap hgap)
  refine ⟨_, by simpa using hopen, fun frames want hwant => ?_⟩
  rw [arrange_openObject hwant]
  cases frames <;> rfl

theorem readsBack_object {entries : List (Json × Json)} {text : List Char}
    (h : EntriesReadBack entries text) :
    ReadsBack (.object entries) ('\x7b' :: text ++ ['\x7d']) := by
  intro rest tokens _ hrest
  obtain ⟨tokens', hlexes, harrange⟩ := h rest tokens hrest
  have hopen : Lexes ('\x7b' :: [] ++ (text ++ '\x7d' :: rest)) (.openObject :: tokens') :=
    .token rfl rfl hlexes
  refine ⟨_, by simpa using hopen, fun frames want hwant => ?_⟩
  rw [arrange_openObject hwant, harrange frames [] none .nameOrClose (.inr rfl)]
  rfl

theorem entryReadsBack {name : String} {value : Json} {key keyText text : List Char}
    (hname : StringSpelled name key) (hspace : Around key keyText) (h : ReadsBack value text) :
    EntryReadsBack (.string (some name), value) (keyText ++ ':' :: text) := by
  obtain ⟨hbefore, hafter⟩ := hspace
  intro rest tokens hstops hrest
  obtain ⟨tokens', hlexes, harrange⟩ := h rest tokens hstops hrest
  have hcolon : Lexes (':' :: [] ++ (text ++ rest)) (.colon :: tokens') := .token rfl rfl hlexes
  have hkey := (Lexes.string hname (hcolon.gap hafter)).gap hbefore
  refine ⟨_, by simpa using hkey, fun frames before old want hwant => ?_⟩
  rw [arrange_name hwant, harrange _ .value (.inl rfl)]
  rfl

theorem entriesReadBack_one {entry : Json × Json} {text : List Char}
    (h : EntryReadsBack entry text) : EntriesReadBack [entry] text := by
  intro rest tokens hrest
  have hclose : Lexes ('\x7d' :: [] ++ rest) (.closeObject :: tokens) := .token rfl rfl hrest
  obtain ⟨tokens', hlexes, harrange⟩ := h _ _ (stops_cons (by simp) rest) hclose
  refine ⟨tokens', hlexes, fun frames before name want hwant => ?_⟩
  rw [harrange _ _ _ want hwant, arrange_closeObject, List.reverse_cons]

theorem entriesReadBack_cons {entry : Json × Json} {entries : List (Json × Json)}
    {text more : List Char} (h : EntryReadsBack entry text) (hmore : EntriesReadBack entries more) :
    EntriesReadBack (entry :: entries) (text ++ ',' :: more) := by
  intro rest tokens hrest
  -- the text is cut from its end, and arranged from its start
  obtain ⟨tokens₁, hlexes₁, harrange₁⟩ := hmore rest tokens hrest
  have hcomma : Lexes (',' :: [] ++ (more ++ '\x7d' :: rest)) (.comma :: tokens₁) :=
    .token rfl rfl hlexes₁
  obtain ⟨tokens₂, hlexes₂, harrange₂⟩ := h _ _ (stops_cons (by simp) _) hcomma
  refine ⟨tokens₂, by simpa using hlexes₂, fun frames before name want hwant => ?_⟩
  rw [harrange₂ _ _ _ want hwant, arrange_comma_object,
    harrange₁ frames (entry :: before) none .name (.inl rfl), List.reverse_cons, List.append_assoc]
  rfl

mutual

/-- Every text of a value is read as the value. -/
theorem readsBack_of_spells {json : Json} {text : List Char} (h : Spells json text) :
    ReadsBack json text := by
  match h with
  | .null => exact readsBack_of_token rfl fun rest _ _ hrest => .token rfl rfl hrest
  | .true => exact readsBack_of_token rfl fun rest _ _ hrest => .token rfl rfl hrest
  | .false => exact readsBack_of_token rfl fun rest _ _ hrest => .token rfl rfl hrest
  | .number hn => exact readsBack_of_token rfl fun rest _ hstops hrest => .number hn hstops hrest
  | .string hs => exact readsBack_of_token rfl fun rest _ _ hrest => .string hs hrest
  | .emptyArray hgap => exact readsBack_emptyArray hgap
  | .array hitems => exact readsBack_array (itemsReadBack_of_spells hitems)
  | .emptyObject hgap => exact readsBack_emptyObject hgap
  | .object hentries => exact readsBack_object (entriesReadBack_of_spells hentries)

theorem itemsReadBack_of_spells {items : List Json} {text : List Char}
    (h : SpellsItems items text) : ItemsReadBack items text := by
  match h with
  | .one hitem hspace => exact itemsReadBack_one ((readsBack_of_spells hitem).around hspace)
  | .more hitem hspace hrest =>
    exact itemsReadBack_cons ((readsBack_of_spells hitem).around hspace)
      (itemsReadBack_of_spells hrest)

theorem entryReadsBack_of_spells {entry : Json × Json} {text : List Char}
    (h : SpellsEntry entry text) : EntryReadsBack entry text := by
  match h with
  | .mk hname hspace hvalue hspace' =>
    exact entryReadsBack hname hspace ((readsBack_of_spells hvalue).around hspace')

theorem entriesReadBack_of_spells {entries : List (Json × Json)} {text : List Char}
    (h : SpellsEntries entries text) : EntriesReadBack entries text := by
  match h with
  | .one hentry => exact entriesReadBack_one (entryReadsBack_of_spells hentry)
  | .more hentry hrest =>
    exact entriesReadBack_cons (entryReadsBack_of_spells hentry) (entriesReadBack_of_spells hrest)

end

/-- A text that spells a value is read as the value, and nothing is left of it. -/
theorem ofText_of_spelledBy {json : Json} {text : String} (h : json.SpelledBy text) :
    ofText text = (json, true) := by
  obtain ⟨inner, hinner, hspace⟩ := h
  have hread := (readsBack_of_spells hinner).around hspace
  obtain ⟨tokens', hlexes, harrange⟩ := hread [] [] (by simp [Stops]) .nil
  rw [List.append_nil] at hlexes
  rw [ofText, tokens, hlexes _ (Nat.lt_succ_self _), harrange [] .value (.inl rfl)]
  rfl

end AccessPolicy.Json
