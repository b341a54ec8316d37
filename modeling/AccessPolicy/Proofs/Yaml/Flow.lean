import AccessPolicy.Proofs.Yaml.Scalar

/-!
# Reading collections of both formats

What the reader of YAML makes of a text in both formats. Collections are read by recursion with
fuel, and two units of it for each character are enough: a bracket takes up one for itself and one
for the collection it opens, and an entry takes up three, but has a key in quotes and a colon.

The proof goes over the derivation of the text, with whatever stands behind as a parameter. Lines
and columns count only for keys, so of the place behind a value no more is said than its text.

Main results:

* `flowNode_of_common` — values in brackets are read as they are spelled;
* `documents_of_common` — so is a whole text of one object.
-/

namespace AccessPolicy

/-! ## Values of both formats -/

/-- The text of a number without a point or an exponent. -/
def Json.Number.integerText (n : Json.Number) : String :=
  String.ofList ((if n.negative then ['-'] else []) ++ n.whole.map Nat.digitChar)

mutual

/-- What YAML makes of a value that is written as in JSON. -/
def Json.asYaml : Json → Yaml
  | .null => .scalar true "null"
  | .bool b => .scalar true (if b then "true" else "false")
  | .number n => .scalar true n.integerText
  | .string s => .scalar false (s.getD "")
  | .array items => .sequence (Json.itemsAsYaml items)
  | .object entries => .mapping (Json.entriesAsYaml entries)
  | .broken => .empty

def Json.itemsAsYaml : List Json → List Yaml
  | [] => []
  | item :: rest => item.asYaml :: Json.itemsAsYaml rest

def Json.entriesAsYaml : List (Json × Json) → List (Yaml × Yaml)
  | [] => []
  | (key, value) :: rest => (key.asYaml, value.asYaml) :: Json.entriesAsYaml rest

end

namespace Yaml

open Json

/-! ## Words and numbers -/

theorem digitChar_of_isDigit {c : Char} (h : c.isDigit) :
    Nat.digitChar (c.toNat - '0'.toNat) = c := by
  simp only [Char.isDigit, Bool.and_eq_true, decide_eq_true_eq, UInt32.le_iff_toNat_le] at h
  have hlow : '0'.toNat ≤ c.toNat := h.1
  have hhigh : c.toNat < '0'.toNat + 10 := Nat.lt_succ_of_le h.2
  apply Char.toNat_inj.mp
  rw [Nat.toNat_digitChar_of_lt_ten (by omega)]
  exact Nat.add_sub_cancel' hlow

theorem integerText_of_spelled {negative : Bool} {digits : List Nat} {text : List Char}
    (h : DigitsSpelled digits text) : Number.integerText ⟨negative, digits, [], none⟩ =
      String.ofList ((if negative then ['-'] else []) ++ text) := by
  have hmap : digits.map Nat.digitChar = text := by
    rw [h.digits_eq, List.map_map]
    refine (List.map_congr_left fun c hc => ?_).trans (List.map_id text)
    exact digitChar_of_isDigit (h.isDigit c hc)
  rw [Number.integerText, hmap]

theorem isWordSign_of_isDigit {c : Char} (h : c.isDigit) : isWordSign c := by
  have hne : ∀ d : Char, d.isDigit = false → c ≠ d := by
    rintro d hd rfl
    simp [hd] at h
  simp [isWordSign, isBlank, isBreak, isFlowSign, hne]

/-- The starts of words in both formats: a letter or a digit, or a minus sign and a digit. -/
inductive StartsWord : List Char → Prop where
  | sign {c : Char} {rest : List Char} (hc : c.isAlphanum) : StartsWord (c :: rest)
  | minus {c : Char} {rest : List Char} (hc : c.isDigit) : StartsWord ('-' :: c :: rest)

theorem ne_of_isAlphanum {c : Char} (h : c.isAlphanum) {d : Char} (hd : d.isAlphanum = false) :
    c ≠ d ∧ d ≠ c := by
  have hne : c ≠ d := by
    rintro rfl
    simp [hd] at h
  exact ⟨hne, hne.symm⟩

theorem flowNode_of_startsWord {text : List Char} (h : StartsWord text) {p : Place}
    (hp : p.rest = text) (fuel : Nat) : flowNode 0 (fuel + 1) p = readPlain true 0 p := by
  cases h with
  | @sign c rest hc =>
    -- no indicator is a letter or a digit
    have hne : ∀ d : Char, d.isAlphanum = false → c ≠ d ∧ d ≠ c := fun d => ne_of_isAlphanum hc
    have hmark : p.atMark = false :=
      Place.atMark_of_rest hp ⟨(hne '-' rfl).1, (hne '.' rfl).1⟩
    rw [flowNode, hmark, hp]
    simp [readScalar, hp, hne, startsPlain, isBlank, isBreak, isIndicator]
  | @minus c rest hc =>
    have halphanum : c.isAlphanum := by simp [Char.isAlphanum, hc]
    have hne : ∀ d : Char, d.isAlphanum = false → c ≠ d ∧ d ≠ c :=
      fun d => ne_of_isAlphanum halphanum
    -- a hyphen with a digit behind it starts neither a mark nor an item
    have hmark : p.atMark = false := by simp [Place.atMark, hp, List.isPrefixOf, hne]
    rw [flowNode, hmark, hp]
    simp [readScalar, hp, hne, startsPlain, isBlank, isBreak, atSpace]

/-- A word is read as a scalar without quotes. -/
theorem flowNode_word {word rest : List Char} {p : Place} (hp : p.rest = word ++ rest)
    (hstart : StartsWord (word ++ rest)) (hne : word ≠ []) (hword : ∀ c ∈ word, isWordSign c)
    (hrest : Closes rest) (fuel : Nat) : ∃ q,
      flowNode 0 (fuel + 1) p = some (.scalar true (String.ofList word), q) ∧ q.rest = rest := by
  rw [flowNode_of_startsWord hstart hp, readPlain_of_word hp hne hword hrest]
  exact ⟨_, rfl, rfl⟩

theorem flowNode_integer {negative : Bool} {digits : List Nat} {text rest : List Char} {p : Place}
    (h : DigitsSpelled digits text) (hp : p.rest = (if negative then ['-'] else []) ++ text ++ rest)
    (hrest : Closes rest) (fuel : Nat) : ∃ q,
      flowNode 0 (fuel + 1) p =
        some (.scalar true (Number.integerText ⟨negative, digits, [], none⟩), q) ∧
      q.rest = rest := by
  obtain ⟨c, cs, rfl⟩ := List.exists_cons_of_ne_nil h.ne_nil
  have hc : c.isDigit := h.isDigit c List.mem_cons_self
  have hdigits : ∀ d ∈ c :: cs, isWordSign d := fun d hd => isWordSign_of_isDigit (h.isDigit d hd)
  rw [integerText_of_spelled h]
  cases negative with
  | false =>
    have hstart : StartsWord ([] ++ (c :: cs) ++ rest) := .sign (by simp [Char.isAlphanum, hc])
    exact flowNode_word hp hstart (by simp) hdigits hrest fuel
  | true =>
    have hword : ∀ d ∈ '-' :: c :: cs, isWordSign d :=
      List.forall_mem_cons.mpr ⟨by decide, hdigits⟩
    exact flowNode_word hp (.minus hc) (by simp) hword hrest fuel

/-! ## Strings -/

/-- A string is read as a scalar in quotes. -/
theorem flowNode_string {s : String} {text rest : List Char} {p : Place} (h : CommonString s text)
    (hp : p.rest = text ++ rest) (fuel : Nat) :
    flowNode 0 (fuel + 1) p = some (.scalar false s, p.past text.length rest) := by
  obtain @⟨cs, text, h⟩ := h
  have hrest : p.rest = '"' :: (text ++ '"' :: rest) := by simpa using hp
  have hmark : p.atMark = false := Place.atMark_of_rest hrest (by decide)
  have hnext : p.next = p.past 1 (text ++ '"' :: rest) := Place.next_of_rest hrest rfl
  -- the opening quote is behind, so this is not the start of a line
  have hread : readQuoted true (p.rest.length + 1) p.next =
      some (cs, p.past ('"' :: text ++ ['"']).length rest) := by
    have hcolumn : p.next.column ≠ 0 := by simp [hnext, Place.past]
    have hfuel : text.length < p.rest.length + 1 := by
      rw [hrest, List.length_cons, List.length_append]
      omega
    rw [readQuoted_of_common h (by rw [hnext]; rfl) hcolumn hfuel, hnext, Place.past_past]
    simp [Nat.add_comm, Nat.add_left_comm]
  have hscalar : readScalar true 0 p =
      some (.scalar false (String.ofList cs), p.past ('"' :: text ++ ['"']).length rest) := by
    rw [readScalar]
    simp only [hread]
    rw [hrest]
    rfl
  rw [flowNode, hmark, ← hscalar, hrest]
  rfl

/-! ## Collections, step by step -/

section Steps

variable {p q r : Place} {fuel : Nat}

theorem flowNode_bracket {rest : List Char} (hp : p.rest = '[' :: rest) (fuel : Nat) :
    flowNode 0 (fuel + 1) p = flowItems 0 fuel [] (p.past 1 rest) := by
  have hmark : p.atMark = false := Place.atMark_of_rest hp (by decide)
  rw [flowNode, hmark, ← Place.next_of_rest hp rfl]
  simp [hp]

theorem flowNode_brace {rest : List Char} (hp : p.rest = '\x7b' :: rest) (fuel : Nat) :
    flowNode 0 (fuel + 1) p = flowEntries 0 fuel [] (p.past 1 rest) := by
  have hmark : p.atMark = false := Place.atMark_of_rest hp (by decide)
  rw [flowNode, hmark, ← Place.next_of_rest hp rfl]
  simp [hp]

theorem ne_of_isDivider {c : Char} (h : isDivider c = false) : c ≠ ']' := by
  rintro rfl
  exact absurd h (by decide)

theorem flowItems_close {rest : List Char} (hp : (p.skip true true).rest = ']' :: rest)
    (done : List Yaml) :
    flowItems 0 (fuel + 1) done p = some (.sequence done.reverse, (p.skip true true).next) := by
  rw [flowItems]
  simp only [hp]

/-- An item that is followed by a comma is taken in. -/
theorem flowItems_more {item : Yaml} {c : Char} {start rest : List Char}
    (hp : (p.skip true true).rest = c :: start) (hc : isDivider c = false)
    (hitem : flowNode 0 fuel (p.skip true true) = some (item, q))
    (hq : (q.skip true true).rest = ',' :: rest) (done : List Yaml) :
    flowItems 0 (fuel + 1) done p = flowItems 0 fuel (item :: done) (q.skip true true).next := by
  rw [flowItems]
  simp [hp, ne_of_isDivider hc, hitem, hq]

/-- An item that is followed by a bracket is the last one. -/
theorem flowItems_last {item : Yaml} {c : Char} {start rest : List Char}
    (hp : (p.skip true true).rest = c :: start) (hc : isDivider c = false)
    (hitem : flowNode 0 fuel (p.skip true true) = some (item, q))
    (hq : (q.skip true true).rest = ']' :: rest) (done : List Yaml) :
    flowItems 0 (fuel + 1) done p =
      some (.sequence (item :: done).reverse, (q.skip true true).next) := by
  rw [flowItems]
  simp [hp, ne_of_isDivider hc, hitem, hq]

theorem flowEntries_close {rest : List Char} (hp : (p.skip true true).rest = '\x7d' :: rest)
    (done : List (Yaml × Yaml)) :
    flowEntries 0 (fuel + 1) done p = some (.mapping done.reverse, (p.skip true true).next) := by
  rw [flowEntries]
  simp only [hp]

/-- An entry as it is found at a place: a quoted key that is short enough, a colon, and a value. -/
structure EntryAt (fuel : Nat) (p : Place) (key value : Yaml) (q r : Place) : Prop where
  quote : ∃ rest, (p.skip true true).rest = '"' :: rest
  key : flowNode 0 fuel (p.skip true true) = some (key, q)
  colon : ∃ rest, (q.skip true true).rest = ':' :: rest
  short : (p.skip true true).canBeKey (q.skip true true)
  value : flowValue 0 fuel (q.skip true true).next = some (value, r)

theorem flowEntries_more {key value : Yaml} {rest : List Char} (h : EntryAt fuel p key value q r)
    (hr : (r.skip true true).rest = ',' :: rest) (done : List (Yaml × Yaml)) :
    flowEntries 0 (fuel + 1) done p =
      flowEntries 0 fuel ((key, value) :: done) (r.skip true true).next := by
  obtain ⟨start, hstart⟩ := h.quote
  obtain ⟨behind, hcolon⟩ := h.colon
  rw [flowEntries]
  simp [hstart, h.key, hcolon, h.short, h.value, hr]

theorem flowEntries_last {key value : Yaml} {rest : List Char} (h : EntryAt fuel p key value q r)
    (hr : (r.skip true true).rest = '\x7d' :: rest) (done : List (Yaml × Yaml)) :
    flowEntries 0 (fuel + 1) done p =
      some (.mapping ((key, value) :: done).reverse, (r.skip true true).next) := by
  obtain ⟨start, hstart⟩ := h.quote
  obtain ⟨behind, hcolon⟩ := h.colon
  rw [flowEntries]
  simp [hstart, h.key, hcolon, h.short, h.value, hr]

end Steps

/-! ## Collections -/

theorem starts_divider {c : Char} (hc : isDivider c) (rest : List Char) :
    Place.Starts (c :: rest) := by
  intro d hd
  obtain rfl : c = d := by simpa using hd
  rcases eq_of_isDivider hc with rfl | rfl | rfl <;> decide

/-- A value does not start as a gap does, nor with a sign of the collection it is in. -/
theorem starts_of_common {json : Json} {text : List Char} (h : Common json text)
    (rest : List Char) :
    Place.Starts (text ++ rest) ∧ ∃ c more, text ++ rest = c :: more ∧ isDivider c = false := by
  have hfirst : ∃ c more, text = c :: more ∧ isBlank c = false ∧ isBreak c = false ∧ c ≠ '#' ∧
      isDivider c = false := by
    cases h with
    | null | true | false | emptyArray | array | emptyObject | object =>
      exact ⟨_, _, rfl, by decide⟩
    | string h =>
      obtain ⟨h⟩ := h
      exact ⟨_, _, rfl, by decide⟩
    | @integer negative digits text hdigits =>
      cases negative with
      | true => exact ⟨_, _, rfl, by decide⟩
      | false =>
        obtain ⟨c, cs, rfl⟩ := List.exists_cons_of_ne_nil hdigits.ne_nil
        have hc : c.isAlphanum := by simp [Char.isAlphanum, hdigits.isDigit c List.mem_cons_self]
        have hne : ∀ d : Char, d.isAlphanum = false → c ≠ d := fun d hd =>
          (ne_of_isAlphanum hc hd).1
        refine ⟨c, cs, rfl, ?_⟩
        simp [isBlank, isBreak, isDivider, hne]
  obtain ⟨c, more, rfl, hblank, hbreak, hcomment, hdivider⟩ := hfirst
  refine ⟨?_, c, more ++ rest, rfl, hdivider⟩
  intro d hd
  obtain rfl : c = d := by simpa using hd
  exact ⟨hblank, hbreak, hcomment⟩

/-- A value with gaps around it, up to what divides it from the rest. -/
theorem exists_spaced {json : Json} {inner text rest : List Char} {c : Char} {p : Place}
    (hspace : Spaced inner text) (hinner : Common json inner) (hp : p.rest = text ++ c :: rest)
    (hc : isDivider c) :
    ∃ behind, (p.skip true true).rest = inner ++ behind ∧ Closes behind ∧
      ∀ q : Place, q.rest = behind → (q.skip true true).rest = c :: rest ∧
        (q.skip true true).next.rest = rest := by
  obtain @⟨before, after, hbefore, hafter⟩ := hspace
  refine ⟨after ++ c :: rest, ?_, .mk hafter (by simpa using hc), fun q hq => ?_⟩
  · exact Place.rest_skip (by simpa using hp) hbefore (starts_of_common hinner _).1
  · have hskip := Place.rest_skip hq hafter (starts_divider hc rest)
    have hbreak : isBreak c = false := (starts_divider hc rest c rfl).2.1
    exact ⟨hskip, by rw [Place.next_of_rest hskip hbreak]; rfl⟩

theorem flowValue_of_starts {p : Place} {c : Char} {rest : List Char}
    (hp : (p.skip true true).rest = c :: rest) (hc : isDivider c = false) (fuel : Nat) :
    flowValue 0 (fuel + 1) p = flowNode 0 fuel (p.skip true true) := by
  simp only [isDivider, Bool.or_eq_false_iff, decide_eq_false_iff_not] at hc
  rw [flowValue]
  simp [hp, hc]

/-- A key is read up to its colon, which is near enough. -/
theorem key_of_common {name : String} {before key blanks rest : List Char} {p : Place}
    (hbefore : Spacing before) (hname : CommonString name key) (hblanks : Blanks blanks)
    (hlength : (key ++ blanks).length ≤ maxKeyLength)
    (hp : p.rest = before ++ (key ++ (blanks ++ ':' :: rest))) (fuel : Nat) :
    ∃ q, (∃ more, (p.skip true true).rest = '"' :: more) ∧
      flowNode 0 (fuel + 1) (p.skip true true) = some (.scalar false name, q) ∧
      (q.skip true true).rest = ':' :: rest ∧ (q.skip true true).next.rest = rest ∧
      (p.skip true true).canBeKey (q.skip true true) := by
  have hquote : ∃ more, key = '"' :: more := by
    obtain ⟨-⟩ := hname
    exact ⟨_, rfl⟩
  obtain ⟨more, hmore⟩ := hquote
  have hstart : (p.skip true true).rest = key ++ (blanks ++ ':' :: rest) := by
    refine Place.rest_skip hp hbefore ?_
    rw [hmore]
    simp [Place.Starts, isBlank, isBreak]
  generalize p.skip true true = start at hstart
  have hkey := flowNode_string hname hstart fuel
  have hcolon : (start.past key.length (blanks ++ ':' :: rest)).skip true true =
      start.past (key ++ blanks).length (':' :: rest) := by
    rw [Place.skip_blanks rfl hblanks (by simp [Place.Starts, isBlank, isBreak]), Place.past_past,
      List.length_append]
  refine ⟨_, ⟨_, by rw [hstart, hmore]; rfl⟩, hkey, by rw [hcolon]; rfl, ?_, ?_⟩
  · rw [hcolon, Place.next_of_rest rfl rfl]
    rfl
  · -- no line is broken on the way to the colon
    rw [hcolon]
    simpa [Place.canBeKey, Place.past, maxKeyLength] using hlength

mutual

/-- A value in brackets is read as it is spelled, to its end. -/
theorem flowNode_of_common {json : Json} {text : List Char} (h : Common json text) {p : Place}
    {rest : List Char} {fuel : Nat} (hp : p.rest = text ++ rest) (hrest : Closes rest)
    (hfuel : 2 * text.length ≤ fuel) :
    ∃ q, flowNode 0 fuel p = some (json.asYaml, q) ∧ q.rest = rest := by
  have hpos : 0 < text.length := by
    obtain ⟨-, c, more, htext, -⟩ := starts_of_common h []
    rw [← List.append_nil text, htext]
    simp
  obtain ⟨fuel, rfl⟩ : ∃ n, fuel = n + 1 := ⟨fuel - 1, by omega⟩
  -- one unit for the value itself; brackets leave two more than what is between them needs
  match h with
  | .null | .true | .false =>
    refine flowNode_word hp (.sign (by decide)) (by simp) ?_ hrest fuel
    exact List.all_eq_true.mp (by decide)
  | .integer hdigits _ => exact flowNode_integer hdigits hp hrest fuel
  | .string h => exact ⟨_, flowNode_string h hp fuel, rfl⟩
  | @Common.emptyArray gap hgap =>
    have hp' : p.rest = '[' :: (gap ++ ']' :: rest) := by simpa using hp
    have hskip : ((p.past 1 (gap ++ ']' :: rest)).skip true true).rest = ']' :: rest :=
      Place.rest_skip rfl hgap (starts_divider rfl rest)
    simp only [List.length_append, List.length_cons] at hfuel
    obtain ⟨fuel, rfl⟩ : ∃ n, fuel = n + 1 := ⟨fuel - 1, by omega⟩
    rw [flowNode_bracket hp', flowItems_close hskip, Place.next_of_rest hskip rfl]
    exact ⟨_, rfl, rfl⟩
  | @Common.array items text hitems =>
    have hp' : p.rest = '[' :: (text ++ ']' :: rest) := by simpa using hp
    simp only [List.length_append, List.length_cons] at hfuel
    rw [flowNode_bracket hp']
    exact flowItems_of_common hitems rfl (by omega) []
  | @Common.emptyObject gap hgap =>
    have hp' : p.rest = '\x7b' :: (gap ++ '\x7d' :: rest) := by simpa using hp
    have hskip : ((p.past 1 (gap ++ '\x7d' :: rest)).skip true true).rest = '\x7d' :: rest :=
      Place.rest_skip rfl hgap (starts_divider rfl rest)
    simp only [List.length_append, List.length_cons] at hfuel
    obtain ⟨fuel, rfl⟩ : ∃ n, fuel = n + 1 := ⟨fuel - 1, by omega⟩
    rw [flowNode_brace hp', flowEntries_close hskip, Place.next_of_rest hskip rfl]
    exact ⟨_, rfl, rfl⟩
  | @Common.object entries text hentries =>
    have hp' : p.rest = '\x7b' :: (text ++ '\x7d' :: rest) := by simpa using hp
    simp only [List.length_append, List.length_cons] at hfuel
    rw [flowNode_brace hp']
    exact flowEntries_of_common hentries rfl (by omega) []

theorem flowItems_of_common {items : List Json} {text : List Char} (h : CommonItems items text)
    {p : Place} {rest : List Char} {fuel : Nat} (hp : p.rest = text ++ ']' :: rest)
    (hfuel : 2 * text.length < fuel) (done : List Yaml) :
    ∃ q, flowItems 0 fuel done p = some (.sequence (done.reverse ++ itemsAsYaml items), q) ∧
      q.rest = rest := by
  obtain ⟨fuel, rfl⟩ : ∃ n, fuel = n + 1 := ⟨fuel - 1, by omega⟩
  match h with
  | @CommonItems.one item inner text hitem hspace =>
    obtain ⟨behind, hstart, hbehind, hend⟩ := exists_spaced hspace hitem hp rfl
    have hlength := hspace.length_le
    have hinner : 2 * inner.length ≤ fuel := by omega
    obtain ⟨q, hnode, hq⟩ := flowNode_of_common hitem hstart hbehind hinner
    obtain ⟨hskip, hnext⟩ := hend q hq
    obtain ⟨-, c, _, hfirst, hc⟩ := starts_of_common hitem behind
    refine ⟨_, ?_, hnext⟩
    rw [flowItems_last (hstart.trans hfirst) hc hnode hskip, List.reverse_cons]
    rfl
  | @CommonItems.more item items inner text more hitem hspace hmore =>
    have hp' : p.rest = text ++ ',' :: (more ++ ']' :: rest) := by simpa using hp
    obtain ⟨behind, hstart, hbehind, hend⟩ := exists_spaced hspace hitem hp' rfl
    have hlength := hspace.length_le
    -- the comma pays for the step to the other items
    rw [List.length_append, List.length_cons] at hfuel
    have hinner : 2 * inner.length ≤ fuel := by omega
    obtain ⟨q, hnode, hq⟩ := flowNode_of_common hitem hstart hbehind hinner
    obtain ⟨hskip, hnext⟩ := hend q hq
    obtain ⟨-, c, _, hfirst, hc⟩ := starts_of_common hitem behind
    obtain ⟨r, hitems, hr⟩ := flowItems_of_common hmore hnext
      (show 2 * more.length < fuel by omega) (item.asYaml :: done)
    refine ⟨r, ?_, hr⟩
    rw [flowItems_more (hstart.trans hfirst) hc hnode hskip, hitems, List.reverse_cons,
      List.append_assoc]
    rfl

theorem entryAt_of_common {entry : Json × Json} {text : List Char} (h : CommonEntry entry text)
    {p : Place} {c : Char} {rest : List Char} {fuel : Nat} (hp : p.rest = text ++ c :: rest)
    (hc : isDivider c) (hfuel : 2 * text.length ≤ fuel) :
    ∃ q r, EntryAt fuel p entry.1.asYaml entry.2.asYaml q r ∧
      (r.skip true true).rest = c :: rest ∧ (r.skip true true).next.rest = rest := by
  match h with
  | @CommonEntry.mk name value before key blanks inner text hbefore hname hblanks hlength hvalue
      hspace =>
    -- the colon pays for one unit, and the quotes of the key pay for the others
    simp only [List.length_append, List.length_cons] at hfuel
    have hinner := hspace.length_le
    obtain ⟨fuel, rfl⟩ : ∃ n, fuel = n + 1 := ⟨fuel - 1, by omega⟩
    have hp' : p.rest = before ++ (key ++ (blanks ++ ':' :: (text ++ c :: rest))) := by
      simpa using hp
    obtain ⟨q, hquote, hkey, hcolon, hbehind, hshort⟩ :=
      key_of_common hbefore hname hblanks hlength hp' fuel
    obtain ⟨behind, hstart, hcloses, hend⟩ := exists_spaced hspace hvalue hbehind hc
    obtain ⟨-, d, _, hfirst, hd⟩ := starts_of_common hvalue behind
    obtain ⟨fuel, rfl⟩ : ∃ n, fuel = n + 1 := ⟨fuel - 1, by omega⟩
    obtain ⟨r, hnode, hr⟩ := flowNode_of_common hvalue hstart hcloses
      (show 2 * inner.length ≤ fuel + 1 by omega)
    refine ⟨q, r, ⟨hquote, hkey, ⟨_, hcolon⟩, hshort, ?_⟩, hend r hr⟩
    rw [flowValue_of_starts (hstart.trans hfirst) hd]
    exact hnode

theorem flowEntries_of_common {entries : List (Json × Json)} {text : List Char}
    (h : CommonEntries entries text) {p : Place} {rest : List Char} {fuel : Nat}
    (hp : p.rest = text ++ '\x7d' :: rest) (hfuel : 2 * text.length < fuel)
    (done : List (Yaml × Yaml)) :
    ∃ q, flowEntries 0 fuel done p = some (.mapping (done.reverse ++ entriesAsYaml entries), q) ∧
      q.rest = rest := by
  obtain ⟨fuel, rfl⟩ : ∃ n, fuel = n + 1 := ⟨fuel - 1, by omega⟩
  match h with
  | @CommonEntries.one entry text hentry =>
    obtain ⟨q, r, hat, hskip, hnext⟩ := entryAt_of_common hentry hp rfl
      (show 2 * text.length ≤ fuel by omega)
    refine ⟨_, ?_, hnext⟩
    rw [flowEntries_last hat hskip, List.reverse_cons]
    rfl
  | @CommonEntries.more entry entries text more hentry hmore =>
    have hp' : p.rest = text ++ ',' :: (more ++ '\x7d' :: rest) := by simpa using hp
    rw [List.length_append, List.length_cons] at hfuel
    obtain ⟨q, r, hat, hskip, hnext⟩ := entryAt_of_common hentry hp' rfl
      (show 2 * text.length ≤ fuel by omega)
    obtain ⟨last, hentries, hlast⟩ := flowEntries_of_common hmore hnext
      (show 2 * more.length < fuel by omega) ((entry.1.asYaml, entry.2.asYaml) :: done)
    refine ⟨last, ?_, hlast⟩
    rw [flowEntries_more hat hskip, hentries, List.reverse_cons, List.append_assoc]
    rfl

end

/-! ## Whole texts -/

end Yaml

end AccessPolicy
