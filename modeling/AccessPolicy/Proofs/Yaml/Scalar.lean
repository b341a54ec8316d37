import AccessPolicy.Proofs.Yaml.Common

/-!
# Reading scalars of both formats

What the reader of YAML makes of gaps, of strings in double quotes and of plain words, as far as
both formats write them alike. A run of spaces in quotes is taken at once; nothing is folded, since
no line is broken inside a scalar.

Main results:

* `Place.rest_skip`, `Place.skip_blanks` — gaps are skipped;
* `readQuoted_of_common` — strings are read to their closing quote;
* `readPlain_of_word` — words are read to their end.
-/

namespace AccessPolicy.Yaml

open Json (CommonChar CommonChars Spacing Blanks OuterSpacing standsForItself)

/-! ## Places -/

namespace Place

theorem past_past (p : Place) (m n : Nat) (rest rest' : List Char) :
    (p.past m rest).past n rest' = p.past (m + n) rest' := by
  simp [past, Nat.add_assoc]

theorem next_of_rest {p : Place} {c : Char} {rest : List Char} (hp : p.rest = c :: rest)
    (hc : isBreak c = false) : p.next = p.past 1 rest := by
  rw [next, hp]
  simp [hc]

theorem atMark_of_column {p : Place} (h : p.column ≠ 0) : p.atMark = false := by
  simp [atMark, h]

/-- Marks start with a hyphen or a point. -/
theorem atMark_of_rest {p : Place} {c : Char} {rest : List Char} (hp : p.rest = c :: rest)
    (hc : c ≠ '-' ∧ c ≠ '.') : p.atMark = false := by
  simp [atMark, hp, List.isPrefixOf, hc.1.symm, hc.2.symm]

/-- Whether a text goes on with something that belongs to no gap. -/
def Starts (text : List Char) : Prop :=
  ∀ c ∈ text.head?, isBlank c = false ∧ isBreak c = false ∧ c ≠ '#'

theorem rest_skip_go {inBrackets tabs : Bool} {gap rest : List Char}
    (hgap : ∀ c ∈ gap, c = ' ' ∨ c = '\n' ∨ inBrackets = true ∧ c = '\t')
    (htabs : inBrackets = true → tabs = true) (hrest : Starts rest) (line column offset : Nat) :
    (skip.go inBrackets tabs false (gap ++ rest) line column offset).rest = rest := by
  -- whether tabs are blanks changes behind the first break
  induction gap generalizing tabs line column offset with
  | nil =>
    cases rest with
    | nil => rfl
    | cons c rest =>
      obtain ⟨hblank, hbreak, hcomment⟩ := hrest c rfl
      simp only [isBlank, Bool.or_eq_false_iff, decide_eq_false_iff_not] at hblank
      simp [skip.go, hbreak, hblank, hcomment]
  | cons c gap ih =>
    obtain ⟨hc, hmore⟩ := List.forall_mem_cons.mp hgap
    -- each character of the gap is skipped, and what is behind it by induction
    rw [List.cons_append, skip.go]
    rcases hc with rfl | rfl | ⟨hinside, rfl⟩
    · exact ih hmore htabs ..
    · -- behind a break, brackets alone decide on tabs
      exact ih hmore id ..
    · have htab : tabs = true := htabs hinside
      subst htab
      exact ih hmore htabs ..

/-- In brackets a gap is skipped. -/
theorem rest_skip {p : Place} {gap rest : List Char} (hp : p.rest = gap ++ rest)
    (hgap : Spacing gap) (hrest : Starts rest) : (p.skip true true).rest = rest := by
  have hgap' : ∀ c ∈ gap, c = ' ' ∨ c = '\n' ∨ true = true ∧ c = '\t' := by
    intro c hc
    rcases hgap c hc with h | h | h
    · exact .inl h
    · exact .inr (.inr ⟨rfl, h⟩)
    · exact .inr (.inl h)
  rw [skip, hp]
  exact rest_skip_go hgap' (fun _ => rfl) hrest ..

/-- Blanks are skipped on their line. -/
theorem skip_blanks {p : Place} {blanks rest : List Char} (hp : p.rest = blanks ++ rest)
    (hblanks : Blanks blanks) (hrest : Starts rest) (inBrackets : Bool) :
    p.skip inBrackets true = p.past blanks.length rest := by
  have hgo : ∀ line column offset, skip.go inBrackets true false (blanks ++ rest) line column offset
      = ⟨rest, line, column + blanks.length, offset + blanks.length⟩ := by
    clear hp
    induction blanks with
    | nil =>
      intro line column offset
      cases rest with
      | nil => rfl
      | cons c rest =>
        obtain ⟨hblank, hbreak, hcomment⟩ := hrest c rfl
        simp only [isBlank, Bool.or_eq_false_iff, decide_eq_false_iff_not] at hblank
        simp [skip.go, hbreak, hblank, hcomment]
    | cons c blanks ih =>
      intro line column offset
      obtain ⟨hc, hmore⟩ := List.forall_mem_cons.mp hblanks
      simp only [isBlank, Bool.or_eq_true, decide_eq_true_eq] at hc
      have hbreak : isBreak c = false := by rcases hc with rfl | rfl <;> rfl
      have hstep : skip.go inBrackets true false (c :: blanks ++ rest) line column offset =
          skip.go inBrackets true false (blanks ++ rest) line (column + 1) (offset + 1) := by
        rw [List.cons_append, skip.go]
        simp [hbreak, hc]
      rw [hstep, ih hmore, List.length_cons]
      simp [Nat.add_comm, Nat.add_left_comm]
  rw [skip, hp, hgo]
  rfl

/-- Whether no gap goes on here. -/
def EndsGap (text : List Char) : Prop :=
  ∀ c ∈ text.head?, isBlank c = false ∧ isBreak c = false

/-- A run of spaces on a line is one gap. -/
theorem gap_spaces {p : Place} {n : Nat} {rest : List Char}
    (hp : p.rest = List.replicate n ' ' ++ rest) (hrest : EndsGap rest) (low : Nat) :
    p.gap low = ⟨List.replicate n ' ', [], false, p.past n rest⟩ := by
  have hgo : ∀ blanks line column offset,
      gap.go low blanks [] false (List.replicate n ' ' ++ rest) line column offset =
        ⟨blanks.reverse ++ List.replicate n ' ', [], false,
          ⟨rest, line, column + n, offset + n⟩⟩ := by
    clear hp
    induction n with
    | zero =>
      intro blanks line column offset
      cases rest with
      | nil => simp [gap.go]
      | cons c rest =>
        obtain ⟨hblank, hbreak⟩ := hrest c rfl
        simp [gap.go, hblank, hbreak]
    | succ n ih =>
      intro blanks line column offset
      have hstep : gap.go low blanks [] false (List.replicate (n + 1) ' ' ++ rest) line column
          offset = gap.go low (' ' :: blanks) [] false (List.replicate n ' ' ++ rest) line
            (column + 1) (offset + 1) := rfl
      rw [hstep, ih, List.reverse_cons, List.append_assoc, List.replicate_succ]
      simp [Nat.add_comm, Nat.add_left_comm]
  rw [gap, hp, hgo]
  rfl

/-- Where nothing is indented, no tab is in the way of a gap. -/
theorem gap_of_spacing {p : Place} {spacing rest : List Char} (hp : p.rest = spacing ++ rest)
    (hspacing : Spacing spacing) (hrest : EndsGap rest) :
    (p.gap 0).tabbed = false ∧ (p.gap 0).place.rest = rest ∧
      (p.gap 0).place.offset = p.offset + spacing.length := by
  -- what has been collected does not matter here, only that no tab is reported
  have hgo : ∀ blanks breaks line column offset,
      ∃ g, gap.go 0 blanks breaks false (spacing ++ rest) line column offset = g ∧
        g.tabbed = false ∧ g.place.rest = rest ∧ g.place.offset = offset + spacing.length := by
    clear hp
    induction spacing with
    | nil =>
      intro blanks breaks line column offset
      cases rest with
      | nil => exact ⟨_, rfl, rfl, rfl, rfl⟩
      | cons c rest =>
        obtain ⟨hblank, hbreak⟩ := hrest c rfl
        simp [gap.go, hblank, hbreak]
    | cons c spacing ih =>
      intro blanks breaks line column offset
      obtain ⟨hc, hmore⟩ := List.forall_mem_cons.mp hspacing
      obtain ⟨blanks', breaks', line', column', hstep⟩ : ∃ blanks' breaks' line' column',
          gap.go 0 blanks breaks false (c :: spacing ++ rest) line column offset =
            gap.go 0 blanks' breaks' false (spacing ++ rest) line' column' (offset + 1) := by
        rw [List.cons_append, gap.go]
        rcases hc with rfl | rfl | rfl
        · cases breaks <;> exact ⟨_, _, _, _, rfl⟩
        · cases breaks <;> exact ⟨_, _, _, _, rfl⟩
        · exact ⟨_, _, _, _, rfl⟩
      obtain ⟨g, hg, htabbed, hplace, hoffset⟩ :=
        ih hmore blanks' breaks' line' column' (offset + 1)
      refine ⟨g, hstep.trans hg, htabbed, hplace, ?_⟩
      rw [hoffset, List.length_cons]
      omega
  obtain ⟨g, hg, h⟩ := hgo [] [] p.line p.column p.offset
  rw [gap, hp, hg]
  exact h

end Place

/-! ## Strings in double quotes -/

/-- The first characters of a text that are spaces written as they are, with the rest. -/
theorem exists_spaces {cs text : List Char} (h : CommonChars cs text) :
    ∃ n cs' text', cs = List.replicate n ' ' ++ cs' ∧ text = List.replicate n ' ' ++ text' ∧
      CommonChars cs' text' ∧ ∀ rest, Place.EndsGap (text' ++ '"' :: rest) := by
  induction h with
  | nil => exact ⟨0, [], [], rfl, rfl, .nil, by simp [Place.EndsGap, isBlank, isBreak]⟩
  | @cons c cs text more hc hcs ih =>
    cases hc with
    | plain h =>
      -- a space goes with those behind it, and an escaped one is none of them
      by_cases hspace : c = ' '
      · obtain ⟨n, cs', text', rfl, rfl, hcs', hstop⟩ := ih
        exact ⟨n + 1, cs', text', by rw [hspace]; rfl, by rw [hspace]; rfl, hcs', hstop⟩
      · refine ⟨0, _, _, rfl, rfl, .cons (.plain h) hcs, ?_⟩
        simp only [standsForItself, Json.isPlain, Bool.and_eq_true, decide_eq_true_eq] at h
        have htab : c ≠ '\t' := by
          rintro rfl
          exact absurd h.1.1.1.1.1 (by decide)
        simp_all [Place.EndsGap, isBlank]
    | short h =>
      exact ⟨0, _, _, rfl, rfl, .cons (.short h) hcs, by simp [Place.EndsGap, isBlank, isBreak]⟩
    | unit h =>
      exact ⟨0, _, _, rfl, rfl, .cons (.unit h) hcs, by simp [Place.EndsGap, isBlank, isBreak]⟩

theorem shortEscape?_of_mem {letter c : Char} (h : (letter, c) ∈ Json.shortEscapes) :
    escapeDigits? letter = none ∧ shortEscape? letter = some c ∧ isBreak letter = false := by
  have hall : ∀ p ∈ Json.shortEscapes, escapeDigits? p.1 = none ∧
      shortEscape? p.1 = some p.2 ∧ isBreak p.1 = false := by decide
  exact hall _ h

theorem scalar?_toNat (c : Char) : Text.scalar? c.toNat = some c := by
  have hvalid : c.toNat.isValidChar := c.valid
  rw [Text.scalar?, dif_pos hvalid]
  rfl

theorem CommonChar.plain_or_escape {c : Char} {text : List Char} (h : CommonChar c text) :
    text = [c] ∧ standsForItself c ∨ ∃ escape, text = '\\' :: escape := by
  cases h with
  | plain h => exact .inl ⟨rfl, h⟩
  | short => exact .inr ⟨_, rfl⟩
  | unit => exact .inr ⟨_, rfl⟩

/-- An escape is read as its character, whichever of both formats it is for. -/
theorem readEscape_of_common {c : Char} {escape : List Char} (h : CommonChar c ('\\' :: escape))
    {p : Place} {rest : List Char} (hp : p.rest = escape ++ rest) :
    readEscape p = some (c, p.past escape.length rest) ∧
      (escape ++ rest).head?.any isBreak = false := by
  generalize htext : '\\' :: escape = text at h
  cases h with
  | plain h =>
    obtain ⟨rfl, -⟩ := List.cons_eq_cons.mp htext
    exact absurd h (by decide)
  | @short letter h =>
    obtain ⟨-, rfl⟩ := List.cons_eq_cons.mp htext
    obtain ⟨hdigits, hshort, hbreak⟩ := shortEscape?_of_mem h
    have hnext : p.next = p.past 1 rest := Place.next_of_rest hp hbreak
    refine ⟨?_, by simp [hbreak]⟩
    rw [readEscape, hp]
    simp [hdigits, hshort, hnext]
  | unit h =>
    obtain ⟨-, rfl⟩ := List.cons_eq_cons.mp htext
    refine ⟨?_, by simp [isBreak]⟩
    rw [readEscape, hp]
    simp [escapeDigits?, h, scalar?_toNat]

theorem readQuoted_escape {p q : Place} {c : Char} {rest : List Char} (hmark : p.atMark = false)
    (hp : p.rest = '\\' :: rest) (hbreak : rest.head?.any isBreak = false)
    (hread : readEscape p.next = some (c, q)) (fuel : Nat) :
    readQuoted true (fuel + 1) p =
      (readQuoted true fuel q).map fun (text, q) => (c :: text, q) := by
  rw [readQuoted, hmark, hp]
  cases hmore : readQuoted true fuel q <;> simp [hbreak, hread, hmore]

theorem readQuoted_spaces {p : Place} {rest : List Char} (hmark : p.atMark = false)
    (hp : p.rest = ' ' :: rest) (fuel : Nat) :
    readQuoted true (fuel + 1) p = (readQuoted true fuel (p.gap 0).place).map fun (text, q) =>
      ((p.gap 0).text ++ text, q) := by
  rw [readQuoted, hmark, hp]
  rfl

theorem readQuoted_plain {p : Place} {c : Char} {rest : List Char} (hmark : p.atMark = false)
    (hp : p.rest = c :: rest) (hquote : c ≠ '"') (hescape : c ≠ '\\') (hblank : isBlank c = false)
    (hbreak : isBreak c = false) (fuel : Nat) :
    readQuoted true (fuel + 1) p =
      (readQuoted true fuel p.next).map fun (text, q) => (c :: text, q) := by
  rw [readQuoted, hmark, hp]
  simp [hquote, hescape, hblank, hbreak]

/-- A string is read up to its closing quote. -/
theorem readQuoted_of_common {cs text : List Char} (h : CommonChars cs text) {p : Place}
    {rest : List Char} (hp : p.rest = text ++ '"' :: rest) (hcolumn : p.column ≠ 0) {fuel : Nat}
    (hfuel : text.length < fuel) :
    readQuoted true fuel p = some (cs, p.past (text.length + 1) rest) := by
  -- on fuel, since a run of spaces is taken at once
  induction fuel generalizing cs text p with
  | zero => omega
  | succ fuel ih =>
    have hmark : p.atMark = false := Place.atMark_of_column hcolumn
    -- what is left behind some characters of the text
    have hbehind {cs' text' : List Char} {n : Nat} (hcs' : CommonChars cs' text')
        (hlength : text.length = n + text'.length) (hn : n ≠ 0) :
        readQuoted true fuel (p.past n (text' ++ '"' :: rest)) =
          some (cs', p.past (text.length + 1) rest) := by
      have hcolumn' : (p.past n (text' ++ '"' :: rest)).column ≠ 0 := by
        simp [Place.past, hn]
      rw [ih hcs' rfl hcolumn' (by omega), Place.past_past, hlength, Nat.add_assoc]
    obtain ⟨n, cs', text', rfl, rfl, hcs', hstop⟩ := exists_spaces h
    cases n with
    | succ n =>
      -- spaces come first: they are one gap without breaks, which is kept as it is
      have hgap := Place.gap_spaces (by rw [hp, List.append_assoc]) (hstop rest) 0
      rw [readQuoted_spaces hmark hp, hgap]
      simp only
      rw [hbehind hcs' (by simp) (Nat.succ_ne_zero n)]
      rfl
    | zero =>
      cases hcs' with
      | nil =>
        -- the closing quote
        have hnext : p.next = p.past 1 rest := Place.next_of_rest hp rfl
        rw [readQuoted, hmark, hp]
        simp [hnext]
      | @cons c cs text more hc hcs =>
        rcases CommonChar.plain_or_escape hc with ⟨rfl, hplain⟩ | ⟨escape, rfl⟩
        · -- no space, since these have been taken together
          obtain ⟨hblank, hbreak⟩ := hstop rest c rfl
          simp only [standsForItself, Json.isPlain, Bool.and_eq_true, decide_eq_true_eq] at hplain
          have hnext : p.next = p.past 1 (more ++ '"' :: rest) := Place.next_of_rest hp hbreak
          rw [readQuoted_plain hmark hp hplain.1.1.1.1.2 hplain.1.1.1.2 hblank hbreak, hnext,
            hbehind hcs (by simp [Nat.add_comm]) Nat.one_ne_zero]
          rfl
        · have hnext : p.next = p.past 1 (escape ++ (more ++ '"' :: rest)) :=
            Place.next_of_rest (by simpa using hp) rfl
          obtain ⟨hread, hbreak⟩ := readEscape_of_common hc (p := p.next) (by rw [hnext]; rfl)
          rw [hnext, Place.past_past] at hread
          rw [readQuoted_escape hmark (by simpa using hp) hbreak (by rw [hnext]; exact hread),
            hbehind hcs (by simp; omega) (by omega)]
          rfl

/-! ## Words -/

/-- Whether a character is part of a word wherever it stands in the word. -/
def isWordSign (c : Char) : Bool :=
  !isBlank c && !isBreak c && c ≠ ':' && !isFlowSign c

/-- The signs behind the parts of a collection. -/
def isDivider (c : Char) : Bool :=
  c = ',' || c = ']' || c = '\x7d'

/-- Whether a scalar in brackets ends here: behind a gap comes a sign of the collection, or the end
of the text. -/
inductive Closes : List Char → Prop where
  | mk {spacing rest : List Char} (hspacing : Spacing spacing)
    (hrest : ∀ c ∈ rest.head?, isDivider c) : Closes (spacing ++ rest)

theorem eq_of_isDivider {c : Char} (h : isDivider c) : c = ',' ∨ c = ']' ∨ c = '\x7d' := by
  simpa [isDivider, or_assoc] using h

theorem plainWord_of_word {word rest : List Char} (hword : ∀ c ∈ word, isWordSign c)
    (hrest : ∀ c ∈ rest.head?, isBlank c ∨ isBreak c ∨ isFlowSign c) :
    plainWord true (word ++ rest) = some (word, rest) := by
  induction word with
  | nil =>
    cases rest with
    | nil => rfl
    | cons c rest =>
      have hc := hrest c rfl
      rw [List.nil_append, plainWord]
      rcases hc with hblank | hbreak | hsign
      · simp [hblank]
      · simp [hbreak]
      · simp [hsign]
  | cons c word ih =>
    obtain ⟨hc, hword⟩ := List.forall_mem_cons.mp hword
    simp only [isWordSign, Bool.and_eq_true, Bool.not_eq_true', decide_eq_true_eq] at hc
    obtain ⟨⟨⟨hblank, hbreak⟩, hcolon⟩, hsign⟩ := hc
    rw [List.cons_append, plainWord]
    simp [hblank, hbreak, hcolon, hsign, ih hword]

/-- A word is all of a scalar if nothing stands behind it, or no other word. -/
theorem plainWords_of_word {p : Place} {word rest : List Char} {fuel : Nat}
    (hword : plainWord true p.rest = some (word, rest)) {gap : Place.Gap}
    (hgap : (p.past word.length rest).gap 0 = gap) (htabbed : gap.tabbed = false)
    (hlast : gap.place.offset = p.offset + word.length ∨
      ∃ last, plainWords true 0 fuel gap.place = some ([], last)) :
    plainWords true 0 (fuel + 1) p = some (word, p.past word.length rest) := by
  rw [plainWords, hword]
  simp only [hgap, htabbed, Option.bind_eq_bind, Option.bind_some, Bool.false_eq_true, if_false]
  split
  · rfl
  · next hmore =>
    -- something stands behind the gap, but it makes no word
    rcases hlast with hend | ⟨last, hlast⟩
    · exact absurd (by simp [Place.past, hend]) hmore
    · rw [hlast]
      rfl

/-- A single word is a scalar. -/
theorem readPlain_of_word {word rest : List Char} {p : Place} (hp : p.rest = word ++ rest)
    (hne : word ≠ []) (hword : ∀ c ∈ word, isWordSign c) (hrest : Closes rest) :
    readPlain true 0 p = some (.scalar true (String.ofList word), p.past word.length rest) := by
  obtain ⟨fuel, hfuel⟩ : ∃ fuel, p.rest.length + 1 = fuel + 1 + 1 := by
    have hpos := List.length_pos_iff.mpr hne
    refine ⟨p.rest.length - 1, ?_⟩
    rw [hp, List.length_append]
    omega
  obtain @⟨spacing, behind, hspacing, hbehind⟩ := hrest
  have hends : ∀ c ∈ behind.head?, isBlank c = false ∧ isBreak c = false ∧ isFlowSign c = true := by
    intro c hc
    rcases eq_of_isDivider (hbehind c hc) with rfl | rfl | rfl <;> decide
  -- so the word ends where the gap starts, or at the sign if there is no gap
  have hfirst : ∀ c ∈ (spacing ++ behind).head?, isBlank c ∨ isBreak c ∨ isFlowSign c := by
    cases spacing with
    | nil => exact fun c hc => .inr (.inr (hends c hc).2.2)
    | cons c spacing =>
      intro d hd
      obtain rfl : c = d := by simpa using hd
      rcases hspacing c List.mem_cons_self with rfl | rfl | rfl <;> decide
  have hstop : Place.EndsGap behind := fun c hc => ⟨(hends c hc).1, (hends c hc).2.1⟩
  have hread : plainWord true p.rest = some (word, spacing ++ behind) := by
    rw [hp]
    exact plainWord_of_word hword hfirst
  obtain ⟨htabbed, hplace, -⟩ := Place.gap_of_spacing
    (p := p.past word.length (spacing ++ behind)) rfl hspacing hstop
  have hwords : plainWords true 0 (fuel + 1 + 1) p =
      some (word, p.past word.length (spacing ++ behind)) := by
    -- in search of another word the scalar comes upon what closes it
    refine plainWords_of_word hread rfl htabbed (.inr ?_)
    generalize hq : (Place.gap 0 (p.past word.length (spacing ++ behind))).place = q at hplace
    have hnone : plainWord true q.rest = some ([], behind) := by
      rw [hplace]
      exact plainWord_of_word (List.forall_mem_nil _) fun c hc => .inr (.inr (hends c hc).2.2)
    have hrest : (q.past 0 behind).rest = [] ++ behind := rfl
    obtain ⟨htabbed', -, hoffset⟩ := Place.gap_of_spacing hrest (List.forall_mem_nil _) hstop
    exact ⟨_, plainWords_of_word hnone rfl htabbed' (.inl hoffset)⟩
  rw [readPlain, hfuel, hwords]
  rfl

end AccessPolicy.Yaml
