import AccessPolicy.Pattern.Reader
import Mathlib.Data.List.TakeWhile

/-!
# Readers keep to their own text

A pattern that has to match whole values is read between `\A(?:` and `)\z`. This module shows that
no reader of a part of a pattern is disturbed by the characters behind it: where it succeeds on the
pattern as it stands, it reads the same part when the closing `)\z` follows, and leaves the closing
over. The one exception is a comment of verbose mode at the very end of the pattern, which takes in
the closing as well; then the readers see no difference at all between the two texts.

Main results, each for a reader that starts on a text and on its extension:

* `sameReading_readEscape`, `sameReading_readBracket`, `sameReading_readGroupStart`,
  `sameReading_readBounds` — the readers of the parts of a pattern;
* `sameReading_readMark` — the reader of one mark, of which a whole pattern is made.
-/

namespace AccessPolicy.Pattern

/-! ## Texts and their extensions -/

/-- What follows the text of a pattern that is tied to both ends of the value. -/
def closing : List Char := [')', '\\', 'z']

/-- `text'` is `text` with the closing behind it, or `text` alone where a comment has taken in the
closing. -/
def Extends (text text' : List Char) : Prop :=
  text' = text ++ closing ∨ text' = text

theorem Extends.refl (text : List Char) : Extends text text := .inr rfl

theorem Extends.append (text : List Char) : Extends text (text ++ closing) := .inl rfl

theorem Extends.cons {c : Char} {rest text' : List Char} (h : Extends (c :: rest) text') :
    ∃ rest', text' = c :: rest' ∧ Extends rest rest' := by
  rcases h with rfl | rfl
  · exact ⟨rest ++ closing, rfl, .append rest⟩
  · exact ⟨rest, rfl, .refl rest⟩

/-- A character that is no closing parenthesis stands at the start of a text if it stands at the
start of its extension. -/
theorem Extends.of_cons {c : Char} {text rest' : List Char} (h : Extends text (c :: rest'))
    (hc : c ≠ ')') : ∃ rest, text = c :: rest ∧ Extends rest rest' := by
  cases text with
  | nil =>
    -- only the closing is left to hold the character
    rcases h with h | h
    · exact absurd (List.cons.inj h).1 hc
    · exact absurd h (List.cons_ne_nil _ _)
  | cons d rest =>
    obtain ⟨left, heq, hleft⟩ := h.cons
    obtain ⟨rfl, rfl⟩ := List.cons.inj heq
    exact ⟨rest, rfl, hleft⟩

/-- Where a text does not start with some characters, none of them a closing parenthesis, neither
does its extension. -/
theorem Extends.ne_append {text text' rest' : List Char} (front : List Char)
    (h : Extends text text') (hfront : ')' ∉ front) (hnot : ∀ rest, text ≠ front ++ rest) :
    text' ≠ front ++ rest' := by
  induction front generalizing text text' with
  | nil => exact fun _ => hnot text rfl
  | cons c front ih =>
    rintro rfl
    rw [List.mem_cons, not_or] at hfront
    obtain ⟨rest, rfl, hrest⟩ := h.of_cons (Ne.symm hfront.1)
    refine ih hrest hfront.2 (fun left hleft => ?_) rfl
    exact hnot left (by rw [hleft, List.cons_append])

theorem Extends.of_nil {text : List Char} (h : Extends text []) : text = [] := by
  rcases h with h | h
  · exact (List.append_eq_nil_iff.mp h.symm).1
  · exact h.symm

theorem Extends.length_le {text text' : List Char} (h : Extends text text') :
    text.length ≤ text'.length := by
  rcases h with rfl | rfl
  · rw [List.length_append]
    omega
  · exact Nat.le_refl _

theorem Extends.nil {text' : List Char} (h : Extends [] text') :
    text' = closing ∨ text' = [] := h

/-- Two results of one reader: where the first succeeds, the second is the same part with the rest
extended. -/
def SameReading {α : Type} (result result' : Option (α × List Char)) : Prop :=
  ∀ a rest, result = some (a, rest) → ∃ rest', result' = some (a, rest') ∧ Extends rest rest'

section SameReading

variable {α β : Type} {result result' : Option (α × List Char)}

theorem SameReading.refl (result : Option (α × List Char)) : SameReading result result :=
  fun _ rest h => ⟨rest, h, .refl rest⟩

theorem SameReading.none : SameReading none result' := by
  intro a rest h
  simp at h

theorem SameReading.some (a : α) {rest rest' : List Char} (h : Extends rest rest') :
    SameReading (some (a, rest)) (some (a, rest')) := by
  intro b left hb
  obtain ⟨rfl, rfl⟩ := Prod.mk.injEq .. ▸ Option.some.inj hb
  exact ⟨rest', rfl, h⟩

theorem SameReading.bind {f f' : α × List Char → Option (β × List Char)}
    (h : SameReading result result')
    (hf : ∀ a rest rest', Extends rest rest' → SameReading (f (a, rest)) (f' (a, rest'))) :
    SameReading (result.bind f) (result'.bind f') := by
  intro b left hb
  obtain ⟨⟨a, rest⟩, ha, hfa⟩ := Option.bind_eq_some_iff.mp hb
  obtain ⟨rest', ha', hrest⟩ := h a rest ha
  obtain ⟨left', hb', hleft⟩ := hf a rest rest' hrest b left hfa
  exact ⟨left', by rw [ha', Option.bind_some, hb'], hleft⟩

theorem SameReading.map {f : α → β} (h : SameReading result result') :
    SameReading (result.map fun reading => (f reading.1, reading.2))
      (result'.map fun reading => (f reading.1, reading.2)) := by
  intro b left hb
  obtain ⟨⟨a, rest⟩, ha, hfa⟩ := Option.map_eq_some_iff.mp hb
  obtain ⟨rfl, rfl⟩ := Prod.mk.injEq .. ▸ hfa
  obtain ⟨rest', ha', hrest⟩ := h a rest ha
  exact ⟨rest', by rw [ha', Option.map_some], hrest⟩

end SameReading

/-! ## Blanks -/

theorem isBlank_closeParen : isBlank ')' = false := by decide +kernel

theorem isBlank_hash : isBlank '#' = false := by decide +kernel

theorem skipVerbose_append (inComment : Bool) (text : List Char) :
    Extends (skipVerbose inComment text) (skipVerbose inComment (text ++ closing)) := by
  induction text generalizing inComment with
  | nil =>
    cases inComment with
    | true => exact .inr (by decide) -- the comment takes in the closing
    | false => exact .inl (by simp [closing, skipVerbose, isBlank_closeParen])
  | cons c rest ih =>
    cases inComment with
    | true => exact ih (c != '\n')
    | false =>
      simp only [skipVerbose, List.cons_append]
      split
      · exact ih false
      · split
        · exact ih true
        · exact .append (c :: rest)

theorem Extends.skipBlank {text text' : List Char} (h : Extends text text') (verbose : Bool) :
    Extends (Pattern.skipBlank verbose text) (Pattern.skipBlank verbose text') := by
  rcases h with rfl | rfl
  · cases verbose with
    | true => exact skipVerbose_append false text
    | false => exact .append text
  · exact .refl _

theorem length_skipVerbose_le (inComment : Bool) (text : List Char) :
    (skipVerbose inComment text).length ≤ text.length := by
  induction text generalizing inComment with
  | nil => cases inComment <;> simp [skipVerbose]
  | cons c rest ih =>
    have hTrue := ih true
    have hFalse := ih false
    have hNext := ih (c != '\n')
    cases inComment with
    | true =>
      simp only [skipVerbose, List.length_cons]
      omega
    | false =>
      simp only [skipVerbose]
      split
      · simp only [List.length_cons]
        omega
      · split <;> simp only [List.length_cons] <;> omega

theorem length_skipBlank_le (verbose : Bool) (text : List Char) :
    (skipBlank verbose text).length ≤ text.length := by
  cases verbose with
  | true => exact length_skipVerbose_le false text
  | false => exact Nat.le_refl _

/-- Dropping white space is not stopped or helped by the closing. -/
theorem Extends.dropBlank {text text' : List Char} (h : Extends text text') :
    Extends (text.dropWhile isBlank) (text'.dropWhile isBlank) := by
  rcases h with rfl | rfl
  · induction text with
    | nil => exact .inl (by simp [closing, isBlank_closeParen])
    | cons c rest ih =>
      rw [List.cons_append, List.dropWhile_cons, List.dropWhile_cons]
      split
      · exact ih
      · exact .append (c :: rest)
  · exact .refl _

/-! ## Runs of characters -/

theorem spanLoose_go_nil {verbose : Bool} {p : Char → Bool} {n : Nat} {text : List Char}
    (h : Extends [] text) (hn : text.length ≤ n) (hp : p ')' = false) :
    ∃ rest, spanLoose.go verbose p n text = ([], rest) ∧ Extends [] rest := by
  refine ⟨text, ?_, h⟩
  rcases h.nil with rfl | rfl
  · obtain ⟨m, rfl⟩ : ∃ m, n = m + 1 := ⟨n - 1, by simp [closing] at hn; omega⟩
    simp [spanLoose.go, closing, hp]
  · cases n <;> rfl

/-- The induction is on the fuel of the shorter run: the longer one may have more left. -/
theorem spanLoose_go_extends {verbose : Bool} {p : Char → Bool} (n : Nat) :
    ∀ (n' : Nat) {text text' run rest : List Char}, Extends text text' →
      text.length ≤ n → text'.length ≤ n' → spanLoose.go verbose p n text = (run, rest) →
      (rest = [] → p ')' = false) →
      ∃ rest', spanLoose.go verbose p n' text' = (run, rest') ∧ Extends rest rest' := by
  induction n with
  | zero =>
    intro n' text text' run rest h hn hn' hgo hp
    obtain rfl : text = [] := List.length_eq_zero_iff.mp (Nat.le_zero.mp hn)
    obtain ⟨rfl, rfl⟩ : [] = run ∧ [] = rest := by simpa [spanLoose.go] using hgo
    exact spanLoose_go_nil h hn' (hp rfl)
  | succ n ih =>
    intro n' text text' run rest h hn hn' hgo hp
    cases text with
    | nil =>
      obtain ⟨rfl, rfl⟩ : [] = run ∧ [] = rest := by simpa [spanLoose.go] using hgo
      exact spanLoose_go_nil h hn' (hp rfl)
    | cons c tail =>
      obtain ⟨tail', rfl, htail⟩ := h.cons
      obtain ⟨m, rfl⟩ : ∃ m, n' = m + 1 := ⟨n' - 1, by simp at hn'; omega⟩
      simp only [spanLoose.go] at hgo ⊢
      split at hgo
      · -- the character belongs to the run, and the blanks behind it are skipped
        next hpc =>
        have hskip := htail.skipBlank verbose
        have hlen := length_skipBlank_le verbose tail
        have hlen' := length_skipBlank_le verbose tail'
        rw [List.length_cons] at hn hn'
        rcases hrun : spanLoose.go verbose p n (skipBlank verbose tail) with ⟨run₁, rest₁⟩
        rw [hrun] at hgo
        obtain ⟨rfl, rfl⟩ : c :: run₁ = run ∧ rest₁ = rest := by simpa using hgo
        obtain ⟨rest', hrun', hrest⟩ := ih m hskip (by omega) (by omega) hrun hp
        rw [if_pos hpc, hrun']
        exact ⟨rest', rfl, hrest⟩
      · next hpc =>
        obtain ⟨rfl, rfl⟩ : [] = run ∧ c :: tail = rest := by simpa using hgo
        rw [if_neg hpc]
        exact ⟨c :: tail', rfl, h⟩

/-- A run that ends inside the text, or that no closing parenthesis could prolong, is the same in
the extended text. -/
theorem spanLoose_extends {verbose : Bool} {p : Char → Bool} {text text' run rest : List Char}
    (h : Extends text text') (hspan : spanLoose verbose p text = (run, rest))
    (hp : rest = [] → p ')' = false) :
    ∃ rest', spanLoose verbose p text' = (run, rest') ∧ Extends rest rest' :=
  spanLoose_go_extends text.length text'.length h (Nat.le_refl _) (Nat.le_refl _) hspan hp

/-- Taking characters up to one that is there does not reach the closing. -/
theorem takeWhile_append_closing {p : Char → Bool} {text : List Char} {c : Char}
    {rest : List Char} (h : text.drop (text.takeWhile p).length = c :: rest) :
    (text ++ closing).takeWhile p = text.takeWhile p ∧
      (text ++ closing).drop (text.takeWhile p).length = c :: (rest ++ closing) := by
  induction text with
  | nil => simp at h
  | cons d tail ih =>
    rw [List.takeWhile_cons] at h
    rw [List.cons_append, List.takeWhile_cons, List.takeWhile_cons]
    split at h
    · next hd =>
      -- what is found behind the first character is found behind it in both texts
      have hboth := ih h
      rw [if_pos hd, if_pos hd]
      exact ⟨by rw [hboth.1], hboth.2⟩
    · next hd =>
      obtain ⟨rfl, rfl⟩ : d = c ∧ tail = rest := by simpa using h
      rw [if_neg hd, if_neg hd]
      exact ⟨rfl, rfl⟩

/-- A character that the closing does not hold is not found in the extended text if it is not found
in the text. -/
theorem drop_append_closing {p : Char → Bool} {text : List Char}
    (hp : ∀ c ∈ closing, p c = true) (h : text.drop (text.takeWhile p).length = []) :
    (text ++ closing).drop ((text ++ closing).takeWhile p).length = [] := by
  induction text with
  | nil =>
    rw [List.nil_append, List.takeWhile_eq_self_iff.mpr hp, List.drop_length]
  | cons c tail ih =>
    rw [List.takeWhile_cons] at h
    rw [List.cons_append, List.takeWhile_cons]
    split at h
    · next hc =>
      rw [if_pos hc]
      exact ih h
    · simp at h

/-! ## Numbers and escapes -/

theorem sameReading_readDecimal (verbose : Bool) {text text' : List Char}
    (h : Extends text text') :
    SameReading (readDecimal verbose text) (readDecimal verbose text') := by
  -- digits, and blanks on both sides of them
  rcases hdigits : spanLoose verbose Char.isDigit (text.dropWhile isBlank) with ⟨digits, rest⟩
  obtain ⟨rest', hdigits', hrest⟩ := spanLoose_extends h.dropBlank hdigits fun _ => by decide
  rcases hblank : spanLoose verbose isBlank rest with ⟨blank, left⟩
  obtain ⟨left', hblank', hleft⟩ := spanLoose_extends hrest hblank fun _ => isBlank_closeParen
  simp only [readDecimal, hdigits, hdigits', hblank, hblank']
  split
  · exact .none
  · exact .some _ hleft

theorem sameReading_readHexDigits (verbose : Bool) (count n : Nat) {text text' : List Char}
    (h : Extends text text') :
    SameReading (readHexDigits verbose count n text) (readHexDigits verbose count n text') := by
  induction count generalizing n text text' with
  | zero => exact .some n h
  | succ count ih =>
    cases text with
    | nil => exact .none
    | cons c rest =>
      obtain ⟨rest', rfl, hrest⟩ := h.cons
      simp only [readHexDigits]
      cases Text.hexDigit? c with
      | none => exact .none
      | some d => exact ih _ (hrest.skipBlank verbose)

theorem sameReading_readHex (verbose : Bool) (count : Nat) {text text' : List Char}
    (h : Extends text text') :
    SameReading (readHex verbose count text) (readHex verbose count text') := by
  have hskip := h.skipBlank verbose
  unfold readHex
  generalize skipBlank verbose text = s at hskip ⊢
  generalize skipBlank verbose text' = s' at hskip ⊢
  split
  · -- digits in braces end at a closing brace of the text itself
    next rest =>
    obtain ⟨rest', rfl, hrest⟩ := hskip.cons
    rcases hdigits : spanLoose verbose (· != '\x7d') (skipBlank verbose rest) with ⟨digits, left⟩
    dsimp only
    split
    · next left =>
      obtain ⟨left', hdigits', hleft⟩ :=
        spanLoose_extends (hrest.skipBlank verbose) hdigits (by simp)
      obtain ⟨after', rfl, hafter⟩ := hleft.cons
      simp only [hdigits']
      split
      · exact .none
      · cases Text.hexValue? digits with
        | none => exact .none
        | some n =>
          cases hc : Text.scalar? n with
          | none => simp [hc, SameReading.none]
          | some c => simpa [hc] using SameReading.some _ (hafter.skipBlank verbose)
    · exact .none
  · next hbrace =>
    split
    · exact absurd rfl (hskip.ne_append ['\x7b'] (by decide) hbrace)
    · refine .bind (sameReading_readHexDigits verbose count 0 hskip) fun n rest rest' hrest => ?_
      cases hc : Text.scalar? n with
      | none => simp [hc, SameReading.none]
      | some c => simpa [hc] using SameReading.some _ hrest

theorem sameReading_readProperty (verbose negated : Bool) {text text' : List Char}
    (h : Extends text text') :
    SameReading (readProperty verbose negated text) (readProperty verbose negated text') := by
  have hskip := h.skipBlank verbose
  unfold readProperty
  generalize skipBlank verbose text = s at hskip ⊢
  generalize skipBlank verbose text' = s' at hskip ⊢
  split
  · exact .none
  · next rest =>
    obtain ⟨rest', rfl, hrest⟩ := hskip.cons
    rcases hname : spanLoose verbose (· != '\x7d') (skipBlank verbose rest) with ⟨name, left⟩
    dsimp only
    split
    · next left =>
      obtain ⟨left', hname', hleft⟩ :=
        spanLoose_extends (hrest.skipBlank verbose) hname (by simp)
      obtain ⟨after', rfl, hafter⟩ := hleft.cons
      simp only [hname']
      exact .some _ hafter
    · exact .none
  · exact .none
  · -- a property of one letter
    next c rest hbrace hslash =>
    obtain ⟨rest', rfl, hrest⟩ := hskip.cons
    split
    · next heq => simp at heq
    · next heq => exact absurd (List.cons.inj heq).1 (by simpa using hbrace)
    · next heq => exact absurd (List.cons.inj heq).1 (by simpa using hslash)
    · next heq =>
      obtain ⟨rfl, rfl⟩ := List.cons.inj heq
      exact .some _ (hrest.skipBlank verbose)

theorem sameReading_readBoundary (verbose : Bool) {text text' : List Char}
    (h : Extends text text') :
    SameReading (readBoundary verbose text) (readBoundary verbose text') := by
  -- only a brace makes more of the escape than a plain boundary
  by_cases hbrace : ∃ rest, text = '\x7b' :: rest
  · obtain ⟨rest, rfl⟩ := hbrace
    obtain ⟨rest', rfl, hrest⟩ := h.cons
    have hskip := hrest.skipBlank verbose
    rcases hs : skipBlank verbose rest with _ | ⟨c, inner⟩
    · -- nothing is left behind the brace, which the text alone already refuses
      simp only [readBoundary, hs]
      exact .none
    rw [hs] at hskip
    obtain ⟨inner', hs', hinner⟩ := hskip.cons
    rw [hs'] at hskip
    simp only [readBoundary, hs, hs']
    split
    · rcases hname : spanLoose verbose (fun c => c.isAlpha || decide (c = '-')) (c :: inner)
        with ⟨name, left⟩
      simp only
      split
      · next left =>
        obtain ⟨left', hname', hleft⟩ := spanLoose_extends hskip hname (by simp)
        obtain ⟨after', rfl, hafter⟩ := hleft.cons
        simp only [hname']
        split
        · exact .some _ hafter
        · exact .some _ hafter
        · exact .some _ hafter
        · exact .some _ hafter
        · exact .none
      · exact .none
    · exact .some _ h
  · unfold readBoundary
    dsimp only
    split
    · exact absurd ⟨_, rfl⟩ hbrace
    · split
      · obtain ⟨rest, hs, -⟩ := h.of_cons (by decide)
        exact absurd ⟨rest, hs⟩ hbrace
      · exact .some _ h

theorem sameReading_readEscape (verbose : Bool) {text text' : List Char}
    (h : Extends text text') :
    SameReading (readEscape verbose text) (readEscape verbose text') := by
  cases text with
  | nil => exact .none
  | cons c rest =>
    obtain ⟨rest', rfl, hrest⟩ := h.cons
    unfold readEscape
    -- most escapes are one character long
    split
    case h_1 => exact .none
    case h_25 heq =>
      obtain ⟨rfl, rfl⟩ := List.cons.inj heq
      simp only [*]
      split
      · exact .some _ hrest
      · exact .none
    all_goals
      next heq =>
      obtain ⟨rfl, rfl⟩ := List.cons.inj heq
      first
      | exact .some _ hrest
      | exact sameReading_readHex verbose _ hrest
      | exact sameReading_readProperty verbose _ hrest
      | exact sameReading_readBoundary verbose hrest

/-! ## Bracketed classes -/

theorem readNegation_extends {verbose negated : Bool} {text text' rest : List Char}
    (h : Extends text text') (hread : readNegation verbose text = (negated, rest)) :
    ∃ rest', readNegation verbose text' = (negated, rest') ∧ Extends rest rest' := by
  have hskip := h.skipBlank verbose
  unfold readNegation at hread ⊢
  generalize skipBlank verbose text = s at hskip hread
  generalize skipBlank verbose text' = s' at hskip ⊢
  split at hread
  · obtain ⟨after', rfl, hafter⟩ := hskip.cons
    obtain ⟨rfl, rfl⟩ := Prod.mk.inj hread
    exact ⟨_, rfl, hafter.skipBlank verbose⟩
  · next hcaret =>
    obtain ⟨rfl, rfl⟩ := Prod.mk.inj hread
    split
    · exact absurd rfl (hskip.ne_append ['^'] (by decide) hcaret)
    · exact ⟨_, rfl, hskip⟩

theorem readClassStart_extends {verbose negated : Bool} {text text' rest : List Char}
    {items : List ClassItem} (h : Extends text text')
    (hread : readClassStart verbose text = (negated, items, rest)) :
    ∃ rest', readClassStart verbose text' = (negated, items, rest') ∧ Extends rest rest' := by
  rcases hsign : readNegation verbose text with ⟨sign, s⟩
  obtain ⟨s', hsign', hs⟩ := readNegation_extends h hsign
  -- hyphens, or a closing bracket that stands for itself
  rcases hspan : spanLoose verbose (· = '-') s with ⟨hyphens, left⟩
  obtain ⟨left', hspan', hleft⟩ := spanLoose_extends hs hspan fun _ => by decide
  simp only [readClassStart, hsign, hsign', hspan, hspan'] at hread ⊢
  split at hread
  · next heq =>
    obtain ⟨rfl, rfl⟩ := Prod.mk.inj heq
    obtain ⟨after', rfl, hafter⟩ := hleft.cons
    obtain ⟨rfl, rfl, rfl⟩ : _ ∧ _ ∧ _ := by simpa using hread
    exact ⟨_, rfl, hafter.skipBlank verbose⟩
  · next hbracket heq =>
    obtain ⟨rfl, rfl⟩ := Prod.mk.inj heq
    obtain ⟨rfl, rfl, rfl⟩ : _ ∧ _ ∧ _ := by simpa using hread
    split
    · next heq =>
      obtain ⟨rfl, rfl⟩ := Prod.mk.inj heq
      obtain ⟨after, rfl, -⟩ := hleft.of_cons (by decide)
      exact absurd rfl (hbracket after rfl)
    · next heq =>
      obtain ⟨rfl, rfl⟩ := Prod.mk.inj heq
      exact ⟨_, rfl, hleft⟩

theorem sameReading_readAsciiName (negated : Bool) (text : List Char) :
    SameReading (readAsciiName negated text) (readAsciiName negated (text ++ closing)) ∧
      (readAsciiName negated text = none → readAsciiName negated (text ++ closing) = none) := by
  rcases hdrop : text.drop (text.takeWhile (· != ':')).length with _ | ⟨c, rest⟩
  · -- no colon ends the name, and the closing holds none
    have hdrop' := drop_append_closing (by simp [closing]) hdrop
    simp only [readAsciiName, hdrop, hdrop']
    exact ⟨.none, fun _ => trivial⟩
  · obtain ⟨htake, hdrop'⟩ := takeWhile_append_closing hdrop
    simp only [readAsciiName, hdrop, htake, hdrop']
    split
    · next after heq =>
      obtain ⟨rfl, rfl⟩ := List.cons.inj heq
      dsimp only [List.cons_append]
      cases AsciiClass.ofName? (String.ofList (text.takeWhile (· != ':'))) with
      | none => exact ⟨.none, id⟩
      | some cls => exact ⟨.some _ (.append after), nofun⟩
    · next hclose =>
      refine ⟨.none, fun _ => ?_⟩
      split
      · next heq =>
        obtain ⟨rfl, hrest⟩ := List.cons.inj heq
        -- the bracket behind the name would have to come from the closing
        obtain ⟨after, rfl, -⟩ := Extends.of_cons (.inl hrest.symm) (by decide)
        exact absurd rfl (hclose after)
      · rfl

theorem sameReading_readAsciiClass {text text' : List Char} (h : Extends text text') :
    SameReading (readAsciiClass text) (readAsciiClass text') ∧
      (readAsciiClass text = none → readAsciiClass text' = none) := by
  rcases h with rfl | rfl
  · unfold readAsciiClass
    split
    · next rest => exact sameReading_readAsciiName true rest
    · next rest hcaret =>
      split
      · -- the caret would have to come from the closing
        next heq =>
        exact absurd (List.cons.inj heq).2
          ((Extends.append rest).ne_append ['^'] (by decide) hcaret)
      · next heq =>
        obtain ⟨-, rfl⟩ := List.cons.inj heq
        exact sameReading_readAsciiName false rest
      · next hcolon => exact absurd rfl (hcolon _)
    · next hcaret hcolon =>
      refine ⟨.none, fun _ => ?_⟩
      split
      · next heq =>
        exact absurd heq ((Extends.append text).ne_append [':'] (by decide) hcolon)
      · next heq =>
        exact absurd heq ((Extends.append text).ne_append [':'] (by decide) hcolon)
      · rfl
  · exact ⟨.refl _, id⟩

theorem sameReading_readClassAtom (verbose : Bool) {text text' : List Char}
    (h : Extends text text') :
    SameReading (readClassAtom verbose text) (readClassAtom verbose text') := by
  cases text with
  | nil => exact .none
  | cons c rest =>
    obtain ⟨rest', rfl, hrest⟩ := h.cons
    by_cases hslash : c = '\\'
    · subst hslash
      exact sameReading_readEscape verbose hrest
    · -- every other character stands for itself, whatever follows
      have hliteral : ∀ rest,
          readClassAtom verbose (c :: rest) = some (.literal ⟨c, false⟩, rest) := by
        intro rest
        simp [readClassAtom]
      rw [hliteral, hliteral]
      exact .some _ hrest

theorem skipVerbose_of_blank {inComment : Bool} {text : List Char}
    (h : text.dropWhile isBlank = []) : skipVerbose inComment text = [] := by
  induction text generalizing inComment with
  | nil => cases inComment <;> rfl
  | cons c rest ih =>
    rw [List.dropWhile_cons] at h
    split at h
    · next hc =>
      cases inComment with
      | true => exact ih h
      | false =>
        rw [skipVerbose, if_pos hc]
        exact ih h
    · exact absurd h (List.cons_ne_nil _ _)

theorem skipVerbose_dropBlank (text : List Char) :
    skipVerbose false (text.dropWhile isBlank) = skipVerbose false text := by
  induction text with
  | nil => rfl
  | cons c rest ih =>
    rw [List.dropWhile_cons]
    split
    · next hc => rw [ih, skipVerbose, if_pos hc]
    · rfl

/-- A look ahead past blanks sees the same character in the extended text, unless the text holds
nothing but blanks. -/
theorem peekLoose_extends (verbose : Bool) {text text' : List Char} (h : Extends text text') :
    peekLoose verbose text' = peekLoose verbose text ∨
      (peekLoose verbose text = none ∧ skipBlank verbose text = []) := by
  cases verbose with
  | false =>
    cases text with
    | nil => exact .inr ⟨rfl, rfl⟩
    | cons c rest =>
      obtain ⟨rest', rfl, -⟩ := h.cons
      exact .inl rfl
  | true =>
    -- the look ahead starts where the blanks end, from where both views go on alike
    have hdrop := h.dropBlank
    have hskip : skipBlank true text = skipVerbose false (text.dropWhile isBlank) :=
      (skipVerbose_dropBlank text).symm
    simp only [peekLoose, if_true, hskip]
    generalize text.dropWhile isBlank = s at hdrop ⊢
    generalize text'.dropWhile isBlank = s' at hdrop ⊢
    cases s with
    | nil => exact .inr ⟨rfl, rfl⟩
    | cons c rest =>
      obtain ⟨rest', rfl, hrest⟩ := hdrop.cons
      -- a comment is looked past once
      by_cases hhash : c = '#'
      · subst hhash
        have hdrop := hrest.dropBlank
        rcases hs : rest.dropWhile isBlank with _ | ⟨d, left⟩
        · refine .inr ⟨by simp [hs], ?_⟩
          simp only [skipVerbose, isBlank_hash, Bool.false_eq_true, if_false, if_true]
          exact skipVerbose_of_blank hs
        · rw [hs] at hdrop
          obtain ⟨left', hs', -⟩ := hdrop.cons
          exact .inl (by simp [hs, hs'])
      · exact .inl (by simp [hhash])

theorem sameReading_readRange (verbose : Bool) (first : Atom) {text text' : List Char}
    (h : Extends text text') :
    SameReading (readRange verbose first text) (readRange verbose first text') := by
  refine .bind (sameReading_readClassAtom verbose (h.skipBlank verbose))
    fun last rest rest' hrest => ?_
  -- both ends have to be characters, in order
  cases first.literal? with
  | none => exact .none
  | some a =>
    cases hlast : last.literal? with
    | none => simp [hlast, SameReading.none]
    | some b =>
      simp only [hlast, Option.bind_eq_bind, Option.bind_some]
      split
      · exact .some _ hrest
      · exact .none

theorem sameReading_classItem (atom : Atom) {rest rest' : List Char} (h : Extends rest rest') :
    SameReading (atom.classItem?.bind fun item => some (item, rest))
      (atom.classItem?.bind fun item => some (item, rest')) := by
  cases atom.classItem? with
  | none => exact .none
  | some item => exact .some item h

theorem sameReading_readClassItem (verbose : Bool) {text text' : List Char}
    (h : Extends text text') :
    SameReading (readClassItem verbose text) (readClassItem verbose text') := by
  refine .bind (sameReading_readClassAtom verbose h) fun first rest rest' hrest => ?_
  have hskip := hrest.skipBlank verbose
  dsimp only
  generalize skipBlank verbose rest = s at hskip ⊢
  generalize skipBlank verbose rest' = s' at hskip ⊢
  split
  · exact .none
  · next after =>
    obtain ⟨after', rfl, hafter⟩ := hskip.cons
    simp only
    rcases peekLoose_extends verbose hafter with hpeek | ⟨hpeek, hnil⟩
    · -- both texts decide alike whether the hyphen makes a range
      rw [hpeek]
      split
      · exact sameReading_classItem first hskip
      · exact sameReading_readRange verbose first hafter
    · -- the text ends at the hyphen, so it has no range
      have hrange : readRange verbose first after = none := by
        rw [readRange, hnil]
        rfl
      simp only [hpeek, hrange]
      exact .none
  · next hempty hhyphen =>
    split
    · exact absurd hskip.of_nil hempty
    · exact absurd rfl (hskip.ne_append ['-'] (by decide) hhyphen)
    · exact sameReading_classItem first hskip

theorem sameReading_classStep (verbose : Bool) (r : ClassReading) {text text' : List Char}
    (h : Extends text text') :
    SameReading (r.step verbose text) (r.step verbose text') := by
  unfold ClassReading.step
  split
  · exact .none
  · next rest =>
    obtain ⟨rest', rfl, hrest⟩ := h.cons
    obtain ⟨hclass, hnone⟩ := sameReading_readAsciiClass hrest
    -- without an ASCII class in the text there is none in its extension, so both open a class
    rcases hread : readAsciiClass rest with _ | ⟨item, after⟩
    · rcases hstart : readClassStart verbose rest with ⟨negated, items, left⟩
      obtain ⟨left', hstart', hleft⟩ := readClassStart_extends hrest hstart
      simp only [hnone hread, hstart']
      exact .some _ hleft
    · obtain ⟨after', hread', hafter⟩ := hclass item after hread
      simp only [hread']
      exact .some _ hafter
  · next rest =>
    obtain ⟨rest', rfl, hrest⟩ := h.cons
    simp only
    split
    · exact .some _ hrest
    · exact .some _ hrest
    · exact .none
  · next rest =>
    obtain ⟨rest', rfl, hrest⟩ := h.cons
    obtain ⟨after', rfl, hafter⟩ := hrest.cons
    exact .some _ hafter
  · next rest =>
    obtain ⟨rest', rfl, hrest⟩ := h.cons
    obtain ⟨after', rfl, hafter⟩ := hrest.cons
    exact .some _ hafter
  · next rest =>
    obtain ⟨rest', rfl, hrest⟩ := h.cons
    obtain ⟨after', rfl, hafter⟩ := hrest.cons
    exact .some _ hafter
  · -- an item: the extension starts with no bracket and no operator either
    next hnil hopen hclose hinter hdiff hsymm =>
    split
    · exact absurd h.of_nil hnil
    · exact absurd rfl (h.ne_append ['['] (by decide) hopen)
    · exact absurd rfl (h.ne_append [']'] (by decide) hclose)
    · exact absurd rfl (h.ne_append ['&', '&'] (by decide) hinter)
    · exact absurd rfl (h.ne_append ['-', '-'] (by decide) hdiff)
    · exact absurd rfl (h.ne_append ['~', '~'] (by decide) hsymm)
    · refine .bind (sameReading_readClassItem verbose h) fun item rest rest' hrest => ?_
      exact .some _ hrest

theorem sameReading_classRun (verbose : Bool) (fuel : Nat) :
    ∀ (fuel' : Nat) (r : ClassReading) {text text' : List Char}, fuel ≤ fuel' →
      Extends text text' →
      SameReading (ClassReading.run verbose fuel r text)
        (ClassReading.run verbose fuel' r text') := by
  induction fuel with
  | zero =>
    intro fuel' r text text' _ _
    exact .none
  | succ fuel ih =>
    intro fuel' r text text' hle h
    obtain ⟨n, rfl⟩ : ∃ n, fuel' = n + 1 := ⟨fuel' - 1, by omega⟩
    have hstep := sameReading_classStep verbose r (h.skipBlank verbose)
    simp only [ClassReading.run]
    rcases hread : r.step verbose (skipBlank verbose text) with _ | ⟨r' | e, rest⟩
    · exact .none
    · obtain ⟨rest', hread', hrest⟩ := hstep _ _ hread
      simp only [hread']
      exact ih n r' (by omega) hrest
    · obtain ⟨rest', hread', hrest⟩ := hstep _ _ hread
      simp only [hread']
      exact .some e hrest

theorem sameReading_readBracket (verbose : Bool) {text text' : List Char}
    (h : Extends text text') :
    SameReading (readBracket verbose text) (readBracket verbose text') := by
  rcases hstart : readClassStart verbose text with ⟨negated, items, rest⟩
  obtain ⟨rest', hstart', hrest⟩ := readClassStart_extends h hstart
  -- the extension is no shorter, so there are no fewer steps left for it
  have hlength := h.length_le
  simp only [readBracket, hstart, hstart']
  exact sameReading_classRun verbose _ _ _ (by omega) hrest

/-! ## Groups and repetitions -/

theorem sameReading_readGroupName {text text' : List Char} (h : Extends text text') :
    SameReading (readGroupName text) (readGroupName text') := by
  rcases h with rfl | rfl
  · -- the name ends at an angle bracket, which the closing does not hold
    rcases hdrop : text.drop (text.takeWhile (· != '>')).length with _ | ⟨c, rest⟩
    · have hnone : readGroupName text = none := by simp [readGroupName, hdrop]
      rw [hnone]
      exact .none
    · obtain ⟨htake, hdrop'⟩ := takeWhile_append_closing hdrop
      simp only [readGroupName, hdrop, htake, hdrop']
      generalize text.takeWhile (· != '>') = name
      cases name with
      | nil => exact .none
      | cons d tail =>
        dsimp only
        split
        · exact .some _ (.append rest)
        · exact .none
  · exact .refl _

theorem sameReading_readFlags {text text' : List Char} (h : Extends text text') :
    SameReading (readFlags text) (readFlags text') := by
  rcases h with rfl | rfl
  · -- flags that do not end inside the text are refused
    rcases hdrop : text.drop (text.takeWhile fun c => c != ':' && c != ')').length
      with _ | ⟨c, rest⟩
    · simp only [readFlags, hdrop]
      exact .none
    · obtain ⟨htake, hdrop'⟩ := takeWhile_append_closing hdrop
      simp only [readFlags, hdrop, htake, hdrop']
      generalize (text.takeWhile fun c => c != ':' && c != ')') = letters
      by_cases hcolon : c = ':'
      · subst hcolon
        cases FlagChange.ofText? letters with
        | none => exact .none
        | some change => exact .some _ (.append rest)
      · simp only
        split
        · exact .none
        · cases FlagChange.ofText? letters with
          | none => exact .none
          | some change => exact .some _ (.append rest)
  · exact .refl _

theorem sameReading_readGroupStart (verbose : Bool) {text text' : List Char}
    (h : Extends text text') :
    SameReading (readGroupStart verbose text) (readGroupStart verbose text') := by
  have hskip := h.skipBlank verbose
  unfold readGroupStart
  generalize skipBlank verbose text = s at hskip ⊢
  generalize skipBlank verbose text' = s' at hskip ⊢
  split
  · exact .none
  · exact .none
  · exact .none
  · exact .none
  · -- `?P<`
    next rest =>
    obtain ⟨rest₁, rfl, h₁⟩ := hskip.cons
    obtain ⟨rest₂, rfl, h₂⟩ := h₁.cons
    obtain ⟨rest₃, rfl, h₃⟩ := h₂.cons
    simp only
    exact (sameReading_readGroupName h₃).map (f := fun name => GroupStart.capture (some name))
  · -- `?<`, where what follows must not be taken for a test that looks behind
    next rest hequals hnot =>
    obtain ⟨rest₁, rfl, h₁⟩ := hskip.cons
    obtain ⟨rest₂, rfl, h₂⟩ := h₁.cons
    split
    · next heq => simp at heq
    · next heq => simp at heq
    · next heq =>
      obtain rfl := (List.cons.inj (List.cons.inj heq).2).2
      exact absurd rfl (h₂.ne_append ['='] (by decide) hequals)
    · next heq =>
      obtain rfl := (List.cons.inj (List.cons.inj heq).2).2
      exact absurd rfl (h₂.ne_append ['!'] (by decide) hnot)
    · next heq => simp at heq
    · next heq =>
      obtain rfl := (List.cons.inj (List.cons.inj heq).2).2
      exact (sameReading_readGroupName h₂).map (f := fun name => GroupStart.capture (some name))
    · next hangle heq => exact absurd (List.cons.inj heq).2.symm (hangle rest₂)
    · next hmark => exact absurd rfl (hmark _)
  · -- flags: no other start of a group can come out of the closing
    next rest hequals hnot hbehind hbehindNot hpython hangle =>
    obtain ⟨rest', rfl, hrest⟩ := hskip.cons
    split
    · next heq =>
      obtain rfl := (List.cons.inj heq).2
      exact absurd rfl (hrest.ne_append ['='] (by decide) hequals)
    · next heq =>
      obtain rfl := (List.cons.inj heq).2
      exact absurd rfl (hrest.ne_append ['!'] (by decide) hnot)
    · next heq =>
      obtain rfl := (List.cons.inj heq).2
      exact absurd rfl (hrest.ne_append ['<'] (by decide) hangle)
    · next heq =>
      obtain rfl := (List.cons.inj heq).2
      exact absurd rfl (hrest.ne_append ['<'] (by decide) hangle)
    · next heq =>
      obtain rfl := (List.cons.inj heq).2
      exact absurd rfl (hrest.ne_append ['P', '<'] (by decide) hpython)
    · next heq =>
      obtain rfl := (List.cons.inj heq).2
      exact absurd rfl (hrest.ne_append ['<'] (by decide) hangle)
    · next heq =>
      obtain rfl := (List.cons.inj heq).2
      exact sameReading_readFlags hrest
    · next hmark => exact absurd rfl (hmark _)
  · -- a plain group
    next hmark =>
    split
    case h_8 => exact .some _ hskip
    all_goals exact absurd rfl (hskip.ne_append ['?'] (by decide) hmark)

theorem Extends.skipLazyMark {text text' : List Char} (h : Extends text text') :
    Extends (Pattern.skipLazyMark text) (Pattern.skipLazyMark text') := by
  unfold Pattern.skipLazyMark
  split
  · obtain ⟨rest', rfl, hrest⟩ := h.cons
    exact hrest
  · next hmark =>
    split
    · exact absurd rfl (h.ne_append ['?'] (by decide) hmark)
    · exact h

theorem sameReading_readMax (verbose : Bool) (min : Nat) {text text' : List Char}
    (h : Extends text text') :
    SameReading (readMax verbose min text) (readMax verbose min text') := by
  unfold readMax
  split
  · -- a bound behind the comma, or no upper bound
    next rest =>
    obtain ⟨rest', rfl, hrest⟩ := h.cons
    have hskip := hrest.skipBlank verbose
    simp only
    generalize skipBlank verbose rest = s at hskip ⊢
    generalize skipBlank verbose rest' = s' at hskip ⊢
    split
    · obtain ⟨after', rfl, hafter⟩ := hskip.cons
      exact .some _ hskip
    · next hbrace =>
      split
      · exact absurd rfl (hskip.ne_append ['\x7d'] (by decide) hbrace)
      · exact (sameReading_readDecimal verbose hskip).map (f := some)
  · next hcomma =>
    split
    · exact absurd rfl (h.ne_append [','] (by decide) hcomma)
    · exact .some _ h

theorem sameReading_readBounds (verbose : Bool) {text text' : List Char}
    (h : Extends text text') :
    SameReading (readBounds verbose text) (readBounds verbose text') := by
  refine .bind (sameReading_readDecimal verbose (h.skipBlank verbose))
    fun min rest rest' hrest => ?_
  refine .bind (sameReading_readMax verbose min hrest) fun max left left' hleft => ?_
  dsimp only
  split
  · -- the closing brace, and a mark that asks for few copies
    obtain ⟨after', rfl, hafter⟩ := hleft.cons
    simp only
    split
    · exact .some _ (hafter.skipBlank verbose).skipLazyMark
    · exact .none
  · exact .none

/-! ## Marks -/

theorem sameReading_readMark (verbose : Bool) {text text' : List Char}
    (h : Extends text text') :
    SameReading (readMark verbose text) (readMark verbose text') := by
  cases text with
  | nil => exact .none
  | cons c rest =>
    obtain ⟨rest', rfl, hrest⟩ := h.cons
    unfold readMark
    -- the first character decides which mark it is, in both texts
    split
    case h_1 => exact .none
    case h_2 heq =>
      obtain ⟨rfl, rfl⟩ := List.cons.inj heq
      exact (sameReading_readGroupStart verbose hrest).map (f := Mark.start)
    case h_5 heq =>
      obtain ⟨rfl, rfl⟩ := List.cons.inj heq
      exact (sameReading_readBracket verbose hrest).map (f := Mark.item)
    case h_9 heq =>
      obtain ⟨rfl, rfl⟩ := List.cons.inj heq
      exact (sameReading_readBounds verbose hrest).map
        (f := fun bounds => Mark.copies bounds.1 bounds.2)
    case h_10 heq =>
      obtain ⟨rfl, rfl⟩ := List.cons.inj heq
      exact (sameReading_readEscape verbose hrest).map (f := fun atom => Mark.item atom.expr)
    case h_14 heq =>
      obtain ⟨rfl, rfl⟩ := List.cons.inj heq
      simp only [*]
      exact .some _ hrest
    all_goals
      next heq =>
      obtain ⟨rfl, rfl⟩ := List.cons.inj heq
      first
      | exact .some _ hrest
      | exact .some _ hrest.skipLazyMark

end AccessPolicy.Pattern
