import AccessPolicy.Pattern.Search
import Mathlib.Logic.Function.Iterate

/-!
# What a pattern matches

Says directly between which positions of a text a pattern has a match, and shows that the search
finds exactly these matches. The search works on sets of positions and cuts repetitions short; the
direct reading does neither.

Main results:

* `testBit_ends` — the search reaches a position if and only if a match leads there from one of the
  given positions;
* `isMatch_iff` — a pattern matches part of a text if and only if it has a match somewhere;
* `isFullMatch_iff` — a pattern matches a whole text if and only if it has a match that covers it.
-/

namespace AccessPolicy.Pattern

/-! ## The direct reading -/

/-- The relation `R` taken some number of times in a row. -/
def Copies (R : Nat → Nat → Prop) : Nat → Nat → Nat → Prop
  | 0, i, k => i = k
  | n + 1, i, k => ∃ j, R i j ∧ Copies R n j k

/-- The character in front of a position; `first` stands in front of the text. -/
def charBefore (first : Option Char) (text : List Char) : Nat → Option Char
  | 0 => first
  | i + 1 => text[i]?

/-- Whether a pattern has a match in a text from one position to another. -/
def Spans (text : List Char) : Pattern → Nat → Nat → Prop
  | .empty, i, k => i = k
  | .chars set, i, k => k = i + 1 ∧ ∃ c, text[i]? = some c ∧ set.contains c = true
  | .look test, i, k =>
    i = k ∧ i ≤ text.length ∧ test.holds (charBefore none text i) text[i]? = true
  | .seq first second, i, k => ∃ j, first.Spans text i j ∧ second.Spans text j k
  | .alt first second, i, k => first.Spans text i k ∨ second.Spans text i k
  | .repeated min max body, i, k =>
    ∃ more, (∀ m, max = some m → more ≤ m - min) ∧ Copies (body.Spans text) (min + more) i k
  | .capture body, i, k => body.Spans text i k

/-- Whether a pattern has a match that covers a text from its first to its last character. -/
def Covers (p : Pattern) (text : List Char) : Prop :=
  p.Spans text 0 text.length

/-! ## Repetition -/

theorem copies_add {R : Nat → Nat → Prop} (m n : Nat) {i k : Nat} :
    Copies R (m + n) i k ↔ ∃ j, Copies R m i j ∧ Copies R n j k := by
  induction m generalizing i with
  | zero => simp [Copies]
  | succ m ih =>
    rw [show m + 1 + n = m + n + 1 by omega]
    constructor
    · rintro ⟨j, hij, hjk⟩
      obtain ⟨l, hjl, hlk⟩ := ih.mp hjk
      exact ⟨l, ⟨j, hij, hjl⟩, hlk⟩
    · rintro ⟨l, ⟨j, hij, hjl⟩, hlk⟩
      exact ⟨j, hij, ih.mpr ⟨l, hjl, hlk⟩⟩

/-- Copies that may each be left out. -/
theorem copies_or_eq {R : Nat → Nat → Prop} (n : Nat) {i k : Nat} :
    Copies (fun i j => i = j ∨ R i j) n i k ↔ ∃ m, m ≤ n ∧ Copies R m i k := by
  induction n generalizing i with
  | zero => simp [Copies]
  | succ n ih =>
    constructor
    · rintro ⟨j, hij, hjk⟩
      obtain ⟨m, hm, hmk⟩ := ih.mp hjk
      rcases hij with rfl | hij
      · exact ⟨m, by omega, hmk⟩ -- the first copy is left out
      · exact ⟨m + 1, by omega, j, hij, hmk⟩
    · rintro ⟨m, hm, hmk⟩
      cases m with
      | zero => exact ⟨i, .inl rfl, ih.mpr ⟨0, Nat.zero_le n, hmk⟩⟩
      | succ m =>
        obtain ⟨j, hij, hjk⟩ := hmk
        exact ⟨j, .inr hij, ih.mpr ⟨m, by omega, hjk⟩⟩

/-- Copies only ever lead onwards, and not beyond the end of the text. -/
theorem copies_bounds {R : Nat → Nat → Prop} {n : Nat}
    (hR : ∀ i j, R i j → i ≤ j ∧ j ≤ max i n) (m : Nat) {i k : Nat}
    (h : Copies R m i k) : i ≤ k ∧ k ≤ max i n := by
  induction m generalizing i with
  | zero =>
    obtain rfl : i = k := h
    omega
  | succ m ih =>
    obtain ⟨j, hij, hjk⟩ := h
    have h1 := hR i j hij
    have h2 := ih hjk
    omega

/-- Copies that do not move can be left out, so no more are needed than there are positions to
move by. -/
theorem copies_shorten {R : Nat → Nat → Prop} {n : Nat}
    (hR : ∀ i j, R i j → i ≤ j ∧ j ≤ max i n) (m : Nat) {i k : Nat}
    (h : Copies R m i k) : ∃ m', m' ≤ k - i ∧ Copies R m' i k := by
  induction m generalizing i with
  | zero => exact ⟨0, Nat.zero_le _, h⟩
  | succ m ih =>
    obtain ⟨j, hij, hjk⟩ := h
    obtain ⟨m', hm', hcopies⟩ := ih hjk
    have hstep := hR i j hij
    have hrest := copies_bounds hR m' hcopies
    by_cases hmove : i = j
    · -- the first copy stays where it is and can be left out
      subst hmove
      exact ⟨m', hm', hcopies⟩
    · exact ⟨m' + 1, by omega, j, hij, hcopies⟩

/-- A match never goes back and never leaves the text. -/
theorem spans_bounds (text : List Char) (p : Pattern) :
    ∀ i k, p.Spans text i k → i ≤ k ∧ k ≤ max i text.length := by
  induction p with
  | empty =>
    rintro i k rfl
    omega
  | chars set =>
    rintro i k ⟨rfl, c, hc, -⟩
    have := (List.getElem?_eq_some_iff.mp hc).1
    omega
  | look test =>
    rintro i k ⟨rfl, hi, -⟩
    omega
  | seq first second ih1 ih2 =>
    rintro i k ⟨j, hij, hjk⟩
    have h1 := ih1 i j hij
    have h2 := ih2 j k hjk
    omega
  | alt first second ih1 ih2 =>
    rintro i k (h | h)
    · exact ih1 i k h
    · exact ih2 i k h
  | repeated min max body ih =>
    rintro i k ⟨more, -, hcopies⟩
    exact copies_bounds ih _ hcopies
  | capture body ih => exact ih

/-! ## Sets of positions -/

theorem testBit_double_add (n : Nat) (b : Bool) (i : Nat) :
    (2 * n + b.toNat).testBit i = match i with
      | 0 => b
      | i + 1 => n.testBit i := by
  cases i with
  | zero => cases b <;> simp
  | succ i =>
    rw [Nat.testBit_succ]
    congr 1
    have := b.toNat_le
    omega

theorem testBit_allPositions (text : List Char) (i : Nat) :
    (allPositions text).testBit i = true ↔ i ≤ text.length := by
  induction text generalizing i with
  | nil => cases i <;> simp [allPositions, Nat.testBit_succ]
  | cons c rest ih =>
    rw [allPositions, show 1 = true.toNat from rfl, testBit_double_add]
    cases i with
    | zero => simp
    | succ i => simp [ih]

theorem testBit_charPositions (set : CharSet) (text : List Char) (i : Nat) :
    (charPositions set text).testBit i = true ↔
      ∃ c, text[i]? = some c ∧ set.contains c = true := by
  induction text generalizing i with
  | nil => simp [charPositions]
  | cons c rest ih =>
    rw [charPositions, testBit_double_add]
    cases i with
    | zero => simp
    | succ i => simp [ih]

theorem testBit_lookPositions (test : Look) (first : Option Char) (text : List Char) (i : Nat) :
    (lookPositions test first text).testBit i = true ↔
      i ≤ text.length ∧ test.holds (charBefore first text i) text[i]? = true := by
  induction text generalizing first i with
  | nil =>
    rw [lookPositions, ← Nat.zero_add (Bool.toNat _), ← Nat.mul_zero 2, testBit_double_add]
    cases i <;> simp [charBefore]
  | cons c rest ih =>
    rw [lookPositions, testBit_double_add]
    cases i with
    | zero => simp [charBefore]
    | succ i =>
      -- in front of the first position of the rest stands the first character
      have hbefore : charBefore (some c) rest i = charBefore first (c :: rest) (i + 1) := by
        cases i <;> simp [charBefore]
      simp [ih, hbefore]

/-! ## The search -/

/-- Stopping when nothing changes any more makes no difference. -/
theorem settle_eq_iterate (f : Nat → Nat) (n s : Nat) : settle f n s = f^[n] s := by
  induction n generalizing s with
  | zero => rfl
  | succ n ih =>
    simp only [settle, Function.iterate_succ_apply]
    split
    · -- a set that one more step leaves alone stays as it is
      next hfix => rw [hfix, Function.iterate_fixed hfix]
    · exact ih (f s)

/-- A function on sets of positions that follows a relation, applied again and again. -/
theorem testBit_iterate {f : Nat → Nat} {R : Nat → Nat → Prop}
    (hf : ∀ s k, (f s).testBit k = true ↔ ∃ i, s.testBit i = true ∧ R i k) (n s k : Nat) :
    (f^[n] s).testBit k = true ↔ ∃ i, s.testBit i = true ∧ Copies R n i k := by
  induction n generalizing s with
  | zero => simp [Copies]
  | succ n ih =>
    rw [Function.iterate_succ_apply, ih]
    constructor
    · rintro ⟨j, hj, hjk⟩
      obtain ⟨i, hi, hij⟩ := (hf s j).mp hj
      exact ⟨i, hi, j, hij, hjk⟩
    · rintro ⟨i, hi, j, hij, hjk⟩
      exact ⟨j, (hf s j).mpr ⟨i, hi, hij⟩, hjk⟩

/-- One copy that may be left out, on sets of positions. -/
theorem testBit_option {f : Nat → Nat} {R : Nat → Nat → Prop}
    (hf : ∀ s k, (f s).testBit k = true ↔ ∃ i, s.testBit i = true ∧ R i k) (s k : Nat) :
    (s ||| f s).testBit k = true ↔ ∃ i, s.testBit i = true ∧ (i = k ∨ R i k) := by
  rw [Nat.testBit_or, Bool.or_eq_true, hf]
  constructor
  · rintro (hs | ⟨i, hs, hik⟩)
    · exact ⟨k, hs, .inl rfl⟩
    · exact ⟨i, hs, .inr hik⟩
  · rintro ⟨i, hs, rfl | hik⟩
    · exact .inl hs
    · exact .inr ⟨i, hs, hik⟩

/-- Up to `bound` optional copies reach what any count of copies reaches that the upper bound
allows. -/
theorem copies_bounded_iff {R : Nat → Nat → Prop} {n : Nat}
    (hR : ∀ i j, R i j → i ≤ j ∧ j ≤ max i n) (min : Nat) (max : Option Nat) (i k : Nat) :
    (∃ m, m ≤ (max.map (· - min)).getD (n + 1) ∧ Copies R m i k) ↔
      ∃ m, (∀ b, max = some b → m ≤ b - min) ∧ Copies R m i k := by
  cases max with
  | some b => simp
  | none =>
    constructor
    · rintro ⟨m, -, h⟩
      exact ⟨m, by simp, h⟩
    · -- without an upper bound there are as many copies as positions, which is enough
      rintro ⟨m, -, h⟩
      obtain ⟨m', hm', h'⟩ := copies_shorten hR m h
      have hbounds := copies_bounds hR m' h'
      refine ⟨m', ?_, h'⟩
      simp only [Option.map_none, Option.getD_none]
      omega

/-- The search reaches exactly the positions where matches end. -/
theorem testBit_ends (text : List Char) (p : Pattern) :
    ∀ s k, (p.ends text s).testBit k = true ↔ ∃ i, s.testBit i = true ∧ p.Spans text i k := by
  induction p with
  | empty => simp [ends, plan, Plan.run, Spans]
  | chars set =>
    -- a character moves every position where it stands by one
    intro s k
    simp only [ends, plan, Plan.run, Spans, Nat.testBit_shiftLeft, Nat.testBit_and,
      Bool.and_eq_true, decide_eq_true_eq, testBit_charPositions]
    constructor
    · rintro ⟨hk, hs, hc⟩
      exact ⟨k - 1, hs, by omega, hc⟩
    · rintro ⟨i, hs, rfl, hc⟩
      exact ⟨by omega, hs, hc⟩
  | look test =>
    -- a test consumes nothing, so it only filters positions
    intro s k
    simp only [ends, plan, Plan.run, Spans, Nat.testBit_and, Bool.and_eq_true,
      testBit_lookPositions]
    constructor
    · rintro ⟨hs, hk⟩
      exact ⟨k, hs, rfl, hk⟩
    · rintro ⟨i, hs, rfl, hi⟩
      exact ⟨hs, hi⟩
  | seq first second ih1 ih2 =>
    intro s k
    simp only [ends] at ih1 ih2
    simp only [ends, plan, Plan.run, Spans, ih1, ih2]
    constructor
    · rintro ⟨j, ⟨i, hs, hij⟩, hjk⟩
      exact ⟨i, hs, j, hij, hjk⟩
    · rintro ⟨i, hs, j, hij, hjk⟩
      exact ⟨j, ⟨i, hs, hij⟩, hjk⟩
  | alt first second ih1 ih2 =>
    intro s k
    simp only [ends] at ih1 ih2
    simp only [ends, plan, Plan.run, Spans, Nat.testBit_or, Bool.or_eq_true, ih1, ih2]
    constructor
    · rintro (⟨i, hs, h⟩ | ⟨i, hs, h⟩)
      · exact ⟨i, hs, .inl h⟩
      · exact ⟨i, hs, .inr h⟩
    · rintro ⟨i, hs, h | h⟩
      · exact .inl ⟨i, hs, h⟩
      · exact .inr ⟨i, hs, h⟩
  | repeated min max body ih =>
    intro s k
    have hbody := spans_bounds text body
    have hrun : ∀ s k, ((body.plan text).run s).testBit k = true ↔
        ∃ i, s.testBit i = true ∧ body.Spans text i k := ih
    have hoption := testBit_option hrun
    -- the copies that have to be there come first, then those that may be
    simp only [ends, plan, Plan.run, Spans, settle_eq_iterate, testBit_iterate hoption,
      testBit_iterate hrun, copies_or_eq, copies_add]
    constructor
    · rintro ⟨j, ⟨i, hs, hij⟩, hjk⟩
      obtain ⟨more, hmore, hcopies⟩ := (copies_bounded_iff hbody min max j k).mp hjk
      exact ⟨i, hs, more, hmore, j, hij, hcopies⟩
    · rintro ⟨i, hs, more, hmore, j, hij, hcopies⟩
      exact ⟨j, ⟨i, hs, hij⟩, (copies_bounded_iff hbody min max j k).mpr ⟨more, hmore, hcopies⟩⟩
  | capture body ih => exact ih

theorem isMatch_iff (p : Pattern) (text : List Char) :
    p.isMatch text = true ↔ ∃ i k, i ≤ text.length ∧ p.Spans text i k := by
  rw [isMatch, bne_iff_ne]
  constructor
  · -- some position was reached, from some position of the text
    intro hne
    obtain ⟨k, hk⟩ := Nat.exists_testBit_of_ne_zero hne
    obtain ⟨i, hi, hik⟩ := (testBit_ends text p _ k).mp hk
    exact ⟨i, k, (testBit_allPositions text i).mp hi, hik⟩
  · rintro ⟨i, k, hi, hik⟩ hzero
    have hk := (testBit_ends text p (allPositions text) k).mpr
      ⟨i, (testBit_allPositions text i).mpr hi, hik⟩
    rw [hzero, Nat.zero_testBit] at hk
    exact Bool.false_ne_true hk

theorem isFullMatch_iff (p : Pattern) (text : List Char) :
    p.isFullMatch text = true ↔ p.Covers text := by
  rw [isFullMatch, testBit_ends, Covers]
  constructor
  · rintro ⟨i, hi, hik⟩
    obtain rfl : 0 = i := Nat.testBit_one_eq_true_iff_self_eq_zero.mp hi |>.symm
    exact hik
  · intro h
    exact ⟨0, rfl, h⟩

instance (p : Pattern) (text : List Char) : Decidable (p.Covers text) :=
  decidable_of_iff _ (isFullMatch_iff p text)

end AccessPolicy.Pattern
