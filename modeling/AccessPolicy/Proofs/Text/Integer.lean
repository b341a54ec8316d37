import AccessPolicy.Text.Hex
import AccessPolicy.Text.Integer
import Mathlib.Tactic.Ring

/-!
# Integers of texts

Says which texts spell which integers, and shows that these are the ones that are read, as long as
they have 64 bits. Digits are read from the left into a number without bounds, and only the result
is compared with the bounds. It makes no difference if instead the number has 64 bits all along and
every step is checked: a number that has left the bounds never comes back.

Main results:

* `int64?_eq_some_iff` — a text is read as the integer that it spells, if that has 64 bits;
* `int64?_repr` — the usual text of an integer is read back;
* `int64Checked?_eq` — reading with every step checked.
-/

namespace AccessPolicy.Text

/-! ## Spelling -/

/-- The number that decimal digits spell, by their places. -/
def decimalValue : List Char → Nat
  | [] => 0
  | c :: rest => (c.toNat - '0'.toNat) * 10 ^ rest.length + decimalValue rest

/-- Decimal digits, at least one of them. -/
structure IsDecimal (digits : List Char) : Prop where
  ne_nil : digits ≠ []
  digit : ∀ c ∈ digits, '0' ≤ c ∧ c ≤ '9'

/-- The integer that a text spells: a sign or none, then decimal digits and nothing else. -/
inductive SpellsInteger : List Char → Int → Prop where
  | unsigned {digits : List Char} (decimal : IsDecimal digits) :
    SpellsInteger digits (decimalValue digits)
  | plus {digits : List Char} (decimal : IsDecimal digits) :
    SpellsInteger ('+' :: digits) (decimalValue digits)
  | minus {digits : List Char} (decimal : IsDecimal digits) :
    SpellsInteger ('-' :: digits) (-decimalValue digits)

/-- Neither sign is a digit. -/
theorem IsDecimal.not_sign {c : Char} {rest : List Char} (h : IsDecimal (c :: rest)) :
    c ≠ '-' ∧ c ≠ '+' := by
  have hc := h.digit c List.mem_cons_self
  constructor
  · rintro rfl
    exact absurd hc (by decide)
  · rintro rfl
    exact absurd hc (by decide)

/-! ## Reading -/

theorem isDigit_iff (c : Char) : c.isDigit = true ↔ '0' ≤ c ∧ c ≤ '9' := by
  simp [Char.isDigit, Char.le_def]

/-- Reads one more digit behind a number. -/
def pushDigit (n : Nat) (c : Char) : Option Nat :=
  if c.isDigit then some (n * 10 + (c.toNat - '0'.toNat)) else none

theorem pushDigit_of_digit {c : Char} (h : '0' ≤ c ∧ c ≤ '9') (n : Nat) :
    pushDigit n c = some (n * 10 + (c.toNat - '0'.toNat)) :=
  if_pos ((isDigit_iff c).mpr h)

theorem pushDigit_of_not_digit {c : Char} (h : ¬ ('0' ≤ c ∧ c ≤ '9')) (n : Nat) :
    pushDigit n c = none :=
  if_neg fun hc => h ((isDigit_iff c).mp hc)

/-- Digits behind a number move it to the left by as many places. -/
theorem foldlM_pushDigit_eq_some_iff {digits : List Char} {n m : Nat} :
    digits.foldlM pushDigit n = some m ↔
      (∀ c ∈ digits, '0' ≤ c ∧ c ≤ '9') ∧ m = n * 10 ^ digits.length + decimalValue digits := by
  induction digits generalizing n with
  | nil => simp [decimalValue, eq_comm]
  | cons c rest ih =>
    rw [List.foldlM_cons, List.forall_mem_cons]
    by_cases hc : '0' ≤ c ∧ c ≤ '9'
    · -- the new digit counts for as many places as there are digits behind it
      have hvalue : (n * 10 + (c.toNat - '0'.toNat)) * 10 ^ rest.length + decimalValue rest =
          n * 10 ^ (c :: rest).length + decimalValue (c :: rest) := by
        rw [decimalValue, List.length_cons, Nat.pow_succ']
        ring
      rw [pushDigit_of_digit hc, Option.bind_eq_bind, Option.bind_some, ih, hvalue]
      simp [hc]
    · -- what follows is not read
      rw [pushDigit_of_not_digit hc, Option.bind_eq_bind, Option.bind_none]
      simp [hc]

theorem natOfDigits?_eq (digits : List Char) :
    natOfDigits? digits = if digits.isEmpty then none else digits.foldlM pushDigit 0 := rfl

theorem natOfDigits?_eq_some_iff {digits : List Char} {n : Nat} :
    natOfDigits? digits = some n ↔ IsDecimal digits ∧ n = decimalValue digits := by
  rw [natOfDigits?_eq]
  cases digits with
  | nil =>
    constructor
    · nofun
    · rintro ⟨hdecimal, -⟩
      exact absurd rfl hdecimal.ne_nil
  | cons c rest =>
    rw [List.isEmpty_cons, if_neg Bool.false_ne_true, foldlM_pushDigit_eq_some_iff, Nat.zero_mul,
      Nat.zero_add]
    constructor
    · rintro ⟨hdigits, hn⟩
      exact ⟨⟨List.cons_ne_nil c rest, hdigits⟩, hn⟩
    · rintro ⟨hdecimal, hn⟩
      exact ⟨hdecimal.digit, hn⟩

/-- A number with a sign. -/
def signed (negative : Bool) (n : Nat) : Int :=
  if negative then -n else n

theorem signed_false (n : Nat) : signed false n = n := rfl

theorem signed_true (n : Nat) : signed true n = -n := rfl

/-- Whether a text has a minus in front, and what stands behind its sign. -/
def splitSign : List Char → Bool × List Char
  | '-' :: digits => (true, digits)
  | '+' :: digits => (false, digits)
  | digits => (false, digits)

/-- The integer that a text spells, however large. -/
def integer? (text : List Char) : Option Int :=
  (natOfDigits? (splitSign text).2).map (signed (splitSign text).1)

theorem splitSign_of_no_sign {text : List Char} (hminus : ∀ digits, text ≠ '-' :: digits)
    (hplus : ∀ digits, text ≠ '+' :: digits) : splitSign text = (false, text) := by
  unfold splitSign
  split
  · exact absurd rfl (hminus _)
  · exact absurd rfl (hplus _)
  · rfl

theorem int64?_eq (s : String) : int64? s = (integer? s.toList).filter fitsInt64 := by
  unfold int64?
  -- the text is taken apart in the same way on both sides
  split
  · next digits hs =>
    rw [hs, integer?, splitSign]
    cases natOfDigits? digits <;> rfl
  · next digits hs =>
    rw [hs, integer?, splitSign]
    cases natOfDigits? digits <;> rfl
  · next hminus hplus =>
    rw [integer?, splitSign_of_no_sign hminus hplus]
    cases natOfDigits? s.toList <;> rfl

theorem integer?_eq_some_iff {text : List Char} {n : Int} :
    integer? text = some n ↔ SpellsInteger text n := by
  rw [integer?, Option.map_eq_some_iff]
  constructor
  · rintro ⟨m, hm, rfl⟩
    obtain ⟨hdecimal, rfl⟩ := natOfDigits?_eq_some_iff.mp hm
    unfold splitSign at hdecimal ⊢
    split at hdecimal
    · exact .minus hdecimal
    · exact .plus hdecimal
    · exact .unsigned hdecimal
  · intro h
    cases h with
    | plus hdecimal => exact ⟨_, natOfDigits?_eq_some_iff.mpr ⟨hdecimal, rfl⟩, rfl⟩
    | minus hdecimal => exact ⟨_, natOfDigits?_eq_some_iff.mpr ⟨hdecimal, rfl⟩, rfl⟩
    | unsigned hdecimal =>
      -- a text that begins with a digit has no sign
      have hsplit : splitSign text = (false, text) := by
        refine splitSign_of_no_sign ?_ ?_
        · rintro digits rfl
          exact absurd rfl hdecimal.not_sign.1
        · rintro digits rfl
          exact absurd rfl hdecimal.not_sign.2
      rw [hsplit]
      exact ⟨_, natOfDigits?_eq_some_iff.mpr ⟨hdecimal, rfl⟩, rfl⟩

theorem fitsInt64_iff (n : Int) : fitsInt64 n = true ↔ -2 ^ 63 ≤ n ∧ n ≤ 2 ^ 63 - 1 := by
  rw [fitsInt64, Bool.and_eq_true, decide_eq_true_eq, decide_eq_true_eq]
  rfl

theorem int64?_eq_some_iff {s : String} {n : Int} :
    int64? s = some n ↔ SpellsInteger s.toList n ∧ -2 ^ 63 ≤ n ∧ n ≤ 2 ^ 63 - 1 := by
  rw [int64?_eq, Option.filter_eq_some_iff, integer?_eq_some_iff, fitsInt64_iff]

/-! ## The usual texts of numbers -/

theorem isDecimal_toDigits (n : Nat) : IsDecimal (Nat.toDigits 10 n) where
  ne_nil := Nat.toDigits_ne_nil
  digit := fun c hc =>
    (isDigit_iff c).mp (Nat.isDigit_of_mem_toDigits (by decide) (by decide) hc)

theorem decimalValue_eq (digits : List Char) :
    decimalValue digits = Nat.ofDigitChars 10 digits 0 := by
  induction digits with
  | nil => rfl
  | cons c rest ih =>
    rw [decimalValue, Nat.ofDigitChars_cons, Nat.ofDigitChars_eq_ofDigitChars_zero, ih]
    ring

theorem decimalValue_toDigits (n : Nat) : decimalValue (Nat.toDigits 10 n) = n := by
  rw [decimalValue_eq, Nat.ofDigitChars_ten_toDigits]

theorem spellsInteger_repr (n : Int) : SpellsInteger n.repr.toList n := by
  rw [Int.repr_eq_if]
  split
  · next hn =>
    have hspelled := SpellsInteger.unsigned (isDecimal_toDigits n.toNat)
    rw [decimalValue_toDigits, Int.toNat_of_nonneg hn] at hspelled
    rwa [Nat.toList_repr]
  · next hn =>
    have hspelled := SpellsInteger.minus (isDecimal_toDigits (-n).toNat)
    rw [decimalValue_toDigits, Int.toNat_of_nonneg (by omega), Int.neg_neg] at hspelled
    rwa [String.toList_append, Nat.toList_repr]

theorem int64?_repr {n : Int} (h : -2 ^ 63 ≤ n ∧ n ≤ 2 ^ 63 - 1) : int64? n.repr = some n :=
  int64?_eq_some_iff.mpr ⟨spellsInteger_repr n, h⟩

theorem hexDigit?_digitChar {d : Nat} (h : d < 16) : hexDigit? (Nat.digitChar d) = some d := by
  have hall : ∀ d < 16, hexDigit? (Nat.digitChar d) = some d := by decide
  exact hall d h

/-- A digit is read back to every base in which it is one. -/
theorem filter_hexDigit?_digitChar {base d : Nat} (hbase : base ≤ 16) (hd : d < base) :
    (hexDigit? (Nat.digitChar d)).filter (· < base) = some d := by
  have hread : hexDigit? (Nat.digitChar d) = some d := hexDigit?_digitChar (by omega)
  rw [hread]
  exact if_pos (decide_eq_true hd)

/-! ## Reading with every step checked -/

/-- A number, if it has 64 bits. -/
def checked (n : Int) : Option Int :=
  if fitsInt64 n then some n else none

/-- Reads one more digit behind a number with a sign, away from zero. The number is moved to the
left first, and each of the two steps must stay within 64 bits. -/
def pushDigitChecked (negative : Bool) (n : Int) (c : Char) : Option Int :=
  if c.isDigit then do
    let shifted ← checked (n * 10)
    checked (shifted + signed negative (c.toNat - '0'.toNat))
  else none

/-- The integer of 64 bits that decimal digits spell with a sign, where every step is checked. -/
def digitsChecked? (negative : Bool) (digits : List Char) : Option Int :=
  if digits.isEmpty then none else digits.foldlM (pushDigitChecked negative) 0

/-- The integer of 64 bits that a text spells, where every step is checked. -/
def int64Checked? (s : String) : Option Int :=
  digitsChecked? (splitSign s.toList).1 (splitSign s.toList).2

/-- What is nearer to zero than a number of 64 bits has 64 bits itself. -/
theorem fitsInt64_signed_of_le {negative : Bool} {m n : Nat} (hle : m ≤ n)
    (h : fitsInt64 (signed negative n)) : fitsInt64 (signed negative m) := by
  rw [fitsInt64_iff] at h ⊢
  cases negative with
  | false =>
    rw [signed_false] at h ⊢
    omega
  | true =>
    rw [signed_true] at h ⊢
    omega

theorem signed_mul (negative : Bool) (m n : Nat) :
    signed negative m * n = signed negative (m * n) := by
  cases negative with
  | false => exact (Int.natCast_mul m n).symm
  | true => rw [signed_true, signed_true, Int.natCast_mul, Int.neg_mul]

theorem signed_add (negative : Bool) (m n : Nat) :
    signed negative m + signed negative n = signed negative (m + n) := by
  cases negative with
  | false => exact (Int.natCast_add m n).symm
  | true => rw [signed_true, signed_true, signed_true, Int.natCast_add, Int.neg_add]

theorem checked_of_fits {n : Int} (h : fitsInt64 n) : checked n = some n := if_pos h

theorem checked_of_not_fits {n : Int} (h : ¬ fitsInt64 n) : checked n = none := if_neg h

theorem filter_fitsInt64_some (n : Int) : (some n).filter fitsInt64 = checked n := by
  by_cases h : fitsInt64 n
  · rw [checked_of_fits h, Option.filter_some_pos h]
  · rw [checked_of_not_fits h, Option.filter_some_neg (Bool.eq_false_iff.mpr h)]

/-- A step is checked as its result is: where moving to the left fails, so would the whole step. -/
theorem pushDigitChecked_signed (negative : Bool) (n : Nat) (c : Char) :
    pushDigitChecked negative (signed negative n) c =
      ((pushDigit n c).map (signed negative)).filter fitsInt64 := by
  unfold pushDigitChecked pushDigit
  split
  · next hc =>
    have hshift : signed negative n * 10 = signed negative (n * 10) := signed_mul negative n 10
    rw [hshift, Option.map_some, filter_fitsInt64_some]
    by_cases hfits : fitsInt64 (signed negative (n * 10))
    · rw [checked_of_fits hfits, Option.bind_eq_bind, Option.bind_some, signed_add]
    · -- the digit goes further away from zero than what was moved, which is beyond 64 bits already
      have hbeyond : ¬ fitsInt64 (signed negative (n * 10 + (c.toNat - '0'.toNat))) := fun h =>
        hfits (fitsInt64_signed_of_le (Nat.le_add_right _ _) h)
      rw [checked_of_not_fits hfits, checked_of_not_fits hbeyond]
      rfl
  · rfl

/-- Digits never bring a number nearer to zero. -/
theorem le_of_foldlM_pushDigit {digits : List Char} {n m : Nat}
    (h : digits.foldlM pushDigit n = some m) : n ≤ m := by
  obtain ⟨-, rfl⟩ := foldlM_pushDigit_eq_some_iff.mp h
  have hpos : 0 < 10 ^ digits.length := Nat.pow_pos (by decide)
  have hle : n ≤ n * 10 ^ digits.length := Nat.le_mul_of_pos_right n hpos
  omega

/-- All steps are checked as their result is: a number that has left 64 bits never comes back. -/
theorem foldlM_pushDigitChecked (negative : Bool) (digits : List Char) {n : Nat}
    (hn : fitsInt64 (signed negative n)) :
    digits.foldlM (pushDigitChecked negative) (signed negative n) =
      ((digits.foldlM pushDigit n).map (signed negative)).filter fitsInt64 := by
  induction digits generalizing n with
  | nil =>
    show some (signed negative n) = (some (signed negative n)).filter fitsInt64
    rw [filter_fitsInt64_some, checked_of_fits hn]
  | cons c rest ih =>
    rw [List.foldlM_cons, List.foldlM_cons, pushDigitChecked_signed]
    cases hpush : pushDigit n c with
    | none => rfl
    | some m =>
      rw [Option.map_some, filter_fitsInt64_some]
      by_cases hm : fitsInt64 (signed negative m)
      · rw [checked_of_fits hm]
        exact ih hm
      · rw [checked_of_not_fits hm]
        -- the steps without checks go on, but their result is beyond 64 bits as well
        show none = ((rest.foldlM pushDigit m).map (signed negative)).filter fitsInt64
        cases hrest : rest.foldlM pushDigit m with
        | none => rfl
        | some k =>
          have hk : ¬ fitsInt64 (signed negative k) := fun h =>
            hm (fitsInt64_signed_of_le (le_of_foldlM_pushDigit hrest) h)
          rw [Option.map_some, filter_fitsInt64_some, checked_of_not_fits hk]

theorem int64Checked?_eq (s : String) : int64Checked? s = int64? s := by
  rw [int64?_eq, int64Checked?, integer?]
  generalize splitSign s.toList = split
  obtain ⟨negative, digits⟩ := split
  cases digits with
  | nil => rfl
  | cons c rest =>
    have hzero : signed negative 0 = 0 := by cases negative <;> rfl
    have hread := foldlM_pushDigitChecked negative (c :: rest) (n := 0) (by rw [hzero]; rfl)
    rw [hzero] at hread
    exact hread

end AccessPolicy.Text
