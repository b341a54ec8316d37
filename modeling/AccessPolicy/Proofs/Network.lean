import AccessPolicy.Network
import Mathlib.Algebra.Group.Nat.Defs

/-!
# Networks as ranges of numbers

Membership in a network compares octets under masks. Read as one number, most significant octet
first, an address lies in a network if and only if it gives the same quotient as the address of the
network when the bits beyond the leading ones are divided away.

Main results:

* `agree_iff` — two lists of octets agree in their leading bits if and only if their quotients are
  equal;
* `contains_iff` — what it means for an address to lie in a network.
-/

namespace AccessPolicy

/-- The number that octets spell, most significant first. -/
def bigEndian : List UInt8 → Nat
  | [] => 0
  | octet :: rest => octet.toNat * 2 ^ (8 * rest.length) + bigEndian rest

/-- An address as a number. -/
def Address.value (address : Address) : Nat :=
  bigEndian address.octets

/-- Whether an address lies among those that share the leading `length` bits of `base`. -/
def Address.Within (address base : Address) (length : Nat) : Prop :=
  address.sameFamily base = true ∧
    address.value / 2 ^ (base.width - length) = base.value / 2 ^ (base.width - length)

theorem Address.length_octets (address : Address) : 8 * address.octets.length = address.width := by
  cases address <;> rfl

theorem Address.width_eq {a b : Address} (h : a.sameFamily b = true) : a.width = b.width := by
  cases a <;> cases b <;> first | rfl | simp [Address.sameFamily] at h

/-! ## Octets -/

theorem bigEndian_lt (octets : List UInt8) : bigEndian octets < 2 ^ (8 * octets.length) := by
  induction octets with
  | nil => simp [bigEndian]
  | cons octet rest ih =>
    have hoctet : octet.toNat < 256 := octet.toNat_lt
    have hpow : 2 ^ (8 * (octet :: rest).length) = 256 * 2 ^ (8 * rest.length) := by
      rw [List.length_cons, Nat.mul_succ, Nat.pow_add, Nat.mul_comm]
    have hle : (octet.toNat + 1) * 2 ^ (8 * rest.length) ≤ 256 * 2 ^ (8 * rest.length) :=
      Nat.mul_le_mul_right _ hoctet
    rw [hpow, bigEndian]
    rw [Nat.succ_mul] at hle
    omega

/-- A mask of leading ones keeps of an octet what division keeps. -/
theorem toNat_and_mask (octet : UInt8) {k : Nat} (hk : k < 8) :
    (octet &&& ((0xFF : UInt8) <<< k.toUInt8)).toNat = octet.toNat / 2 ^ k * 2 ^ k := by
  have hoctet : octet.toNat < 2 ^ 8 := octet.toNat_lt
  have hshift : k.toUInt8.toNat % 8 = k := by
    rw [Nat.toUInt8, UInt8.toNat_ofNat']
    omega
  have hones : (0xFF : UInt8).toNat = 2 ^ 8 - 1 := rfl
  rw [UInt8.toNat_and, UInt8.toNat_shiftLeft, hshift, hones, ← Nat.shiftRight_eq_div_pow,
    ← Nat.shiftLeft_eq]
  -- bit by bit: the mask is set from bit `k` on, and the octet has no bits from bit 8 on
  apply Nat.eq_of_testBit_eq
  intro i
  simp only [Nat.testBit_and, Nat.testBit_mod_two_pow, Nat.testBit_shiftLeft,
    Nat.testBit_two_pow_sub_one, Nat.testBit_shiftRight]
  by_cases hki : k ≤ i
  · rw [show k + (i - k) = i by omega]
    by_cases hi : i < 8
    · simp [hki, hi, show i - k < 8 by omega]
    · have hlt : octet.toNat < 2 ^ i :=
        Nat.lt_of_lt_of_le hoctet (Nat.pow_le_pow_right (by omega) (by omega))
      have hzero : octet.toNat.testBit i = false := Nat.testBit_lt_two_pow hlt
      simp [hzero]
  · simp [hki]

theorem and_mask_eq_iff (a b : UInt8) {k : Nat} (hk : k < 8) :
    a &&& ((0xFF : UInt8) <<< k.toUInt8) = b &&& ((0xFF : UInt8) <<< k.toUInt8) ↔
      a.toNat / 2 ^ k = b.toNat / 2 ^ k := by
  rw [← UInt8.toNat_inj, toNat_and_mask a hk, toNat_and_mask b hk]
  exact Nat.mul_left_inj (Nat.pos_iff_ne_zero.mp (Nat.two_pow_pos k))

/-- Division splits off the first octet as long as the bits divided away lie behind it. -/
theorem bigEndian_cons_div (octet : UInt8) (rest : List UInt8) {k : Nat}
    (hk : k ≤ 8 * rest.length) :
    bigEndian (octet :: rest) / 2 ^ k =
      octet.toNat * 2 ^ (8 * rest.length - k) + bigEndian rest / 2 ^ k := by
  have hpow : 2 ^ (8 * rest.length) = 2 ^ k * 2 ^ (8 * rest.length - k) := by
    rw [← Nat.pow_add, Nat.add_sub_cancel' hk]
  rw [bigEndian, hpow, Nat.mul_left_comm, Nat.mul_add_div (Nat.two_pow_pos k)]

/-- Division beyond the first octet leaves the octets behind it out. -/
theorem bigEndian_cons_div_beyond (octet : UInt8) (rest : List UInt8) (k : Nat) :
    bigEndian (octet :: rest) / 2 ^ (8 * rest.length + k) = octet.toNat / 2 ^ k := by
  rw [Nat.pow_add, ← Nat.div_div_eq_div_mul, bigEndian, Nat.mul_comm,
    Nat.mul_add_div (Nat.two_pow_pos _), Nat.div_eq_of_lt (bigEndian_lt rest), Nat.add_zero]

/-- What division keeps of a number takes no more bits than are left. -/
theorem bigEndian_div_lt {octets : List UInt8} {n k : Nat} (hlength : octets.length = n)
    (hk : k ≤ 8 * n) : bigEndian octets / 2 ^ k < 2 ^ (8 * n - k) := by
  have hlt := bigEndian_lt octets
  rw [hlength] at hlt
  rw [Nat.div_lt_iff_lt_mul (Nat.two_pow_pos _), ← Nat.pow_add]
  rwa [Nat.sub_add_cancel hk]

/-- Two numbers in front of remainders that are too small to carry are compared one by one. -/
theorem mul_add_eq_iff {n a b c d : Nat} (hc : c < n) (hd : d < n) :
    a * n + c = b * n + d ↔ a = b ∧ c = d := by
  constructor
  · intro h
    have hn : 0 < n := by omega
    have hab : a = b := by
      have hdiv := congrArg (· / n) h
      simpa [Nat.mul_comm _ n, Nat.mul_add_div hn, Nat.div_eq_of_lt hc, Nat.div_eq_of_lt hd]
        using hdiv
    subst hab
    exact ⟨rfl, by omega⟩
  · rintro ⟨rfl, rfl⟩
    rfl

namespace Network

/-- Two lists of octets agree in no bits at all. -/
theorem agree_zero (as bs : List UInt8) : agree 0 as bs = true := by
  cases as <;> cases bs <;> simp [agree]

theorem agree_iff {bits : Nat} {as bs : List UInt8} (hlength : as.length = bs.length)
    (hbits : bits ≤ 8 * as.length) :
    agree bits as bs = true ↔
      bigEndian as / 2 ^ (8 * as.length - bits) = bigEndian bs / 2 ^ (8 * as.length - bits) := by
  induction as generalizing bits bs with
  | nil =>
    obtain rfl := List.length_eq_zero_iff.mp hlength.symm
    simp [agree]
  | cons a as ih =>
    obtain ⟨b, bs, rfl⟩ := List.exists_cons_of_length_eq_add_one hlength.symm
    have hrest : as.length = bs.length := Nat.succ.inj hlength
    rw [List.length_cons] at hbits ⊢
    rw [agree]
    by_cases hzero : bits = 0
    · -- nothing is left of either number
      have ha := bigEndian_lt (a :: as)
      have hb := bigEndian_lt (b :: bs)
      rw [List.length_cons] at ha hb
      rw [if_pos hzero, hzero, Nat.sub_zero, Nat.div_eq_of_lt ha, hrest, Nat.div_eq_of_lt hb]
      simp
    · rw [if_neg hzero]
      simp only [Bool.and_eq_true, beq_iff_eq]
      rw [and_mask_eq_iff a b (by omega)]
      by_cases hfull : 8 ≤ bits
      · -- the whole first octet counts, and some of the rest
        rw [ih hrest (by omega), show min bits 8 = 8 by omega,
          show 8 * (as.length + 1) - bits = 8 * as.length - (bits - 8) by omega,
          bigEndian_cons_div a as (by omega), bigEndian_cons_div b bs (by omega), ← hrest]
        -- what is kept of the rest is too small to carry into the first octet
        have hkeep : 8 * as.length - (bits - 8) ≤ 8 * as.length := by omega
        rw [mul_add_eq_iff (bigEndian_div_lt rfl hkeep) (bigEndian_div_lt hrest.symm hkeep)]
        simp
      · -- only bits of the first octet count
        rw [show 8 * (as.length + 1) - bits = 8 * as.length + (8 - bits) by omega,
          bigEndian_cons_div_beyond, hrest, bigEndian_cons_div_beyond,
          show min bits 8 = bits by omega, Nat.sub_self, agree_zero]
        simp

theorem contains_iff (network : Network) (address : Address) :
    network.contains address = true ↔ address.Within network.address network.length := by
  rw [contains, Bool.and_eq_true]
  refine and_congr_right fun hfamily => ?_
  have hbits := network.length_le
  have hwidth := Address.length_octets network.address
  have hsame := Address.length_octets address
  rw [Address.width_eq hfamily] at hsame
  rw [agree_iff (by omega) (by omega), hsame]
  rfl

end Network

end AccessPolicy
