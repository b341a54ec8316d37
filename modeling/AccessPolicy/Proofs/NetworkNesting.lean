import AccessPolicy.Proofs.NetworkText
import Mathlib.Data.Set.Lattice
import Mathlib.Order.CompletePartialOrder

/-!
# Networks are nested or disjoint

Two networks never overlap in part. What an address is compared with are leading bits, so whoever
shares all the bits that the longer one of two networks asks for shares those that the other one
asks for as well, or none of its members does. This module says so for the texts that lie in
networks, which may be spelled in any way.

Main results:

* `Address.Within.symm`, `Address.Within.trans`, `Address.Within.of_le` — sharing leading bits;
* `texts_subset`, `within_of_mem_of_mem` — one common text is enough for all texts of the longer
  network to lie in the shorter one;
* `nesting_ofText` — how two networks lie to each other.
-/

namespace AccessPolicy

namespace Address

/-! ## Sharing leading bits -/

variable {a b c : Address} {m n : Nat}

theorem Within.symm (h : a.Within b n) : b.Within a n := by
  obtain ⟨hfamily, hquotient⟩ := h
  have hwidth : a.width = b.width := sameFamily_iff.mp hfamily
  refine ⟨sameFamily_iff.mpr hwidth.symm, ?_⟩
  rw [hwidth]
  exact hquotient.symm

theorem Within.trans (hab : a.Within b n) (hbc : b.Within c n) : a.Within c n := by
  have hab' : a.width = b.width := sameFamily_iff.mp hab.1
  have hbc' : b.width = c.width := sameFamily_iff.mp hbc.1
  refine ⟨sameFamily_iff.mpr (hab'.trans hbc'), ?_⟩
  have hquotient := hab.2
  rw [hbc'] at hquotient
  exact hquotient.trans hbc.2

/-- Who shares some leading bits shares any fewer of them. -/
theorem Within.of_le (h : a.Within b n) (hmn : m ≤ n) : a.Within b m := by
  refine ⟨h.1, ?_⟩
  -- the quotient by more bits is a quotient of the quotient by fewer
  obtain ⟨k, hk⟩ : ∃ k, b.width - m = b.width - n + k := Nat.exists_eq_add_of_le (by omega)
  rw [hk, Nat.pow_add, ← Nat.div_div_eq_div_mul, ← Nat.div_div_eq_div_mul, h.2]

/-- Whether two addresses of one width have the same leading `n` bits, compared one by one; the last
bit has the number zero. -/
def SameLeadingBits (n : Nat) (a b : Address) : Prop :=
  ∀ i, a.width - n ≤ i → a.value.testBit i = b.value.testBit i

theorem div_two_pow_eq_iff {x y k : Nat} :
    x / 2 ^ k = y / 2 ^ k ↔ ∀ i, k ≤ i → x.testBit i = y.testBit i := by
  constructor
  · intro h i hi
    have hbit := congrArg (Nat.testBit · (i - k)) h
    simpa [Nat.testBit_div_two_pow, Nat.sub_add_cancel hi] using hbit
  · intro h
    apply Nat.eq_of_testBit_eq
    intro i
    rw [Nat.testBit_div_two_pow, Nat.testBit_div_two_pow]
    exact h _ (by omega)

theorem within_iff_sameLeadingBits (hfamily : a.sameFamily b = true) :
    a.Within b n ↔ SameLeadingBits n a b := by
  rw [Within, div_two_pow_eq_iff, ← sameFamily_iff.mp hfamily, SameLeadingBits]
  exact and_iff_right hfamily

theorem SpelledBy.unique {text : String} (ha : a.SpelledBy text) (hb : b.SpelledBy text) :
    a = b := by
  have hboth := (ofText?_eq_some_iff.mpr ha).symm.trans (ofText?_eq_some_iff.mpr hb)
  exact Option.some.inj hboth

end Address

namespace Network

/-! ## Texts of networks -/

/-- The texts that lie in a network. -/
def texts (network : Network) : Set String :=
  {text | network.matchesText text = true}

variable {outer inner : Network}

/-- A network whose address lies in another one, of no greater length, lies in it with all texts. -/
theorem texts_subset (hlength : outer.length ≤ inner.length)
    (h : inner.address.Within outer.address outer.length) : inner.texts ⊆ outer.texts := by
  intro text htext
  obtain ⟨address, hspelled, hwithin⟩ := matchesText_iff.mp htext
  exact matchesText_iff.mpr ⟨address, hspelled, (hwithin.of_le hlength).trans h⟩

/-- Where one text lies in both networks, the address of the longer one lies in the other. -/
theorem within_of_mem_of_mem (hlength : outer.length ≤ inner.length) {text : String}
    (houter : text ∈ outer.texts) (hinner : text ∈ inner.texts) :
    inner.address.Within outer.address outer.length := by
  obtain ⟨address, hspelled, hwithin⟩ := matchesText_iff.mp houter
  obtain ⟨other, hspelled', hwithin'⟩ := matchesText_iff.mp hinner
  obtain rfl := hspelled.unique hspelled'
  exact (hwithin'.of_le hlength).symm.trans hwithin

/-- A common text spells an address of the family of both networks. -/
theorem sameFamily_of_mem_of_mem {text : String} (houter : text ∈ outer.texts)
    (hinner : text ∈ inner.texts) : outer.address.sameFamily inner.address = true := by
  obtain ⟨address, hspelled, hwithin⟩ := matchesText_iff.mp houter
  obtain ⟨other, hspelled', hwithin'⟩ := matchesText_iff.mp hinner
  obtain rfl := hspelled.unique hspelled'
  have houter' : address.width = outer.address.width := Address.sameFamily_iff.mp hwithin.1
  have hinner' : address.width = inner.address.width := Address.sameFamily_iff.mp hwithin'.1
  exact Address.sameFamily_iff.mpr (houter'.symm.trans hinner')

theorem disjoint_or_subset (hlength : outer.length ≤ inner.length) :
    Disjoint outer.texts inner.texts ∨ inner.texts ⊆ outer.texts := by
  by_cases h : inner.address.Within outer.address outer.length
  · exact .inr (texts_subset hlength h)
  · refine .inl (Set.disjoint_left.mpr fun text houter hinner => h ?_)
    exact within_of_mem_of_mem hlength houter hinner

/-- Networks of one length have the same texts if and only if one has the address of the other. -/
theorem texts_eq_iff (hlength : outer.length = inner.length) :
    outer.texts = inner.texts ↔ outer.address.Within inner.address inner.length := by
  constructor
  · intro h
    have hself : outer.address.text ∈ outer.texts := outer.matchesText_text
    exact within_of_mem_of_mem hlength.ge (h ▸ hself) hself
  · intro h
    refine Set.Subset.antisymm (texts_subset hlength.ge h) (texts_subset hlength.le ?_)
    rw [hlength]
    exact h.symm

/-- How the texts of two networks, of `m` and of `n` leading bits, lie to each other. -/
structure Nesting (m n : Nat) (outer inner : Network) : Prop where
  /-- Networks of different families have no text in common. -/
  families : outer.address.sameFamily inner.address = false → Disjoint outer.texts inner.texts
  /-- Of networks of one family the one that asks for more bits lies within the other or outside. -/
  nested : outer.address.sameFamily inner.address = true → m ≤ n →
    Disjoint outer.texts inner.texts ∨ inner.texts ⊆ outer.texts
  /-- Networks that ask for as many bits have all texts in common or none. -/
  equal : outer.address.sameFamily inner.address = true → m = n →
    Disjoint outer.texts inner.texts ∨ outer.texts = inner.texts
  /-- Bits of the address behind the leading ones do not count, and all others do. -/
  leading : outer.address.sameFamily inner.address = true → m = n →
    (outer.texts = inner.texts ↔ outer.address.SameLeadingBits n inner.address)
  /-- To ask for more bits of the same address lets nothing new in. -/
  longer : outer.address = inner.address → m ≤ n → inner.texts ⊆ outer.texts

/-- Networks are nested or disjoint. -/
theorem nesting_ofText {first second : String} {m n : Nat} (houter : ofText first m = .ok outer)
    (hinner : ofText second n = .ok inner) : Nesting m n outer inner := by
  obtain ⟨-, rfl⟩ := ofText_eq_ok_iff.mp houter
  obtain ⟨-, rfl⟩ := ofText_eq_ok_iff.mp hinner
  refine ⟨?families, ?nested, ?equal, ?leading, ?longer⟩
  case families =>
    intro hfamily
    refine Set.disjoint_left.mpr fun text houter hinner => ?_
    exact Bool.eq_false_iff.mp hfamily (sameFamily_of_mem_of_mem houter hinner)
  case nested => exact fun _ hlength => disjoint_or_subset hlength
  case equal =>
    intro _ hlength
    refine (disjoint_or_subset hlength.le).imp id fun hsubset => ?_
    -- the text of the inner address lies in both, so that the outer texts lie inside as well
    have hself : inner.address.text ∈ inner.texts := inner.matchesText_text
    have hwithin := within_of_mem_of_mem hlength.ge hself (hsubset hself)
    exact (texts_eq_iff hlength).mpr hwithin
  case leading =>
    intro hfamily hlength
    rw [texts_eq_iff hlength, Address.within_iff_sameLeadingBits hfamily]
  case longer =>
    intro haddress hlength
    refine texts_subset hlength ?_
    rw [haddress]
    exact ⟨Address.sameFamily_iff.mpr rfl, rfl⟩

/-- The lengths end in different octets, and the inner address is written as an IPv6 one. -/
theorem nesting_ofText_wrapped : ∃ outer inner,
    ofText "10.16.0.0" 12 = .ok outer ∧ ofText "[::ffff:10.31.255.0]" 20 = .ok inner ∧
      Nesting 12 20 outer inner ∧ inner.texts ⊆ outer.texts := by
  let outer : Network := ⟨.v4 10 16 0 0, 12, rfl, by decide⟩
  let inner : Network := ⟨.v4 10 31 255 0, 20, rfl, by decide⟩
  have houter : ofText "10.16.0.0" 12 = .ok outer :=
    ofText_eq_ok_iff.mpr ⟨Address.ofText?_eq_some_iff.mp (by decide +kernel), rfl⟩
  have hinner : ofText "[::ffff:10.31.255.0]" 20 = .ok inner :=
    ofText_eq_ok_iff.mpr ⟨Address.ofText?_eq_some_iff.mp (by decide +kernel), rfl⟩
  have hnesting := nesting_ofText houter hinner
  refine ⟨outer, inner, houter, hinner, hnesting, ?_⟩
  have hcommon : "10.31.240.1" ∈ outer.texts ∧ "10.31.240.1" ∈ inner.texts := by
    constructor
    · show outer.matchesText "10.31.240.1" = true
      decide +kernel
    · show inner.matchesText "10.31.240.1" = true
      decide +kernel
  refine (hnesting.nested rfl (by decide)).resolve_left fun hdisjoint => ?_
  exact Set.disjoint_left.mp hdisjoint hcommon.1 hcommon.2

end Network

end AccessPolicy
