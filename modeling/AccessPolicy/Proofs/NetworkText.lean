import AccessPolicy.Proofs.Address.Text
import AccessPolicy.Proofs.Network

/-!
# Networks of texts

Networks and the addresses tested against them come from texts. This module says in numbers which
texts make a network and which texts lie in it. Brackets around a literal do not count, and an IPv6
address that wraps an IPv4 one counts as the latter on both sides. A network is itself written as a
text, and no other network is written as the same text.

Main results:

* `countsAs_canonical` — the canonical form of an address, by the bits of its number;
* `ofText?_eq_some_iff` — which texts spell which address;
* `agreeChecked_eq` — the comparison of octets never takes more bits than are left;
* `ofText_membership` — networks and their texts as quotients of numbers;
* `ofText_text` — a network is made again from its text;
* `text_injective`, `description_injective` — networks are told apart by their texts;
* `text_determines` — what the text of a network says.
-/

namespace AccessPolicy

/-! ## Addresses as numbers -/

theorem bigEndian_injective {as bs : List UInt8} (hlength : as.length = bs.length)
    (h : bigEndian as = bigEndian bs) : as = bs := by
  induction as generalizing bs with
  | nil =>
    obtain rfl := List.length_eq_zero_iff.mp hlength.symm
    rfl
  | cons a as ih =>
    obtain ⟨b, bs, rfl⟩ := List.exists_cons_of_length_eq_add_one hlength.symm
    have hrest : as.length = bs.length := Nat.succ.inj hlength
    have ha := bigEndian_lt as
    have hb := bigEndian_lt bs
    -- the octets behind are less than one unit of the first, so both parts are equal
    rw [← hrest] at hb
    rw [bigEndian, bigEndian, ← hrest, mul_add_eq_iff ha hb] at h
    rw [UInt8.toNat_inj.mp h.1, ih hrest h.2]

namespace Address

/-- A group counts as its two octets do. -/
theorem bigEndian_groupOctets (group : UInt16) (rest : List UInt8) :
    bigEndian (groupOctets group ++ rest) =
      group.toNat * 2 ^ (8 * rest.length) + bigEndian rest := by
  have hlt := group.toNat_lt
  have hgroup : (group >>> 8).toUInt8.toNat * 2 ^ 8 + group.toUInt8.toNat = group.toNat := by
    simp [Nat.shiftRight_eq_div_pow]
    omega
  -- what is left is to count the bits that the second octet is shifted by
  simp only [groupOctets, List.cons_append, List.nil_append, bigEndian, List.length_cons]
  rw [← hgroup, Nat.add_mul, Nat.add_assoc, Nat.mul_assoc, ← Nat.pow_add]
  congr 4
  omega

theorem value_v4 (a b c d : UInt8) :
    (v4 a b c d).value =
      a.toNat * 2 ^ 24 + b.toNat * 2 ^ 16 + c.toNat * 2 ^ 8 + d.toNat := by
  simp only [value, octets, bigEndian, List.length_cons, List.length_nil]
  omega

theorem value_v6 (a b c d e f g h : UInt16) :
    (v6 a b c d e f g h).value =
      a.toNat * 2 ^ 112 + b.toNat * 2 ^ 96 + c.toNat * 2 ^ 80 + d.toNat * 2 ^ 64 +
        e.toNat * 2 ^ 48 + f.toNat * 2 ^ 32 + g.toNat * 2 ^ 16 + h.toNat := by
  simp only [value, octets, List.flatMap_cons, List.flatMap_nil, bigEndian_groupOctets,
    List.length_append, List.length_nil, bigEndian]
  simp only [groupOctets, List.length_cons, List.length_nil]
  omega

theorem groups_eq_of_octets_eq {gs hs : List UInt16}
    (h : gs.flatMap groupOctets = hs.flatMap groupOctets) : gs = hs := by
  induction gs generalizing hs with
  | nil => cases hs <;> simp_all [groupOctets]
  | cons g gs ih =>
    cases hs with
    | nil => simp [groupOctets] at h
    | cons k hs =>
      obtain ⟨hfirst, hrest⟩ := List.append_inj h rfl
      have hg := bigEndian_groupOctets g []
      have hk := bigEndian_groupOctets k []
      rw [hfirst] at hg
      have hgk : g.toNat = k.toNat := by simpa [bigEndian] using hg.symm.trans hk
      rw [UInt16.toNat_inj.mp hgk, ih hrest]

/-- Addresses of one family are told apart by their numbers. -/
theorem eq_of_value_eq {a b : Address} (hfamily : a.width = b.width)
    (h : a.value = b.value) : a = b := by
  have hlength : a.octets.length = b.octets.length := by
    have ha := a.length_octets
    have hb := b.length_octets
    omega
  have hoctets := bigEndian_injective hlength h
  -- of different families they would have different widths
  cases a <;> cases b
  case v4.v4 => simpa [octets] using hoctets
  case v6.v6 => simpa using groups_eq_of_octets_eq hoctets
  all_goals simp [width] at hfamily

/-! ## Wrapped addresses -/

/-- Whether an address wraps an IPv4 one: its first 80 bits are zeros, and the next 16 ones. -/
def Wraps (address : Address) : Prop :=
  address.width = 128 ∧ address.value / 2 ^ 32 = 0xFFFF

/-- What an address counts as: the last 32 bits as an IPv4 address if it wraps one, and else just
what it is. -/
structure CountsAs (parsed address : Address) : Prop where
  wrapped : parsed.Wraps → address.width = 32 ∧ address.value = parsed.value % 2 ^ 32
  plain : ¬ parsed.Wraps → address = parsed

theorem CountsAs.unique {parsed a b : Address} (ha : parsed.CountsAs a) (hb : parsed.CountsAs b) :
    a = b := by
  by_cases h : parsed.Wraps
  · obtain ⟨hwa, hva⟩ := ha.wrapped h
    obtain ⟨hwb, hvb⟩ := hb.wrapped h
    exact eq_of_value_eq (hwa.trans hwb.symm) (hva.trans hvb.symm)
  · rw [ha.plain h, hb.plain h]

theorem value_wrapped (g h : UInt16) :
    (v6 0 0 0 0 0 0xFFFF g h).value = 0xFFFF * 2 ^ 32 + g.toNat * 2 ^ 16 + h.toNat := by
  rw [value_v6]
  simp

theorem wraps_wrapped (g h : UInt16) : (v6 0 0 0 0 0 0xFFFF g h).Wraps := by
  have hg := g.toNat_lt
  have hh := h.toNat_lt
  rw [Wraps, value_wrapped, width]
  omega

theorem countsAs_canonical (parsed : Address) : parsed.CountsAs parsed.canonical := by
  unfold canonical
  split
  · next g h =>
    have hg := g.toNat_lt
    have hh := h.toNat_lt
    constructor
    · intro _
      rw [value_wrapped, value_v4, width]
      simp [Nat.shiftRight_eq_div_pow]
      omega
    · intro hplain
      exact absurd (wraps_wrapped g h) hplain
  · next hno =>
    refine ⟨fun hwraps => ?_, fun _ => rfl⟩
    -- an address with these leading bits has the groups that were looked for
    rcases parsed with _ | ⟨a, b, c, d, e, f, g, h⟩
    · simp [Wraps, width] at hwraps
    · have hvalue := hwraps.2
      have hg := g.toNat_lt
      have hh := h.toNat_lt
      rw [value_v6] at hvalue
      have hf := f.toNat_lt
      obtain ⟨ha, hb, hc, hd, he, hf⟩ : a.toNat = 0 ∧ b.toNat = 0 ∧ c.toNat = 0 ∧ d.toNat = 0 ∧
          e.toNat = 0 ∧ f.toNat = 0xFFFF := by omega
      refine absurd ?_ (hno g h)
      simp only [v6.injEq, ← UInt16.toNat_inj]
      simp [ha, hb, hc, hd, he, hf]

/-! ## Addresses of texts -/

/-- What is left of a text without the pair of brackets around it, if there is one. -/
inductive Unbracketed : List Char → List Char → Prop where
  | brackets (inner : List Char) : Unbracketed ('[' :: inner ++ [']']) inner
  | bare {text : List Char} (h : ∀ inner, text ≠ '[' :: inner ++ [']']) : Unbracketed text text

theorem unbracketed_iff {text inner : List Char} :
    Unbracketed text inner ↔ stripBrackets text = inner := by
  constructor
  · rintro (_ | hbare)
    · simp [stripBrackets]
    · -- a text that loses brackets is not a bare one
      unfold stripBrackets
      split
      · next rest =>
        split
        · next hlast =>
          obtain ⟨init, rfl⟩ := List.getLast?_eq_some_iff.mp hlast
          exact absurd rfl (hbare init)
        · rfl
      · rfl
  · rintro rfl
    unfold stripBrackets
    split
    · next rest =>
      split
      · next hlast =>
        obtain ⟨init, rfl⟩ := List.getLast?_eq_some_iff.mp hlast
        simpa using Unbracketed.brackets init
      · next hlast =>
        -- the bracket that opens is not closed at the end
        refine .bare fun inner heq => hlast ?_
        simp at heq
        simp [heq]
    · next hopen =>
      exact .bare fun inner heq => hopen _ heq

/-- Whether a text spells an address: it is a literal, in brackets or not, that counts as it. -/
def SpelledBy (address : Address) (text : String) : Prop :=
  ∃ inner parsed, Unbracketed text.toList inner ∧ ofLiteral? inner = some parsed ∧
    parsed.CountsAs address

theorem ofText?_eq_some_iff {text : String} {address : Address} :
    ofText? text = some address ↔ address.SpelledBy text := by
  rw [ofText?, Option.map_eq_some_iff]
  constructor
  · rintro ⟨parsed, hparsed, rfl⟩
    exact ⟨_, parsed, unbracketed_iff.mpr rfl, hparsed, countsAs_canonical parsed⟩
  · rintro ⟨inner, parsed, hinner, hparsed, hcounts⟩
    obtain rfl := unbracketed_iff.mp hinner
    exact ⟨parsed, hparsed, (countsAs_canonical parsed).unique hcounts⟩

theorem sameFamily_iff {a b : Address} : a.sameFamily b = true ↔ a.width = b.width := by
  cases a <;> cases b <;> simp [sameFamily, width]

end Address

namespace Network

/-! ## Checked arithmetic -/

/-- The difference of two counts, unless it is below zero. -/
def checkedSub (a b : Nat) : Option Nat :=
  if b ≤ a then some (a - b) else none

/-- An octet shifted to the left, unless nothing of it would be left. -/
def checkedShift (octet : UInt8) (k : Nat) : Option UInt8 :=
  if k < 8 then some (octet <<< k.toUInt8) else none

/-- The comparison of octets where every step of arithmetic may fail. -/
def agreeChecked : Nat → List UInt8 → List UInt8 → Option Bool
  | bits, a :: as, b :: bs =>
    if bits = 0 then some true
    else do
      let take := min bits 8
      let mask ← checkedShift 0xFF (← checkedSub 8 take)
      if a &&& mask == b &&& mask then agreeChecked (← checkedSub bits take) as bs else some false
  | _, _, _ => some true

/-- No step of the comparison fails: at each octet between one and eight bits are taken, and never
more than are left. -/
theorem agreeChecked_eq (bits : Nat) (as bs : List UInt8) :
    agreeChecked bits as bs = some (agree bits as bs) := by
  induction as generalizing bits bs with
  | nil => simp [agreeChecked, agree]
  | cons a as ih =>
    cases bs with
    | nil => simp [agreeChecked, agree]
    | cons b bs =>
      rw [agreeChecked, agree]
      by_cases hzero : bits = 0
      · rw [if_pos hzero, if_pos hzero]
      · -- between one and eight bits of this octet count
        rw [if_neg hzero, if_neg hzero]
        have htake : checkedSub 8 (min bits 8) = some (8 - min bits 8) := if_pos (by omega)
        have hshift : checkedShift 0xFF (8 - min bits 8) =
            some (0xFF <<< (8 - min bits 8).toUInt8) := if_pos (by omega)
        have hleft : checkedSub bits (min bits 8) = some (bits - min bits 8) := if_pos (by omega)
        simp only [htake, hshift, hleft, Option.bind_eq_bind, Option.bind_some]
        split
        · next heq => simp [heq, ih]
        · next hne => simp [hne]

/-! ## Networks of texts -/

theorem ofText_eq_ok_iff {text : String} {length : Nat} {network : Network} :
    ofText text length = .ok network ↔
      network.address.SpelledBy text ∧ network.length = length := by
  rw [← Address.ofText?_eq_some_iff]
  unfold ofText
  split
  · next h => simp [h]
  · next parsed h =>
    split
    · next hl =>
      constructor
      · rintro ⟨rfl⟩
        exact ⟨h, rfl⟩
      · rintro ⟨haddress, rfl⟩
        obtain rfl := Option.some.inj (h.symm.trans haddress)
        rfl
    · next hl =>
      constructor
      · nofun
      · rintro ⟨haddress, rfl⟩
        obtain rfl := Option.some.inj (h.symm.trans haddress)
        exact absurd network.length_le hl

theorem ofText_eq_error_iff {text : String} {length : Nat} {e : Error} :
    ofText text length = .error e ↔
      (∀ address : Address, ¬ address.SpelledBy text) ∧ e = .invalidAddress text ∨
      ∃ address : Address, address.SpelledBy text ∧ address.width < length ∧
        e = .invalidPrefixLength text length address.width := by
  simp only [← Address.ofText?_eq_some_iff]
  unfold ofText
  split
  · next h => simp [h, eq_comm]
  · next parsed h =>
    split
    · next hl => simp [h, Nat.not_lt.mpr hl]
    · next hl => simp [h, Nat.lt_of_not_le hl, eq_comm]

theorem matchesText_iff {network : Network} {text : String} :
    network.matchesText text = true ↔
      ∃ address : Address, address.SpelledBy text ∧
        address.Within network.address network.length := by
  simp only [matchesText, Option.any_eq_true, Address.ofText?_eq_some_iff, contains_iff]

/-- Membership in a network is integer prefix comparison. A text and a count of leading bits make a
network if and only if the text spells an address with that many bits, and what is wrong with the
text is told before what is wrong with the count. A text is in the network if and only if it spells
an address of the same width, and both give the same quotient when all bits but the leading ones
are divided away. No step of the comparison takes more bits than there are. -/
theorem ofText_membership (text : String) (length : Nat) :
    ((∃ network, ofText text length = .ok network) ↔
      ∃ address : Address, address.SpelledBy text ∧ length ≤ address.width) ∧
    (∀ e, ofText text length = .error e ↔
      (∀ address : Address, ¬ address.SpelledBy text) ∧ e = .invalidAddress text ∨
      ∃ address : Address, address.SpelledBy text ∧ address.width < length ∧
        e = .invalidPrefixLength text length address.width) ∧
    (∀ network, ofText text length = .ok network → ∀ candidate,
      network.matchesText candidate = true ↔
        ∃ address base : Address, address.SpelledBy candidate ∧ base.SpelledBy text ∧
          address.width = base.width ∧
          address.value / 2 ^ (base.width - length) = base.value / 2 ^ (base.width - length)) ∧
    ∀ as bs, agreeChecked length as bs = some (agree length as bs) := by
  refine ⟨?_, fun e => ofText_eq_error_iff, ?_, agreeChecked_eq length⟩
  · constructor
    · rintro ⟨network, h⟩
      obtain ⟨haddress, rfl⟩ := ofText_eq_ok_iff.mp h
      exact ⟨network.address, haddress, network.length_le⟩
    · rintro ⟨address, haddress, hlength⟩
      have hparsed := Address.ofText?_eq_some_iff.mpr haddress
      exact ⟨⟨address, length, canonical_of_ofText? hparsed, hlength⟩,
        ofText_eq_ok_iff.mpr ⟨haddress, rfl⟩⟩
  · intro network h candidate
    obtain ⟨hbase, rfl⟩ := ofText_eq_ok_iff.mp h
    rw [matchesText_iff]
    constructor
    · rintro ⟨address, haddress, hfamily, hquotient⟩
      exact ⟨address, network.address, haddress, hbase, Address.sameFamily_iff.mp hfamily,
        hquotient⟩
    · rintro ⟨address, base, haddress, hbase', hwidth, hquotient⟩
      -- a text spells one address at most
      have hparsed := Address.ofText?_eq_some_iff.mpr hbase
      have hparsed' := Address.ofText?_eq_some_iff.mpr hbase'
      obtain rfl := Option.some.inj (hparsed.symm.trans hparsed')
      exact ⟨address, haddress, Address.sameFamily_iff.mpr hwidth, hquotient⟩

/-- Both texts wrap IPv4 addresses, in brackets and not, and the count ends inside an octet. -/
theorem ofText_membership_wrapped :
    ∃ network, ofText "[::ffff:10.1.0.0]" 12 = .ok network ∧
      network.matchesText "::ffff:a0f:ffff" = true ∧ network.matchesText "10.16.0.0" = false := by
  obtain ⟨hok, -, hmatches, -⟩ := ofText_membership "[::ffff:10.1.0.0]" 12
  have hbase : (Address.v4 10 1 0 0).SpelledBy "[::ffff:10.1.0.0]" :=
    Address.ofText?_eq_some_iff.mp (by decide +kernel)
  have hinside : (Address.v4 10 15 255 255).SpelledBy "::ffff:a0f:ffff" :=
    Address.ofText?_eq_some_iff.mp (by decide +kernel)
  obtain ⟨network, hnetwork⟩ := hok.mpr ⟨_, hbase, by decide⟩
  refine ⟨network, hnetwork, (hmatches network hnetwork _).mpr ?_, ?_⟩
  · exact ⟨_, _, hinside, hbase, rfl, by decide +kernel⟩
  · rw [Bool.eq_false_iff, ne_eq, hmatches network hnetwork]
    rintro ⟨address, base, haddress, hbase', -, hquotient⟩
    have houtside : Address.ofText? "10.16.0.0" = some (.v4 10 16 0 0) := by decide +kernel
    have hbase := Address.ofText?_eq_some_iff.mpr hbase
    obtain rfl := Option.some.inj (houtside.symm.trans (Address.ofText?_eq_some_iff.mpr haddress))
    obtain rfl := Option.some.inj (hbase.symm.trans (Address.ofText?_eq_some_iff.mpr hbase'))
    exact absurd hquotient (by decide +kernel)

/-! ## Networks as texts -/

theorem spelledBy_text (network : Network) : network.address.SpelledBy network.address.text := by
  have hread := Address.ofText?_text network.address
  rw [network.canonical_address] at hread
  exact Address.ofText?_eq_some_iff.mp hread

theorem ofText_text (network : Network) :
    ofText network.address.text network.length = .ok network :=
  ofText_eq_ok_iff.mpr ⟨network.spelledBy_text, rfl⟩

theorem matchesText_text (network : Network) : network.matchesText network.address.text = true := by
  have hfamily : network.address.sameFamily network.address = true :=
    Address.sameFamily_iff.mpr rfl
  exact matchesText_iff.mpr ⟨network.address, network.spelledBy_text, hfamily, rfl⟩

theorem toList_text (network : Network) : network.text.toList =
    network.address.text.toList ++ '/' :: Nat.toDigits 10 network.length := by
  simp [text]

theorem slash_notMem_length (network : Network) : '/' ∉ Nat.toDigits 10 network.length := by
  intro h
  exact absurd ((Text.isDecimal_toDigits network.length).digit '/' h) (by decide)

theorem text_injective {network other : Network} (h : other.text = network.text) :
    other = network := by
  -- the slash ends the address, so that the parts are equal one by one
  have hparts : other.address.text.toList ++ '/' :: Nat.toDigits 10 other.length =
      network.address.text.toList ++ '/' :: Nat.toDigits 10 network.length := by
    rw [← toList_text, ← toList_text, h]
  rw [List.append_cons_inj_of_notMem (Address.notMem_text (by decide) other.address)
    other.slash_notMem_length] at hparts
  obtain ⟨haddress, -, hdigits⟩ := hparts
  have hlength : other.length = network.length := by
    rw [← Text.decimalValue_toDigits other.length, hdigits, Text.decimalValue_toDigits]
  have hmade := other.ofText_text
  rw [String.toList_inj.mp haddress, hlength, ofText_text] at hmade
  exact (Except.ok.inj hmade).symm

theorem description_injective {network other : Network}
    (h : other.description = network.description) : other = network := by
  refine text_injective (String.toList_inj.mp ?_)
  have hlists := congrArg String.toList h
  simpa [description, Text.tagged] using hlists

/-- The text of a network has one slash. The part in front of it is an address of the network and
the part behind it is a number in decimal digits, and together they make just this network again. No
other network has the same text or the same description. -/
theorem text_determines (network : Network) :
    (∃ address length : String, network.text = address ++ "/" ++ length ∧
      '/' ∉ address.toList ∧ '/' ∉ length.toList ∧ Text.IsDecimal length.toList ∧
      ofText address (Text.decimalValue length.toList) = .ok network ∧
      network.matchesText address = true) ∧
    (∀ other : Network, other.text = network.text → other = network) ∧
    ∀ other : Network, other.description = network.description → other = network := by
  refine ⟨?_, fun _ => text_injective, fun _ => description_injective⟩
  have hlength : (toString network.length).toList = Nat.toDigits 10 network.length :=
    Nat.toList_repr
  refine ⟨network.address.text, toString network.length, rfl, ?_⟩
  rw [hlength, Text.decimalValue_toDigits]
  exact ⟨Address.notMem_text (by decide) network.address, network.slash_notMem_length,
    Text.isDecimal_toDigits network.length, network.ofText_text, network.matchesText_text⟩

/-- An IPv4 address that was wrapped and in brackets is written without both. -/
example : (ofText "[::ffff:10.1.0.0]" 12).map text = .ok "10.1.0.0/12" ∧
    (ofText "2001:DB8:0:0:1:0:0:0" 48).map text = .ok "2001:db8:0:0:1::/48" := by
  decide +kernel

end Network

end AccessPolicy
