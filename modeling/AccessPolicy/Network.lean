import AccessPolicy.Address.Text
import AccessPolicy.Error

/-!
# Networks

A network is the set of the addresses that share some leading bits.
-/

namespace AccessPolicy

/-- The addresses whose leading `length` bits are those of `address`. -/
structure Network where
  address : Address
  length : Nat
  canonical_address : address.canonical = address
  length_le : length ≤ address.width
deriving DecidableEq

namespace Network

/-- An address either wraps an IPv4 address or is left alone. -/
theorem canonical_eq_v4_or_self (address : Address) :
    (∃ a b c d, address.canonical = .v4 a b c d) ∨ address.canonical = address := by
  unfold Address.canonical
  split
  · exact .inl ⟨_, _, _, _, rfl⟩
  · exact .inr rfl

/-- A canonical address is left alone by `canonical`. -/
theorem canonical_canonical (address : Address) :
    address.canonical.canonical = address.canonical := by
  rcases canonical_eq_v4_or_self address with ⟨a, b, c, d, h⟩ | h
  · rw [h]; rfl
  · rw [h, h]

theorem canonical_of_ofText? {text : String} {address : Address}
    (h : Address.ofText? text = some address) : address.canonical = address := by
  obtain ⟨a, _, rfl⟩ := Option.map_eq_some_iff.mp h
  exact canonical_canonical a

/-- The network of an address literal and a count of leading bits. -/
def ofText (address : String) (length : Nat) : Except Error Network :=
  match h : Address.ofText? address with
  | none => .error (.invalidAddress address)
  | some parsed =>
    if hl : length ≤ parsed.width then
      .ok ⟨parsed, length, canonical_of_ofText? h, hl⟩
    else
      .error (.invalidPrefixLength address length parsed.width)

/-- Whether two lists of octets agree in their leading `bits` bits. -/
def agree : Nat → List UInt8 → List UInt8 → Bool
  | bits, a :: as, b :: bs =>
    if bits = 0 then true
    else
      let take := min bits 8
      let mask : UInt8 := 0xFF <<< (8 - take).toUInt8
      a &&& mask == b &&& mask && agree (bits - take) as bs
  | _, _, _ => true

/-- Whether an address lies in the network. -/
def contains (network : Network) (address : Address) : Bool :=
  address.sameFamily network.address && agree network.length address.octets network.address.octets

/-- Whether a text spells an address of the network. -/
def matchesText (network : Network) (text : String) : Bool :=
  (Address.ofText? text).any network.contains

/-- The network as text: its address and the count of leading bits. -/
def text (network : Network) : String :=
  network.address.text ++ "/" ++ toString network.length

/-- The description of a network. -/
def description (network : Network) : String :=
  Text.tagged "IpMatcher" [network.text]

end Network

end AccessPolicy
