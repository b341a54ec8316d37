/-!
# Addresses

IPv4 and IPv6 addresses. An IPv6 address that wraps an IPv4 address counts as the latter.
-/

namespace AccessPolicy

/-- An IPv4 address by its octets, or an IPv6 address by its groups of two octets. -/
inductive Address where
  | v4 (a b c d : UInt8)
  | v6 (a b c d e f g h : UInt16)
deriving DecidableEq, Repr

namespace Address

/-- The high and the low octet of a group. -/
def groupOctets (group : UInt16) : List UInt8 :=
  [(group >>> 8).toUInt8, group.toUInt8]

/-- The octets of an address, most significant first. -/
def octets : Address → List UInt8
  | .v4 a b c d => [a, b, c, d]
  | .v6 a b c d e f g h => [a, b, c, d, e, f, g, h].flatMap groupOctets

/-- The count of bits of an address. -/
def width : Address → Nat
  | .v4 .. => 32
  | .v6 .. => 128

/-- Unwraps an IPv4 address that is written as an IPv6 one. -/
def canonical : Address → Address
  | .v6 0 0 0 0 0 0xFFFF g h =>
    .v4 (g >>> 8).toUInt8 g.toUInt8 (h >>> 8).toUInt8 h.toUInt8
  | address => address

/-- Whether two addresses are of one family. -/
def sameFamily : Address → Address → Bool
  | .v4 .., .v4 .. => true
  | .v6 .., .v6 .. => true
  | _, _ => false

end Address

end AccessPolicy
