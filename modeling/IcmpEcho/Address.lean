/-
# Internet addresses

An address is 32 bits of IPv4 or 128 bits of IPv6.  Addresses are ordered with all of IPv4
before all of IPv6, and by their bytes within a family (`Address.before`); the registries of
this library are kept in that order.  An IPv6 address has no scope here: link-local addresses with
the same bytes are one address.
-/
import IcmpEcho.Bytes

namespace IcmpEcho

/-- The two families of Internet addresses. -/
inductive Family
  | v4
  | v6
  deriving DecidableEq, Repr

/-- An Internet address. -/
inductive Address
  | v4 (bits : BitVec 32)
  | v6 (bits : BitVec 128)
  deriving DecidableEq, Repr

namespace Address

/-- The unspecified IPv4 address, which also stands for "no address". -/
def any : Address := .v4 0

instance : Inhabited Address := ⟨any⟩

/-- The family an address belongs to. -/
def family : Address → Family
  | .v4 _ => .v4
  | .v6 _ => .v6

/-- An address is unspecified when all its bytes are zero. -/
def isUnspecified : Address → Bool
  | .v4 bits => bits == 0
  | .v6 bits => bits == 0

/-- The strict order: IPv4 first, then by bytes. -/
def before : Address → Address → Bool
  | .v4 a, .v4 b => a.ult b
  | .v4 _, .v6 _ => true
  | .v6 _, .v4 _ => false
  | .v6 a, .v6 b => a.ult b

/-- The IPv4 address with these four bytes. -/
def ofOctets (a b c d : UInt8) : Address :=
  .v4 (a.toBitVec ++ b.toBitVec ++ c.toBitVec ++ d.toBitVec)

/-- The four bytes of an IPv4 address, or of the low end of an IPv6 one. -/
def octets : Address → Bytes
  | .v4 bits => quad bits
  | .v6 bits => quad (bits.setWidth 32)
where
  quad (bits : BitVec 32) : Bytes :=
    [24, 16, 8, 0].map fun shift => UInt8.ofBitVec (bits.extractLsb' shift 8)

/-- The eight 16-bit groups of an IPv6 address. -/
def groupsOf (bits : BitVec 128) : List UInt16 :=
  [112, 96, 80, 64, 48, 32, 16, 0].map fun shift => UInt16.ofBitVec (bits.extractLsb' shift 16)

/-- The IPv6 address with these groups, high group first. -/
def ofGroups (groups : List UInt16) : Address :=
  .v6 (BitVec.ofNat 128 (groups.foldl (fun value group => value * 65536 + group.toNat) 0))

end Address

end IcmpEcho
