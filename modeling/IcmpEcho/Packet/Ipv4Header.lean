/-
# The IPv4 header in front of a datagram

A raw IPv4 socket hands over every datagram with its IP header.  The header says in its first
byte which version it is and how many 32-bit words it has; 20 to 60 bytes in all.

`Ipv4Header.read` copies a header only if all of it is there, and marks it `parsed` only if its
version is 4.  A header that was not copied reads as zero throughout.
-/
import IcmpEcho.Address

namespace IcmpEcho

/-- What is read from an IPv4 header. -/
structure Ipv4Header where
  /-- A complete header of version 4 was there. -/
  parsed : Bool := false
  version : Nat := 0
  /-- The number of bytes of the header. -/
  headerLength : Nat := 0
  timeToLive : UInt8 := 0
  protocol : UInt8 := 0
  source : Address := .any
  destination : Address := .any
  deriving DecidableEq, Repr, Inhabited

namespace Ipv4Header

/-- The number of bytes of a header without options. -/
def minLength : Nat := 20

/-- The protocol number of ICMP. -/
def icmp : UInt8 := 1

/-- The length that the first byte claims, in bytes. -/
def claimedLength (data : Bytes) : Nat := (data.byteAt 0).toNat % 16 * 4

/-- The IPv4 address at byte `i`. -/
def addressAt (data : Bytes) (i : Nat) : Address :=
  .ofOctets (data.byteAt i) (data.byteAt (i + 1)) (data.byteAt (i + 2)) (data.byteAt (i + 3))

/-- The header at the start of a datagram, or the all-zero header if it is not all there. -/
def read (data : Bytes) : Ipv4Header :=
  let claimed := claimedLength data
  if data.length < minLength ∨ claimed < minLength ∨ data.length < claimed then {}
  else
    let version := (data.byteAt 0).toNat / 16
    { parsed := version = 4
      version
      headerLength := claimed
      timeToLive := data.byteAt 8
      protocol := data.byteAt 9
      source := addressAt data 12
      destination := addressAt data 16 }

end Ipv4Header

end IcmpEcho
