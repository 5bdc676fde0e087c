/-
# Echo requests and replies

`encodeRequest` builds an echo request with a payload of the bytes 0, 1, …, 255, 0, ….  For
IPv4 the checksum is stamped here; for IPv6 it covers addresses that only the sender's system
knows, and stays zero.

`decode` looks at one received datagram.  For IPv4 it starts with the IP header, which names the
source; for IPv6 the source is where it was received from.  The first check that fails says what
is wrong with a datagram.
-/
import IcmpEcho.ErrorCode
import IcmpEcho.Packet.EchoHeader
import IcmpEcho.Packet.Ipv4Header

namespace IcmpEcho

/-! ## 1. Requests -/

/-- The largest IP packet, in bytes. -/
def maxIpPacket : Nat := 65535

/-- The largest payload of one echo request.  The length field of IPv6 does not count the
fixed header. -/
def maxPayload : Family → Nat
  | .v4 => maxIpPacket - Ipv4Header.minLength - EchoHeader.length
  | .v6 => maxIpPacket - EchoHeader.length

/-- An echo request with `size` payload bytes, or the fault that it is too large. -/
def encodeRequest (family : Family) (identifier sequence : UInt16) (size : Nat) :
    Except PingFault Bytes :=
  if maxPayload family < size then .error .packetTooLarge
  else
    let body := Bytes.ramp size
    let header : EchoHeader := { identifier, sequence }
    match family with
    | .v4 => .ok (({ header with type := EchoHeader.echoRequest }.stamp body).toBytes ++ body)
    | .v6 => .ok ({ header with type := EchoHeader.echoRequestV6 }.toBytes ++ body)

/-! ## 2. Replies -/

/-- What an echo reply says. -/
structure EchoReply where
  family : Family := .v4
  source : Address := .any
  /-- Known for IPv4 only, where the IP header is part of the datagram. -/
  destination : Address := .any
  identifier : UInt16 := 0
  sequence : UInt16 := 0
  /-- Zero for IPv6, whose hop limit is not reported. -/
  timeToLive : Nat := 0
  /-- The bytes of the ICMP message, header included. -/
  size : Nat := 0
  deriving DecidableEq, Repr, Inhabited

/-- What a datagram turned out to be. -/
inductive Decoded
  | reply (reply : EchoReply)
  /-- An echo request: one of our own that came back, or somebody else's. -/
  | request
  | malformed (fault : PingFault)
  deriving DecidableEq, Repr

/-- Reads the ICMP message of an IPv4 datagram. -/
def decodeMessageV4 (header : Ipv4Header) (message : Bytes) : Decoded :=
  match EchoHeader.ofBytes? message with
  | none => .malformed .truncatedPacket
  | some echo =>
    if internetChecksum message ≠ 0 then .malformed .badChecksum
    else if echo.type = EchoHeader.echoRequest then .request
    else if echo.type ≠ EchoHeader.echoReply then .malformed .unsupportedType
    else
      .reply
        { family := .v4
          source := header.source
          destination := header.destination
          identifier := echo.identifier
          sequence := echo.sequence
          timeToLive := header.timeToLive.toNat
          size := message.length }

/-- Reads an IPv4 datagram, which starts with its IP header. -/
def decodeV4 (data : Bytes) : Decoded :=
  if data.length < Ipv4Header.minLength ∨ data.length < Ipv4Header.claimedLength data then
    .malformed .truncatedPacket
  else
    let header := Ipv4Header.read data
    if ¬ header.parsed ∨ header.protocol ≠ Ipv4Header.icmp then .malformed .notIcmp
    else decodeMessageV4 header (data.drop header.headerLength)

/-- Reads an IPv6 datagram, which is the ICMPv6 message alone. -/
def decodeV6 (data : Bytes) (source : Address) : Decoded :=
  match EchoHeader.ofBytes? data with
  | none => .malformed .truncatedPacket
  | some echo =>
    if echo.type = EchoHeader.echoRequestV6 then .request
    else if echo.type ≠ EchoHeader.echoReplyV6 then .malformed .unsupportedType
    else
      .reply
        { family := .v6
          source
          identifier := echo.identifier
          sequence := echo.sequence
          size := data.length }

/-- Reads one datagram that was received from `source`. -/
def decode (family : Family) (data : Bytes) (source : Address) : Decoded :=
  match family with
  | .v4 => decodeV4 data
  | .v6 => decodeV6 data source

/-- A reply answers a request when source, sequence and identifier are the expected ones. -/
def EchoReply.answers (reply : EchoReply) (destination : Address)
    (sequence identifier : UInt16) : Bool :=
  reply.source = destination ∧ reply.sequence = sequence ∧ reply.identifier = identifier

end IcmpEcho
