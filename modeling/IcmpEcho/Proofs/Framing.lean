/-
# Requests that are read back

A datagram of IPv4 is an IP header and a message.  A header announces itself
(`Ipv4Header.Announces`) when its first byte gives its version and its own length, and when it
names ICMP as what follows; options, addresses and the time to live may be any bytes.  Behind such
a header the message alone decides what the datagram is (`Ipv4Header.Announces.decodeV4_append`).

**Every request that can be built is read back** (`requests_read_back`), whatever its identifier,
its sequence number and its payload: as a request when it returns as it was sent, and as the reply
with the same numbers when a host has turned it around.  `EchoHeader.stamp` sums the message without
the checksum field and folds twice, `internetChecksum` sums all of it and folds until no carry is
left; that they agree is `EchoHeader.checksum_stamp`.

A caller keeps what it is told in variables of its own.  `requestInto` and `decodeInto` say what a
call leaves there, whatever was there before.
-/
import Mathlib
import IcmpEcho.Network
import IcmpEcho.Proofs.OnesComplement

namespace IcmpEcho

open Checksum

/-! ## 1. Headers that announce themselves -/

theorem Bytes.byteAt_append {front : Bytes} (back : Bytes) {i : Nat} (h : i < front.length) :
    Bytes.byteAt (front ++ back) i = front.byteAt i :=
  List.getD_append front back 0 i h

namespace Ipv4Header

/-- The number of bytes of a header with as many options as its length field allows. -/
def maxLength : Nat := 60

/-- The bytes of an IP header of version 4 that is as long as it says and has ICMP after it. -/
structure Announces (header : Bytes) : Prop where
  least : minLength ≤ header.length
  most : header.length ≤ maxLength
  length : header.length = claimedLength header
  version : (header.byteAt 0).toNat / 16 = 4
  protocol : header.byteAt 9 = icmp

/-- What is read from the bytes of a header that announces itself. -/
def fields (header : Bytes) : Ipv4Header where
  parsed := true
  version := 4
  headerLength := header.length
  timeToLive := header.byteAt 8
  protocol := icmp
  source := addressAt header 12
  destination := addressAt header 16

namespace Announces

variable {header : Bytes}

theorem claimedLength_append (h : Announces header) (message : Bytes) :
    claimedLength (header ++ message) = header.length := by
  have hleast := h.least
  rw [h.length, claimedLength, Bytes.byteAt_append message (by unfold minLength at hleast; omega),
    claimedLength]

theorem addressAt_append (h : Announces header) (message : Bytes) {i : Nat} (hi : i ≤ 16) :
    addressAt (header ++ message) i = addressAt header i := by
  have hleast := h.least
  unfold minLength at hleast
  unfold addressAt
  rw [Bytes.byteAt_append message (by omega), Bytes.byteAt_append message (by omega),
    Bytes.byteAt_append message (by omega), Bytes.byteAt_append message (by omega)]

/-- **A header that announces itself is read,** whatever follows it. -/
theorem read_append (h : Announces header) (message : Bytes) :
    read (header ++ message) = fields header := by
  have hleast := h.least
  have hthere : ¬ ((header ++ message).length < minLength
      ∨ claimedLength (header ++ message) < minLength
      ∨ (header ++ message).length < claimedLength (header ++ message)) := by
    rw [h.claimedLength_append, List.length_append]
    omega
  unfold minLength at hleast
  unfold read
  rw [if_neg hthere, h.claimedLength_append, h.addressAt_append message (by omega),
    h.addressAt_append message (by omega), Bytes.byteAt_append message (by omega),
    Bytes.byteAt_append message (by omega), Bytes.byteAt_append message (by omega), h.version,
    h.protocol]
  rfl

/-- **Behind a header that announces itself** the message decides. -/
theorem decodeV4_append (h : Announces header) (message : Bytes) :
    decodeV4 (header ++ message) = decodeMessageV4 (fields header) message := by
  have hleast := h.least
  have hthere : ¬ ((header ++ message).length < minLength
      ∨ (header ++ message).length < claimedLength (header ++ message)) := by
    rw [h.claimedLength_append, List.length_append]
    omega
  unfold decodeV4
  rw [if_neg hthere, h.read_append]
  simp [fields]

end Announces

end Ipv4Header

/-! ## 2. Variables of a caller -/

/-- The variables of a caller of `decode`: the reply that was last read, and the last code. -/
structure Heard where
  reply : EchoReply := {}
  code : ErrorCode := .success
  deriving DecidableEq, Repr

/-- The kinds of datagrams. -/
inductive Status
  | reply
  | request
  | malformed
  deriving DecidableEq, Repr

/-- Reads a datagram into the variables of a caller, and tells it the kind. -/
def decodeInto (family : Family) (data : Bytes) (source : Address) : StateM Heard Status := do
  modify fun heard => { heard with code := .success }
  match decode family data source with
  | .reply reply =>
    modify fun heard => { heard with reply }
    return .reply
  | .request => return .request
  | .malformed fault =>
    modify fun heard => { heard with code := fault.code }
    return .malformed

/-- Builds a request, with the code in a variable of the caller.  One that cannot be built is
empty. -/
def requestInto (family : Family) (identifier sequence : UInt16) (size : Nat) :
    StateM ErrorCode Bytes :=
  match encodeRequest family identifier sequence size with
  | .ok packet => do
    set ErrorCode.success
    return packet
  | .error fault => do
    set fault.code
    return []

section

variable {family : Family} {data : Bytes} {source : Address} {heard : Heard}

theorem decodeInto_of_reply {reply : EchoReply} (h : decode family data source = .reply reply) :
    (decodeInto family data source).run heard = (.reply, { reply, code := .success }) := by
  unfold decodeInto
  rw [h]
  rfl

theorem decodeInto_of_request (h : decode family data source = .request) :
    (decodeInto family data source).run heard = (.request, { heard with code := .success }) := by
  unfold decodeInto
  rw [h]
  rfl

theorem decodeInto_of_malformed {fault : PingFault}
    (h : decode family data source = .malformed fault) :
    (decodeInto family data source).run heard
      = (.malformed, { heard with code := fault.code }) := by
  unfold decodeInto
  rw [h]
  rfl

end

/-! ## 3. Messages -/

section

variable {fields : Ipv4Header} {echo : EchoHeader} {body : Bytes}

/-- **An intact request** is recognised. -/
theorem decodeMessageV4_request (hintact : internetChecksum (echo.toBytes ++ body) = 0)
    (htype : echo.type = EchoHeader.echoRequest) :
    decodeMessageV4 fields (echo.toBytes ++ body) = .request := by
  simp [decodeMessageV4, EchoHeader.ofBytes?_toBytes, hintact, htype]

/-- **An intact reply** is read. -/
theorem decodeMessageV4_reply (hintact : internetChecksum (echo.toBytes ++ body) = 0)
    (htype : echo.type = EchoHeader.echoReply) :
    decodeMessageV4 fields (echo.toBytes ++ body) = .reply
      { family := .v4
        source := fields.source
        destination := fields.destination
        identifier := echo.identifier
        sequence := echo.sequence
        timeToLive := fields.timeToLive.toNat
        size := 8 + body.length } := by
  simp [decodeMessageV4, EchoHeader.ofBytes?_toBytes, hintact, htype, EchoHeader.echoReply,
    EchoHeader.echoRequest]

/-- The header that a host gives to its reply: another type, and the checksum that the message then
has. -/
def EchoHeader.answered (echo : EchoHeader) (body : Bytes) : EchoHeader :=
  let reply := { echo with type := echoReply }
  { reply with checksum := internetChecksum (reply.cleared.toBytes ++ body) }

/-- **A reply is intact** as its host sends it. -/
theorem EchoHeader.internetChecksum_answered
    (h : (words ((echo.answered body).cleared.toBytes ++ body)).sum < 4294967296) :
    internetChecksum ((echo.answered body).toBytes ++ body) = 0 :=
  internetChecksum_filled h rfl

/-- **A message that is turned around** keeps its body. -/
theorem turnAround_toBytes (echo : EchoHeader) (body : Bytes) :
    Host.turnAround .v4 (echo.toBytes ++ body) = (echo.answered body).toBytes ++ body := by
  have hblank : EchoHeader.echoReply :: Bytes.byteAt (echo.toBytes ++ body) 1 :: 0 :: 0
        :: (echo.toBytes ++ body).drop 4
      = EchoHeader.toBytes { echo with type := EchoHeader.echoReply, checksum := 0 } ++ body := by
    simp [EchoHeader.toBytes, Bytes.ofWord, Bytes.byteAt]
  rw [Host.turnAround, hblank]
  rfl

end

/-! ## 4. Requests and their replies -/

/-- A packet is read as the request that it is, and turned around as the reply to it; behind every
header that announces itself, with whatever source is told along with it. -/
structure ReadsBackV4 (identifier sequence : UInt16) (size : Nat) (packet : Bytes) : Prop where
  length : packet.length = 8 + size
  request : ∀ header : Bytes, Ipv4Header.Announces header → ∀ source heard,
    (decodeInto .v4 (header ++ packet) source).run heard
      = (.request, { heard with code := .success })
  reply : ∀ header : Bytes, Ipv4Header.Announces header → ∀ source heard,
    (decodeInto .v4 (header ++ Host.turnAround .v4 packet) source).run heard
      = (.reply,
          { code := .success
            reply :=
              { family := .v4
                source := Ipv4Header.addressAt header 12
                destination := Ipv4Header.addressAt header 16
                identifier
                sequence
                timeToLive := (header.byteAt 8).toNat
                size := 8 + size } })

/-- A packet is read as the request that it is, and turned around as the reply to it, from where it
was received. -/
structure ReadsBackV6 (identifier sequence : UInt16) (size : Nat) (packet : Bytes) : Prop where
  length : packet.length = 8 + size
  request : ∀ source heard, (decodeInto .v6 packet source).run heard
    = (.request, { heard with code := .success })
  reply : ∀ source heard, (decodeInto .v6 (Host.turnAround .v6 packet) source).run heard
    = (.reply,
        { code := .success
          reply :=
            { family := .v6
              source
              destination := .any
              identifier
              sequence
              timeToLive := 0
              size := 8 + size } })

/-- The checksum of a packet that is not too large can be summed in 32 bits. -/
theorem sum_words_ramp_lt (echo : EchoHeader) {size : Nat} (h : size ≤ maxPayload .v4) :
    (words (echo.toBytes ++ Bytes.ramp size)).sum < 4294967296 := by
  refine sum_words_lt ?_
  have hmax : maxPayload .v4 = 65507 := rfl
  rw [List.length_append, EchoHeader.length_toBytes, Bytes.length_ramp]
  omega

theorem readsBackV4 (identifier sequence : UInt16) {size : Nat} (h : size ≤ maxPayload .v4) :
    ReadsBackV4 identifier sequence size
      ((EchoHeader.stamp { type := EchoHeader.echoRequest, identifier, sequence }
        (Bytes.ramp size)).toBytes ++ Bytes.ramp size) where
  length := by rw [List.length_append, EchoHeader.length_toBytes, Bytes.length_ramp]
  request header hheader source heard := by
    have hsum := sum_words_ramp_lt
      (EchoHeader.cleared { type := EchoHeader.echoRequest, identifier, sequence }) h
    refine decodeInto_of_request ?_
    rw [decode, hheader.decodeV4_append]
    exact decodeMessageV4_request
      (EchoHeader.internetChecksum_filled hsum (EchoHeader.checksum_stamp hsum)) rfl
  reply header hheader source heard := by
    let echo : EchoHeader := { type := EchoHeader.echoRequest, identifier, sequence }
    let reply := (echo.stamp (Bytes.ramp size)).answered (Bytes.ramp size)
    have hread :
        decodeMessageV4 (Ipv4Header.fields header) (reply.toBytes ++ Bytes.ramp size) = _ :=
      decodeMessageV4_reply
        (EchoHeader.internetChecksum_answered (sum_words_ramp_lt reply.cleared h)) rfl
    rw [Bytes.length_ramp] at hread
    refine decodeInto_of_reply ?_
    rw [decode, turnAround_toBytes, hheader.decodeV4_append]
    exact hread

theorem readsBackV6 (identifier sequence : UInt16) (size : Nat) :
    ReadsBackV6 identifier sequence size
      (EchoHeader.toBytes { type := EchoHeader.echoRequestV6, identifier, sequence }
        ++ Bytes.ramp size) where
  length := by rw [List.length_append, EchoHeader.length_toBytes, Bytes.length_ramp]
  request source heard := by
    refine decodeInto_of_request ?_
    simp [decode, decodeV6, EchoHeader.ofBytes?_toBytes]
  reply source heard := by
    have hturned : Host.turnAround .v6
        (EchoHeader.toBytes { type := EchoHeader.echoRequestV6, identifier, sequence }
          ++ Bytes.ramp size)
        = EchoHeader.toBytes { type := EchoHeader.echoReplyV6, identifier, sequence }
          ++ Bytes.ramp size := rfl
    refine decodeInto_of_reply ?_
    rw [hturned]
    simp [decode, decodeV6, EchoHeader.ofBytes?_toBytes, EchoHeader.echoReplyV6,
      EchoHeader.echoRequestV6]

/-- **Every request that can be built is read back,** whatever the code was before.

Up to the largest payload of its family, a request is a packet without an error, eight bytes longer
than its payload, that is read back (`ReadsBackV4`, `ReadsBackV6`).  With a larger payload there is
no packet, and the code says that it is too large. -/
theorem requests_read_back (identifier sequence : UInt16) (before : ErrorCode) :
    (∀ size ≤ maxPayload .v4, ∃ packet,
      (requestInto .v4 identifier sequence size).run before = (packet, .success) ∧
        ReadsBackV4 identifier sequence size packet) ∧
    (∀ size ≤ maxPayload .v6, ∃ packet,
      (requestInto .v6 identifier sequence size).run before = (packet, .success) ∧
        ReadsBackV6 identifier sequence size packet) ∧
    ∀ family, ∀ size > maxPayload family,
      (requestInto family identifier sequence size).run before
        = ([], PingFault.packetTooLarge.code) := by
  refine ⟨fun size hsize => ?_, fun size hsize => ?_, fun family size hsize => ?_⟩
  · refine ⟨_, ?_, readsBackV4 identifier sequence hsize⟩
    rw [requestInto, encodeRequest, if_neg (by omega)]
    rfl
  · refine ⟨_, ?_, readsBackV6 identifier sequence size⟩
    rw [requestInto, encodeRequest, if_neg (by omega)]
    rfl
  · rw [requestInto, encodeRequest, if_pos hsize]
    rfl

/-- A header with four bytes of options, from 10.0.0.1 to 10.0.0.2. -/
def headerWithOptions : Bytes :=
  [0x46, 0, 0, 89, 1, 2, 3, 4, 55, 1, 0, 0, 10, 0, 0, 1, 10, 0, 0, 2, 7, 4, 4, 0]

/-- A request of 57 bytes is asked for after a timeout, and answered behind options. -/
theorem requests_read_back_behind_options :
    ∃ packet, (requestInto .v4 0x8001 7 57).run PingFault.timeout.code = (packet, .success) ∧
      packet.length = 65 ∧
      (decodeInto .v4 (headerWithOptions ++ Host.turnAround .v4 packet) .any).run {}
        = (.reply,
            { reply :=
                { source := .ofOctets 10 0 0 1
                  destination := .ofOctets 10 0 0 2
                  identifier := 0x8001
                  sequence := 7
                  timeToLive := 55
                  size := 65 } }) := by
  obtain ⟨packet, hpacket, hread⟩ :=
    (requests_read_back 0x8001 7 PingFault.timeout.code).1 57 (by decide)
  have hheader : Ipv4Header.Announces headerWithOptions := by constructor <;> decide
  exact ⟨packet, hpacket, hread.length, hread.reply headerWithOptions hheader .any {}⟩

end IcmpEcho
