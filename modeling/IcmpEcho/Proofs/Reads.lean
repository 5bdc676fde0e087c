/-
# Reads stay inside a datagram

A system hands over a datagram as a place in memory and a length; what lies behind it belongs to
somebody else.  `decode` is given the bytes alone, and a byte beyond their end would count as zero.
Here the same steps read a memory place by place (`Memory.decode`), and a read where there is
nothing to read fails as a whole.

**No read ever fails** (`Memory.decode_eq`): for every memory that starts with a datagram, whatever
is behind it and even if nothing is, the steps come to the end, with what `decode` says.  The three
ways to read are one byte, a copy of some bytes (`Memory.copy`), and the sum of a checksum
(`Memory.addWords`); each is a part of the datagram as long as it ends inside
(`Memory.Holds.copy`, `Memory.Holds.addWords`).
-/
import Mathlib
import IcmpEcho.Packet.Echo

namespace IcmpEcho

/-! ## 1. Headers of messages -/

namespace Bytes

theorem byteAt_take (bytes : Bytes) {i count : Nat} (h : i < count) :
    byteAt (bytes.take count) i = bytes.byteAt i := by
  unfold byteAt
  rw [List.getD_eq_getElem?_getD, List.getElem?_take_of_lt h, List.getD_eq_getElem?_getD]

theorem wordAt_take (bytes : Bytes) {i count : Nat} (h : i + 1 < count) :
    wordAt (bytes.take count) i = bytes.wordAt i := by
  unfold wordAt
  rw [byteAt_take bytes (by omega), byteAt_take bytes h]

end Bytes

namespace EchoHeader

/-- A message of at least eight bytes starts with a header. -/
theorem ofBytes?_eq_some {message : Bytes} (h : length ≤ message.length) :
    ofBytes? message = some
      { type := message.byteAt 0
        code := message.byteAt 1
        checksum := message.wordAt 2
        identifier := message.wordAt 4
        sequence := message.wordAt 6 } := by
  match message, h with
  | _ :: _ :: _ :: _ :: _ :: _ :: _ :: _ :: _, _ => rfl

theorem ofBytes?_eq_none {message : Bytes} (h : message.length < length) :
    ofBytes? message = none := by
  match message, h with
  | [], _ | [_], _ | [_, _], _ | [_, _, _], _ | [_, _, _, _], _ | [_, _, _, _, _], _
  | [_, _, _, _, _, _], _ | [_, _, _, _, _, _, _], _ => rfl

end EchoHeader

/-! ## 2. Memory -/

/-- What can be read at each place. -/
abbrev Memory := Nat → Option UInt8

namespace Memory

/-- A memory starts with these bytes.  What is behind them is left open. -/
def Holds (memory : Memory) (data : Bytes) : Prop := ∀ i < data.length, memory i = data[i]?

/-- Copies `count` bytes. -/
def copy (memory : Memory) (start : Nat) : Nat → Option Bytes
  | 0 => some []
  | count + 1 => do
    let byte ← memory start
    let rest ← memory.copy (start + 1) count
    return byte :: rest

/-- Adds the words of `count` bytes to `sum`. -/
def addWords (memory : Memory) (sum : UInt32) (start : Nat) : Nat → Option UInt32
  | 0 => some sum
  | 1 => do
    let last ← memory start
    return sum + last.toUInt32 * 256
  | count + 2 => do
    let high ← memory start
    let low ← memory (start + 1)
    memory.addWords (sum + (high.toUInt32 * 256 + low.toUInt32)) (start + 2) count

namespace Holds

variable {memory : Memory} {data : Bytes}

/-- **A byte inside** can be read. -/
theorem byte (h : Holds memory data) {i : Nat} (hi : i < data.length) :
    memory i = some (data.byteAt i) := by
  rw [h i hi, List.getElem?_eq_getElem hi, Bytes.byteAt, List.getD_eq_getElem _ _ hi]

theorem drop_eq_cons (data : Bytes) {i : Nat} (hi : i < data.length) :
    data.drop i = data.byteAt i :: data.drop (i + 1) := by
  rw [List.drop_eq_getElem_cons hi, Bytes.byteAt, List.getD_eq_getElem _ _ hi]

/-- **A copy that ends inside** is a part of the datagram. -/
theorem copy (h : Holds memory data) :
    ∀ start count : Nat, start + count ≤ data.length →
      memory.copy start count = some ((data.drop start).take count)
  | start, 0, _ => rfl
  | start, count + 1, hend => by
    have hrest := h.copy (start + 1) count (by omega)
    have hdrop := drop_eq_cons data (i := start) (by omega)
    rw [Memory.copy, h.byte (by omega), hrest, hdrop]
    rfl

/-- **A sum that ends inside** is that of a part of the datagram. -/
theorem addWords (h : Holds memory data) :
    ∀ (sum : UInt32) (start count : Nat), start + count ≤ data.length →
      memory.addWords sum start count
        = some (Checksum.addWords sum ((data.drop start).take count))
  | sum, start, 0, _ => rfl
  | sum, start, 1, hend => by
    rw [Memory.addWords, h.byte (by omega), drop_eq_cons data (by omega)]
    rfl
  | sum, start, count + 2, hend => by
    have hhigh := drop_eq_cons data (i := start) (by omega)
    have hlow := drop_eq_cons data (i := start + 1) (by omega)
    rw [Memory.addWords, h.byte (by omega), h.byte (by omega), hhigh, hlow]
    exact h.addWords _ (start + 2) count (by omega)

end Holds

/-! ## 3. Decoding from memory -/

/-- Reads the header of an IPv4 datagram of `length` bytes. -/
def readHeader (memory : Memory) (length : Nat) : Option Ipv4Header :=
  if length < Ipv4Header.minLength then some {}
  else do
    let first ← memory 0
    let claimed := first.toNat % 16 * 4
    if claimed < Ipv4Header.minLength ∨ length < claimed then some {}
    else do
      let header ← memory.copy 0 claimed
      let version := (header.byteAt 0).toNat / 16
      some
        { parsed := version = 4
          version
          headerLength := Ipv4Header.claimedLength header
          timeToLive := header.byteAt 8
          protocol := header.byteAt 9
          source := Ipv4Header.addressAt header 12
          destination := Ipv4Header.addressAt header 16 }

/-- Reads the ICMP message of `size` bytes of an IPv4 datagram. -/
def decodeMessageV4 (memory : Memory) (header : Ipv4Header) (start size : Nat) : Option Decoded :=
  if size < EchoHeader.length then some (.malformed .truncatedPacket)
  else do
    let sum ← memory.addWords 0 start size
    if Checksum.complement (Checksum.fold sum) ≠ 0 then some (.malformed .badChecksum)
    else do
      let echo ← EchoHeader.ofBytes? (← memory.copy start EchoHeader.length)
      if echo.type = EchoHeader.echoRequest then some .request
      else if echo.type ≠ EchoHeader.echoReply then some (.malformed .unsupportedType)
      else
        some (.reply
          { family := .v4
            source := header.source
            destination := header.destination
            identifier := echo.identifier
            sequence := echo.sequence
            timeToLive := header.timeToLive.toNat
            size })

/-- Reads an IPv4 datagram of `length` bytes. -/
def decodeV4 (memory : Memory) (length : Nat) : Option Decoded :=
  if length < Ipv4Header.minLength then some (.malformed .truncatedPacket)
  else do
    let first ← memory 0
    if length < first.toNat % 16 * 4 then some (.malformed .truncatedPacket)
    else do
      let header ← memory.readHeader length
      if ¬ header.parsed ∨ header.protocol ≠ Ipv4Header.icmp then some (.malformed .notIcmp)
      else memory.decodeMessageV4 header header.headerLength (length - header.headerLength)

/-- Reads an IPv6 datagram of `length` bytes. -/
def decodeV6 (memory : Memory) (length : Nat) (source : Address) : Option Decoded :=
  if length < EchoHeader.length then some (.malformed .truncatedPacket)
  else do
    let echo ← EchoHeader.ofBytes? (← memory.copy 0 EchoHeader.length)
    if echo.type = EchoHeader.echoRequestV6 then some .request
    else if echo.type ≠ EchoHeader.echoReplyV6 then some (.malformed .unsupportedType)
    else
      some (.reply
        { family := .v6
          source
          identifier := echo.identifier
          sequence := echo.sequence
          size := length })

/-- Reads one datagram of `length` bytes that was received from `source`. -/
def decode (memory : Memory) (family : Family) (length : Nat) (source : Address) :
    Option Decoded :=
  match family with
  | .v4 => memory.decodeV4 length
  | .v6 => memory.decodeV6 length source

/-! ## 4. Nothing fails -/

variable {memory : Memory} {data : Bytes}

/-- The header in front of a message is read from the same eight bytes. -/
theorem ofBytes?_take (message : Bytes) :
    EchoHeader.ofBytes? (message.take EchoHeader.length) = EchoHeader.ofBytes? message := by
  by_cases h : message.length < EchoHeader.length
  · rw [List.take_of_length_le (by omega)]
  · have htaken : EchoHeader.length ≤ (message.take EchoHeader.length).length := by
      rw [List.length_take]
      omega
    have hlength : EchoHeader.length = 8 := rfl
    rw [EchoHeader.ofBytes?_eq_some htaken, EchoHeader.ofBytes?_eq_some (by omega),
      Bytes.byteAt_take message (by omega), Bytes.byteAt_take message (by omega),
      Bytes.wordAt_take message (by omega), Bytes.wordAt_take message (by omega),
      Bytes.wordAt_take message (by omega)]

theorem addressAt_take (bytes : Bytes) {i count : Nat} (h : i + 3 < count) :
    Ipv4Header.addressAt (bytes.take count) i = Ipv4Header.addressAt bytes i := by
  unfold Ipv4Header.addressAt
  rw [Bytes.byteAt_take bytes (by omega), Bytes.byteAt_take bytes (by omega),
    Bytes.byteAt_take bytes (by omega), Bytes.byteAt_take bytes (by omega)]

/-- **A header** is read from the bytes that it claims. -/
theorem readHeader_eq (h : Holds memory data) :
    memory.readHeader data.length = some (Ipv4Header.read data) := by
  have hmin : Ipv4Header.minLength = 20 := rfl
  have hclaim : (data.byteAt 0).toNat % 16 * 4 = Ipv4Header.claimedLength data := rfl
  unfold readHeader Ipv4Header.read
  by_cases hshort : data.length < Ipv4Header.minLength
  · rw [if_pos hshort]
    exact congrArg some (if_pos (.inl hshort)).symm
  rw [if_neg hshort, h.byte (by omega)]
  simp only [Option.bind_eq_bind, Option.bind_some, hclaim]
  by_cases hclaimed : Ipv4Header.claimedLength data < Ipv4Header.minLength
      ∨ data.length < Ipv4Header.claimedLength data
  · rw [if_pos hclaimed, if_pos (.inr hclaimed)]
  · have hcopied : Ipv4Header.claimedLength (data.take (Ipv4Header.claimedLength data))
        = Ipv4Header.claimedLength data := by
      rw [← hclaim, Ipv4Header.claimedLength, Bytes.byteAt_take data (by omega)]
    rw [if_neg hclaimed, if_neg (not_or.2 ⟨hshort, hclaimed⟩), h.copy 0 _ (by omega),
      List.drop_zero, Option.bind_some, hcopied, Bytes.byteAt_take data (by omega),
      Bytes.byteAt_take data (by omega), Bytes.byteAt_take data (by omega),
      addressAt_take data (by omega), addressAt_take data (by omega)]

/-- **A message** is read from the bytes behind its header. -/
theorem decodeMessageV4_eq (h : Holds memory data) (header : Ipv4Header) {start : Nat}
    (hstart : start ≤ data.length) :
    memory.decodeMessageV4 header start (data.length - start)
      = some (IcmpEcho.decodeMessageV4 header (data.drop start)) := by
  have hlength : (data.drop start).length = data.length - start := List.length_drop
  unfold decodeMessageV4 IcmpEcho.decodeMessageV4
  by_cases hshort : data.length - start < EchoHeader.length
  · rw [if_pos hshort, EchoHeader.ofBytes?_eq_none (by omega)]
  · have hsum := h.addWords 0 start (data.length - start) (by omega)
    rw [List.take_of_length_le (by omega)] at hsum
    rw [if_neg hshort, hsum, h.copy start _ (by omega)]
    simp only [Option.bind_eq_bind, Option.bind_some, ofBytes?_take]
    rw [EchoHeader.ofBytes?_eq_some (by omega)]
    simp only [Option.bind_some, internetChecksum, hlength]
    split
    · rfl
    · split
      · rfl
      · split <;> rfl

/-- A header is no longer than what it was read from. -/
theorem headerLength_read_le (data : Bytes) :
    (Ipv4Header.read data).headerLength ≤ data.length := by
  unfold Ipv4Header.read
  dsimp only
  split
  · exact Nat.zero_le _
  · dsimp only
    omega

theorem decodeV4_eq (h : Holds memory data) :
    memory.decodeV4 data.length = some (IcmpEcho.decodeV4 data) := by
  have hmin : Ipv4Header.minLength = 20 := rfl
  have hclaim : (data.byteAt 0).toNat % 16 * 4 = Ipv4Header.claimedLength data := rfl
  unfold decodeV4 IcmpEcho.decodeV4
  by_cases hshort : data.length < Ipv4Header.minLength
  · rw [if_pos hshort, if_pos (.inl hshort)]
  rw [if_neg hshort, h.byte (by omega), readHeader_eq h]
  simp only [Option.bind_eq_bind, Option.bind_some, hclaim]
  by_cases hclaimed : data.length < Ipv4Header.claimedLength data
  · rw [if_pos hclaimed, if_pos (.inr hclaimed)]
  · rw [if_neg hclaimed, if_neg (not_or.2 ⟨hshort, hclaimed⟩)]
    split
    · rfl
    · exact decodeMessageV4_eq h _ (headerLength_read_le data)

theorem decodeV6_eq (h : Holds memory data) (source : Address) :
    memory.decodeV6 data.length source = some (IcmpEcho.decodeV6 data source) := by
  unfold decodeV6 IcmpEcho.decodeV6
  by_cases hshort : data.length < EchoHeader.length
  · rw [if_pos hshort, EchoHeader.ofBytes?_eq_none hshort]
  · rw [if_neg hshort, h.copy 0 _ (by omega), List.drop_zero]
    simp only [Option.bind_eq_bind, Option.bind_some, ofBytes?_take]
    rw [EchoHeader.ofBytes?_eq_some (by omega)]
    simp only [Option.bind_some]
    split
    · rfl
    · split <;> rfl

/-- **A datagram is read from itself alone:** no read fails, and what comes out is what its bytes
say. -/
theorem decode_eq (h : Holds memory data) (family : Family) (source : Address) :
    memory.decode family data.length source = some (IcmpEcho.decode family data source) := by
  cases family with
  | v4 => exact decodeV4_eq h
  | v6 => exact decodeV6_eq h source

end Memory

end IcmpEcho
