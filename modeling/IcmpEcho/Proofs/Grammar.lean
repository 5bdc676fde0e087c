/-
# What is accepted as a datagram

The grammar of IPv4 datagrams (`Framed`): a header that announces itself, and behind it at least
eight bytes whose one's-complement sum has all bits set, the first of which is the type.  What is
said of a datagram is read from these two parts (`replyOf`).

* `decodeV4_of_framed`: a datagram of the grammar is read by its type;
* `framed_or_fault`: any other one is malformed, by the first check that fails in a list of them
  (`checksV4`).  The length of the header is looked at in two places, once against the end of the
  datagram and once against the shortest header, and only both together make a header.

A datagram of IPv6 is the message alone, and its checksum is not looked at.

**So `decode` accepts exactly its grammar** (`decode_by_grammar`).  A checksum is summed up in
32 bits, so this is about datagrams of up to 65536 bytes.
-/
import Mathlib
import IcmpEcho.Proofs.Framing
import IcmpEcho.Proofs.Reads

namespace IcmpEcho

open Checksum

/-! ## 1. Grammar -/

/-- A datagram is a header that announces itself and an intact message of this type. -/
structure Framed (type : UInt8) (header message data : Bytes) : Prop where
  split : data = header ++ message
  announces : Ipv4Header.Announces header
  enough : EchoHeader.length ≤ message.length
  intact : onesSum message = 0xFFFF
  type : message.byteAt 0 = type

/-- What a reply says whose IP header and message are these. -/
def replyOf (header message : Bytes) : EchoReply where
  family := .v4
  source := Ipv4Header.addressAt header 12
  destination := Ipv4Header.addressAt header 16
  identifier := message.wordAt 4
  sequence := message.wordAt 6
  timeToLive := (header.byteAt 8).toNat
  size := message.length

/-- The part of a datagram that its first byte claims as a header. -/
def headerOf (data : Bytes) : Bytes := data.take (Ipv4Header.claimedLength data)

/-- What is behind the header that is claimed. -/
def messageOf (data : Bytes) : Bytes := data.drop (Ipv4Header.claimedLength data)

/-- What has to hold of the header of an IPv4 datagram, and what is wrong where it does not. -/
def headerChecks (data : Bytes) : List (Bool × PingFault) :=
  let claimed := Ipv4Header.claimedLength data
  [ (Ipv4Header.minLength ≤ data.length ∧ claimed ≤ data.length, .truncatedPacket),
    (Ipv4Header.minLength ≤ claimed ∧ (data.byteAt 0).toNat / 16 = 4
      ∧ data.byteAt 9 = Ipv4Header.icmp, .notIcmp) ]

/-- What has to hold of the message of an IPv4 datagram, and what is wrong where it does not. -/
def messageChecks (message : Bytes) : List (Bool × PingFault) :=
  [ (EchoHeader.length ≤ message.length, .truncatedPacket),
    (onesSum message = 0xFFFF, .badChecksum),
    (message.byteAt 0 = EchoHeader.echoReply ∨ message.byteAt 0 = EchoHeader.echoRequest,
      .unsupportedType) ]

/-- What has to hold of an IPv4 datagram, in the order in which it is looked at. -/
def checksV4 (data : Bytes) : List (Bool × PingFault) :=
  headerChecks data ++ messageChecks (messageOf data)

/-- What is wrong by the first check that fails. -/
def firstFault (checks : List (Bool × PingFault)) : Option PingFault :=
  (checks.find? fun check => !check.1).map Prod.snd

/-- A check that fails comes before all that follow. -/
theorem firstFault_append_of_some {checks : List (Bool × PingFault)} {fault : PingFault}
    (h : firstFault checks = some fault) (later : List (Bool × PingFault)) :
    firstFault (checks ++ later) = some fault := by
  obtain ⟨check, hfind, rfl⟩ := Option.map_eq_some_iff.1 h
  rw [firstFault, List.find?_append, hfind]
  rfl

theorem firstFault_append_of_none {checks : List (Bool × PingFault)}
    (h : firstFault checks = none) (later : List (Bool × PingFault)) :
    firstFault (checks ++ later) = firstFault later := by
  rw [firstFault, List.find?_append, Option.map_eq_none_iff.1 h]
  rfl

/-! ## 2. Messages -/

section

variable {fields : Ipv4Header} {message : Bytes}

/-- A message that is long enough is judged by its checksum, then by its type. -/
theorem decodeMessageV4_eq (henough : EchoHeader.length ≤ message.length)
    (hlength : message.length ≤ 65536) :
    decodeMessageV4 fields message =
      if onesSum message ≠ 0xFFFF then .malformed .badChecksum
      else if message.byteAt 0 = EchoHeader.echoRequest then .request
      else if message.byteAt 0 ≠ EchoHeader.echoReply then .malformed .unsupportedType
      else .reply
        { family := .v4
          source := fields.source
          destination := fields.destination
          identifier := message.wordAt 4
          sequence := message.wordAt 6
          timeToLive := fields.timeToLive.toNat
          size := message.length } := by
  have hintact : internetChecksum message ≠ 0 ↔ onesSum message ≠ 0xFFFF :=
    not_congr (internetChecksum_eq_zero_iff (sum_words_lt (by omega)))
  unfold decodeMessageV4
  rw [EchoHeader.ofBytes?_eq_some henough]
  simp only [hintact]

/-- **A message is an intact one of a known type, or it is malformed** by the first check that
fails. -/
theorem message_or_fault (fields : Ipv4Header) (hlength : message.length ≤ 65536) :
    (EchoHeader.length ≤ message.length ∧ onesSum message = 0xFFFF ∧
      (message.byteAt 0 = EchoHeader.echoReply ∨ message.byteAt 0 = EchoHeader.echoRequest)) ∨
    ∃ fault, firstFault (messageChecks message) = some fault ∧
      decodeMessageV4 fields message = .malformed fault := by
  by_cases henough : EchoHeader.length ≤ message.length
  case neg =>
    refine .inr ⟨.truncatedPacket, by simp [firstFault, messageChecks, henough], ?_⟩
    rw [decodeMessageV4, EchoHeader.ofBytes?_eq_none (by omega)]
  rw [decodeMessageV4_eq henough hlength]
  by_cases hintact : onesSum message = 0xFFFF
  case neg =>
    refine .inr ⟨.badChecksum, by simp [firstFault, messageChecks, henough, hintact], ?_⟩
    rw [if_pos hintact]
  by_cases htype : message.byteAt 0 = EchoHeader.echoReply
      ∨ message.byteAt 0 = EchoHeader.echoRequest
  · exact .inl ⟨henough, hintact, htype⟩
  · refine .inr ⟨.unsupportedType,
      by simp [firstFault, messageChecks, henough, hintact, htype], ?_⟩
    obtain ⟨hreply, hrequest⟩ := not_or.1 htype
    rw [if_neg (not_not.2 hintact), if_neg hrequest, if_pos hreply]

end

/-! ## 3. Datagrams of IPv4 -/

variable {header message data : Bytes} {type : UInt8}

/-- **A datagram of the grammar** is read by its type. -/
theorem decodeV4_of_framed (h : Framed type header message data) (hlength : data.length ≤ 65536) :
    decodeV4 data =
      if type = EchoHeader.echoRequest then .request
      else if type ≠ EchoHeader.echoReply then .malformed .unsupportedType
      else .reply (replyOf header message) := by
  have hmessage : message.length ≤ 65536 := by
    rw [h.split, List.length_append] at hlength
    omega
  rw [h.split, h.announces.decodeV4_append, decodeMessageV4_eq h.enough hmessage,
    if_neg (not_not.2 h.intact), h.type]
  rfl

theorem decodeV4_of_reply (h : Framed EchoHeader.echoReply header message data)
    (hlength : data.length ≤ 65536) : decodeV4 data = .reply (replyOf header message) :=
  decodeV4_of_framed h hlength

theorem decodeV4_of_request (h : Framed EchoHeader.echoRequest header message data)
    (hlength : data.length ≤ 65536) : decodeV4 data = .request :=
  decodeV4_of_framed h hlength

/-- A header that is there, and is as long as it says, announces itself. -/
theorem announces_headerOf (hthere : Ipv4Header.claimedLength data ≤ data.length)
    (hheader : Ipv4Header.minLength ≤ Ipv4Header.claimedLength data
      ∧ (data.byteAt 0).toNat / 16 = 4 ∧ data.byteAt 9 = Ipv4Header.icmp) :
    Ipv4Header.Announces (headerOf data) := by
  obtain ⟨hleast, hversion, hprotocol⟩ := hheader
  have hmin : Ipv4Header.minLength = 20 := rfl
  have hmax : Ipv4Header.maxLength = 60 := rfl
  have hclaimed : Ipv4Header.claimedLength data = (data.byteAt 0).toNat % 16 * 4 := rfl
  have hlength : (headerOf data).length = Ipv4Header.claimedLength data :=
    List.length_take_of_le hthere
  have hbyte : ∀ i < 20, (headerOf data).byteAt i = data.byteAt i := fun i hi =>
    Bytes.byteAt_take data (by omega)
  refine ⟨?_, ?_, ?_, ?_, ?_⟩
  · omega
  · omega
  · rw [hlength, hclaimed, Ipv4Header.claimedLength, hbyte 0 (by omega)]
  · rw [hbyte 0 (by omega), hversion]
  · rw [hbyte 9 (by omega), hprotocol]

theorem decodeV4_notIcmp (hthere : Ipv4Header.minLength ≤ data.length
      ∧ Ipv4Header.claimedLength data ≤ data.length)
    (hheader : ¬ (Ipv4Header.minLength ≤ Ipv4Header.claimedLength data
      ∧ (data.byteAt 0).toNat / 16 = 4 ∧ data.byteAt 9 = Ipv4Header.icmp)) :
    decodeV4 data = .malformed .notIcmp := by
  unfold decodeV4
  rw [if_neg (by omega)]
  refine if_pos ?_
  unfold Ipv4Header.read
  dsimp only
  split
  · exact .inl Bool.false_ne_true
  · dsimp only
    by_cases hversion : (data.byteAt 0).toNat / 16 = 4
    · right
      intro hprotocol
      exact hheader ⟨by omega, hversion, hprotocol⟩
    · left
      simpa using hversion

/-- **A header is there, or the datagram is malformed** by the first check that fails. -/
theorem header_or_fault (data : Bytes) :
    (Ipv4Header.Announces (headerOf data) ∧ firstFault (headerChecks data) = none) ∨
    ∃ fault, firstFault (headerChecks data) = some fault ∧ decodeV4 data = .malformed fault := by
  by_cases hthere : Ipv4Header.minLength ≤ data.length
      ∧ Ipv4Header.claimedLength data ≤ data.length
  case neg =>
    refine .inr ⟨.truncatedPacket, by simp [firstFault, headerChecks, hthere], ?_⟩
    exact if_pos (by omega)
  by_cases hheader : Ipv4Header.minLength ≤ Ipv4Header.claimedLength data
      ∧ (data.byteAt 0).toNat / 16 = 4 ∧ data.byteAt 9 = Ipv4Header.icmp
  case neg =>
    refine .inr ⟨.notIcmp, by simp [firstFault, headerChecks, hthere, hheader], ?_⟩
    exact decodeV4_notIcmp hthere hheader
  exact .inl ⟨announces_headerOf hthere.2 hheader, by
    simp [firstFault, headerChecks, hthere, hheader]⟩

/-- **A datagram is one of the grammar, or it is malformed** by the first check that fails. -/
theorem framed_or_fault (hlength : data.length ≤ 65536) :
    (∃ header message, Framed EchoHeader.echoReply header message data) ∨
      (∃ header message, Framed EchoHeader.echoRequest header message data) ∨
      ∃ fault, firstFault (checksV4 data) = some fault ∧ decodeV4 data = .malformed fault := by
  obtain ⟨hannounces, hpassed⟩ | ⟨fault, hfault, hdecode⟩ := header_or_fault data
  · have hsplit : data = headerOf data ++ messageOf data := (List.take_append_drop _ data).symm
    have hdecode := hannounces.decodeV4_append (messageOf data)
    rw [← hsplit] at hdecode
    have hmessage : (messageOf data).length ≤ 65536 := by
      rw [messageOf, List.length_drop]
      omega
    obtain ⟨henough, hintact, hreply | hrequest⟩ | ⟨fault, hfault, hmalformed⟩ :=
      message_or_fault (Ipv4Header.fields (headerOf data)) hmessage
    · exact .inl ⟨_, _, hsplit, hannounces, henough, hintact, hreply⟩
    · exact .inr (.inl ⟨_, _, hsplit, hannounces, henough, hintact, hrequest⟩)
    · refine .inr (.inr ⟨fault, ?_, hdecode.trans hmalformed⟩)
      rw [checksV4, firstFault_append_of_none hpassed, hfault]
  · exact .inr (.inr ⟨fault, firstFault_append_of_some hfault _, hdecode⟩)

/-! ## 4. Datagrams of IPv6 -/

/-- What a reply says that is this ICMPv6 message, received from `source`. -/
def replyOfV6 (message : Bytes) (source : Address) : EchoReply where
  family := .v6
  source
  destination := .any
  identifier := message.wordAt 4
  sequence := message.wordAt 6
  timeToLive := 0
  size := message.length

theorem decodeV6_of_enough {source : Address} (h : EchoHeader.length ≤ data.length) :
    decodeV6 data source =
      if data.byteAt 0 = EchoHeader.echoRequestV6 then .request
      else if data.byteAt 0 ≠ EchoHeader.echoReplyV6 then .malformed .unsupportedType
      else .reply (replyOfV6 data source) := by
  rw [decodeV6, EchoHeader.ofBytes?_eq_some h]
  rfl

theorem decodeV6_of_short {source : Address} (h : data.length < EchoHeader.length) :
    decodeV6 data source = .malformed .truncatedPacket := by
  rw [decodeV6, EchoHeader.ofBytes?_eq_none h]

theorem decodeV6_eq_reply_iff {source : Address} {reply : EchoReply} :
    decodeV6 data source = .reply reply ↔
      EchoHeader.length ≤ data.length ∧ data.byteAt 0 = EchoHeader.echoReplyV6 ∧
        reply = replyOfV6 data source := by
  by_cases henough : EchoHeader.length ≤ data.length
  · rw [decodeV6_of_enough henough]
    split
    · next hrequest => simp [hrequest, EchoHeader.echoRequestV6, EchoHeader.echoReplyV6]
    · split
      · next hreply => simp [hreply]
      · next hreply => simp [henough, not_not.1 hreply, eq_comm]
  · simp [decodeV6_of_short (Nat.lt_of_not_le henough), henough]

theorem decodeV6_eq_request_iff {source : Address} :
    decodeV6 data source = .request ↔
      EchoHeader.length ≤ data.length ∧ data.byteAt 0 = EchoHeader.echoRequestV6 := by
  by_cases henough : EchoHeader.length ≤ data.length
  · rw [decodeV6_of_enough henough]
    split
    · next hrequest => simp [henough, hrequest]
    · next hrequest =>
      split <;> simp [hrequest]
  · simp [decodeV6_of_short (Nat.lt_of_not_le henough), henough]

/-! ## 5. Exactly the grammar -/

/-- What is made of some bytes that were received from `source`. -/
structure ReadByGrammar (data : Bytes) (source : Address) : Prop where
  replyV4 : ∀ reply, decode .v4 data source = .reply reply ↔
    ∃ header message, Framed 0 header message data ∧ reply = replyOf header message
  requestV4 : decode .v4 data source = .request ↔ ∃ header message, Framed 8 header message data
  malformedV4 : (¬ ∃ header message, Framed 0 header message data) →
    (¬ ∃ header message, Framed 8 header message data) →
    ∃ fault, firstFault (checksV4 data) = some fault ∧ decode .v4 data source = .malformed fault
  replyV6 : ∀ reply, decode .v6 data source = .reply reply ↔
    8 ≤ data.length ∧ data.byteAt 0 = 129 ∧ reply = replyOfV6 data source
  requestV6 : decode .v6 data source = .request ↔ 8 ≤ data.length ∧ data.byteAt 0 = 128
  unsupportedV6 : 8 ≤ data.length → data.byteAt 0 ≠ 128 → data.byteAt 0 ≠ 129 →
    decode .v6 data source = .malformed .unsupportedType
  truncatedV6 : data.length < 8 → decode .v6 data source = .malformed .truncatedPacket
  /-- No read leaves the bytes, whatever is in memory behind them. -/
  inside : ∀ memory : Memory, memory.Holds data → ∀ family,
    memory.decode family data.length source = some (decode family data source)
  /-- The code is that of what is wrong; it is an error where something is. -/
  fault : ∀ family fault heard, decode family data source = .malformed fault →
    (decodeInto family data source).run heard
      = (.malformed, { heard with code := fault.code })
  code : ∀ family heard, let told := (decodeInto family data source).run heard
    told.2.code.isError = true ↔ told.1 = .malformed

/-- A code is an error exactly where a datagram is malformed. -/
theorem isError_decodeInto_iff (family : Family) (data : Bytes) (source : Address)
    (heard : Heard) :
    let told := (decodeInto family data source).run heard
    told.2.code.isError = true ↔ told.1 = .malformed := by
  cases h : decode family data source with
  | reply reply => simp [decodeInto_of_reply h]
  | request => simp [decodeInto_of_request h]
  | malformed fault => simp [decodeInto_of_malformed h]

theorem decodeV4_eq_reply_iff (h : data.length ≤ 65536) (reply : EchoReply) :
    decodeV4 data = .reply reply ↔
      ∃ header message, Framed EchoHeader.echoReply header message data
        ∧ reply = replyOf header message := by
  constructor
  · intro hdecode
    rcases framed_or_fault h with
      ⟨header, message, hframed⟩ | ⟨header, message, hframed⟩ | ⟨fault, -, hfault⟩
    · rw [decodeV4_of_reply hframed h] at hdecode
      exact ⟨header, message, hframed, (Decoded.reply.inj hdecode).symm⟩
    · rw [decodeV4_of_request hframed h] at hdecode
      cases hdecode
    · rw [hfault] at hdecode
      cases hdecode
  · rintro ⟨header, message, hframed, rfl⟩
    exact decodeV4_of_reply hframed h

theorem decodeV4_eq_request_iff (h : data.length ≤ 65536) :
    decodeV4 data = .request ↔
      ∃ header message, Framed EchoHeader.echoRequest header message data := by
  constructor
  · intro hdecode
    rcases framed_or_fault h with
      ⟨header, message, hframed⟩ | ⟨header, message, hframed⟩ | ⟨fault, -, hfault⟩
    · rw [decodeV4_of_reply hframed h] at hdecode
      cases hdecode
    · exact ⟨header, message, hframed⟩
    · rw [hfault] at hdecode
      cases hdecode
  · rintro ⟨header, message, hframed⟩
    exact decodeV4_of_request hframed h

/-- **Decoding accepts exactly its grammar.** -/
theorem decode_by_grammar (data : Bytes) (source : Address) (h : data.length ≤ 65536) :
    ReadByGrammar data source where
  replyV4 := decodeV4_eq_reply_iff h
  requestV4 := decodeV4_eq_request_iff h
  malformedV4 hreply hrequest :=
    ((framed_or_fault h).resolve_left hreply).resolve_left hrequest
  replyV6 _ := decodeV6_eq_reply_iff
  requestV6 := decodeV6_eq_request_iff
  unsupportedV6 henough hrequest hreply :=
    (decodeV6_of_enough henough).trans ((if_neg hrequest).trans (if_pos hreply))
  truncatedV6 hshort := decodeV6_of_short hshort
  inside _ hmemory family := Memory.decode_eq hmemory family source
  fault _ _ _ := decodeInto_of_malformed
  code family heard := isError_decodeInto_iff family data source heard

/-- A reply of nine bytes behind a header without options. -/
def shortReply : Bytes :=
  [0x45, 0, 0, 29, 0, 0, 0, 0, 64, 1, 0, 0, 10, 0, 0, 1, 10, 0, 0, 2,
    0, 0, 0xED, 0xFC, 0x10, 0, 0, 3, 2]

/-- A message of odd length is accepted. -/
theorem decode_by_grammar_of_odd :
    shortReply.length ≤ 65536 ∧
      decode .v4 shortReply .any = .reply
        { source := .ofOctets 10 0 0 1
          destination := .ofOctets 10 0 0 2
          identifier := 0x1000
          sequence := 3
          timeToLive := 64
          size := 9 } := by
  have hlength : shortReply.length ≤ 65536 := by decide
  have hframed : Framed 0 (shortReply.take 20) (shortReply.drop 20) shortReply :=
    ⟨rfl, by constructor <;> decide, by decide, by decide, by decide⟩
  exact ⟨hlength, ((decode_by_grammar shortReply .any hlength).replyV4 _).2
    ⟨_, _, hframed, by decide⟩⟩

end IcmpEcho
