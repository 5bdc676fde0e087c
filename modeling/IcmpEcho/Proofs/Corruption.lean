/-
# Corruption is noticed

A message is intact when the sum of its words is a multiple of 65535, and not zero
(`onesSum_eq_iff`).  Another word in one place adds the difference of two words to that sum
(`sum_words_setWord`), and the only difference of two words that is itself a multiple of 65535 is
the one between `0x0000` and `0xFFFF`, the two ways to write zero in one's complement.

**So a datagram in which one word of the message was replaced is rejected** by its checksum, unless
the word was changed from one zero into the other (`corruption_is_noticed`).  That holds for every
word: the one with the type, the checksum itself, and an odd last byte with a zero byte after it.
A change of one byte cannot turn one zero into the other, so it is always noticed.
-/
import Mathlib
import IcmpEcho.Proofs.Grammar

namespace IcmpEcho

open Checksum

/-! ## 1. Replacing a word -/

namespace Bytes

/-- Puts a word in place of the bytes at `i` and `i + 1`.  What would be written beyond the end is
dropped. -/
def setWord (bytes : Bytes) (i : Nat) (word : UInt16) : Bytes :=
  (bytes.set i (UInt8.ofNat (word.toNat / 256))).set (i + 1) (UInt8.ofNat (word.toNat % 256))

@[simp] theorem length_setWord (bytes : Bytes) (i : Nat) (word : UInt16) :
    (bytes.setWord i word).length = bytes.length := by
  simp [setWord]

/-- What is in front of the word stays as it is. -/
theorem setWord_append (front back : Bytes) (i : Nat) (word : UInt16) :
    (front ++ back).setWord (front.length + i) word = front ++ back.setWord i word := by
  unfold setWord
  rw [List.set_append_right _ _ (by omega), List.set_append_right _ _ (by omega), Nat.add_assoc,
    Nat.add_sub_cancel_left, Nat.add_sub_cancel_left]

theorem byteAt_append_right (front back : Bytes) (i : Nat) :
    (front ++ back).byteAt (front.length + i) = back.byteAt i := by
  unfold byteAt
  rw [List.getD_append_right _ _ _ _ (by omega), Nat.add_sub_cancel_left]

theorem wordAt_append_right (front back : Bytes) (i : Nat) :
    (front ++ back).wordAt (front.length + i) = back.wordAt i := by
  rw [wordAt, Nat.add_assoc, byteAt_append_right, byteAt_append_right, wordAt]

theorem set_byteAt_self (bytes : Bytes) (i : Nat) : bytes.set i (bytes.byteAt i) = bytes := by
  rcases Nat.lt_or_ge i bytes.length with hi | hi
  · unfold byteAt
    rw [List.getD_eq_getElem _ _ hi, List.set_getElem_self]
  · exact List.set_eq_of_length_le hi

theorem setWord_word (bytes : Bytes) (i : Nat) (high low : UInt8) :
    bytes.setWord i (word high low) = (bytes.set i high).set (i + 1) low := by
  have hbytes := ofWord_word high low
  simp only [ofWord, List.cons.injEq, and_true] at hbytes
  rw [setWord, hbytes.1, hbytes.2]

/-- To write the first byte of a word is to write the word with its second byte as it was. -/
theorem set_eq_setWord (bytes : Bytes) (i : Nat) (byte : UInt8) :
    bytes.set i byte = bytes.setWord i (word byte (bytes.byteAt (i + 1))) := by
  rw [setWord_word, List.set_comm _ _ (by omega), set_byteAt_self]

/-- To write the second byte of a word is to write the word with its first byte as it was. -/
theorem set_succ_eq_setWord (bytes : Bytes) (i : Nat) (byte : UInt8) :
    bytes.set (i + 1) byte = bytes.setWord i (word (bytes.byteAt i) byte) := by
  rw [setWord_word, set_byteAt_self]

end Bytes

namespace Checksum

/-- **Another word changes the sum by the difference.**  If the word is an odd last byte, the byte
after it is zero before and after. -/
theorem sum_words_setWord {word : UInt16} : ∀ {message : Bytes} {i : Nat}, i % 2 = 0 →
    i < message.length → (i + 1 = message.length → word.toNat % 256 = 0) →
      (words (message.setWord i word)).sum + (message.wordAt i).toNat
        = (words message).sum + word.toNat
  | [last], 0, _, _, hlast => by
    have hword := word.toNat_lt
    have hzero := hlast rfl
    simp only [Bytes.setWord, Bytes.wordAt, Bytes.byteAt, Bytes.toNat_word, words,
      List.set_cons_zero, List.set_cons_succ, List.set_nil, List.getD_cons_zero,
      List.getD_cons_succ, List.getD_nil, UInt8.toNat_ofNat', List.sum_cons, List.sum_nil,
      UInt8.toNat_zero]
    omega
  | high :: low :: rest, 0, _, _, _ => by
    have hword := word.toNat_lt
    simp only [Bytes.setWord, Bytes.wordAt, Bytes.byteAt, Bytes.toNat_word, words,
      List.set_cons_zero, List.set_cons_succ, List.getD_cons_zero, List.getD_cons_succ,
      UInt8.toNat_ofNat', List.sum_cons]
    omega
  | high :: low :: rest, i + 2, heven, hi, hlast => by
    have hi' : i < rest.length := by
      simp only [List.length_cons] at hi
      omega
    have ih : (words (Bytes.setWord rest i word)).sum + (Bytes.wordAt rest i).toNat
        = (words rest).sum + word.toNat :=
      sum_words_setWord (by omega) hi' fun hend => hlast (by simp only [List.length_cons]; omega)
    have hset : Bytes.setWord (high :: low :: rest) (i + 2) word
        = high :: low :: Bytes.setWord rest i word := rfl
    have hget : Bytes.wordAt (high :: low :: rest) (i + 2) = Bytes.wordAt rest i := rfl
    rw [hset, hget]
    simp only [words, List.sum_cons]
    omega

/-- **A message is intact** when its sum is a multiple of 65535, and not zero. -/
theorem onesSum_eq_iff (message : Bytes) :
    onesSum message = 0xFFFF ↔ (words message).sum ≠ 0 ∧ (words message).sum % 65535 = 0 := by
  rw [onesSum_eq]
  unfold carried
  split
  · next hzero => simp [hzero]
  · next hpos => omega

end Checksum

/-! ## 2. Words that cannot be told apart -/

namespace Checksum

/-- One word is the zero with all bits clear, the other the zero with all bits set. -/
def AreZeros (a b : UInt16) : Prop := a = 0 ∧ b = 0xFFFF ∨ a = 0xFFFF ∧ b = 0

theorem areZeros_iff {a b : UInt16} :
    AreZeros a b ↔ a.toNat = 0 ∧ b.toNat = 65535 ∨ a.toNat = 65535 ∧ b.toNat = 0 := by
  unfold AreZeros
  rw [← UInt16.toNat_inj, ← UInt16.toNat_inj, ← UInt16.toNat_inj, ← UInt16.toNat_inj]
  rfl

/-- The two zeros have no byte in common. -/
theorem not_areZeros_word {high low high' low' : UInt8} (h : high = high' ∨ low = low') :
    ¬ AreZeros (Bytes.word high low) (Bytes.word high' low') := by
  have hhigh := high.toNat_lt
  have hhigh' := high'.toNat_lt
  have hlow := low.toNat_lt
  have hlow' := low'.toNat_lt
  rw [areZeros_iff, Bytes.toNat_word, Bytes.toNat_word]
  rcases h with rfl | rfl
  · omega
  · omega

theorem word_eq_word_iff {high low high' low' : UInt8} :
    Bytes.word high low = Bytes.word high' low' ↔ high = high' ∧ low = low' := by
  constructor
  · intro h
    have hbytes := congrArg Bytes.ofWord h
    rw [Bytes.ofWord_word, Bytes.ofWord_word] at hbytes
    simpa using hbytes
  · rintro ⟨rfl, rfl⟩
    rfl

/-- Different words differ by a multiple of 65535 only if they are the two zeros. -/
theorem mod_ne_zero {sum changed : Nat} {old new : UInt16}
    (hdifference : changed + old.toNat = sum + new.toNat) (hsum : sum % 65535 = 0)
    (hne : new ≠ old) (hzeros : ¬ AreZeros old new) : changed % 65535 ≠ 0 := by
  have hold := old.toNat_lt
  have hnew := new.toNat_lt
  rw [Ne, ← UInt16.toNat_inj] at hne
  rw [areZeros_iff] at hzeros
  omega

variable {message : Bytes} {i : Nat} {word : UInt16}

/-- **A message with another word in one place** is not intact any more. -/
theorem onesSum_setWord_ne (hintact : onesSum message = 0xFFFF) (heven : i % 2 = 0)
    (hi : i < message.length) (hlast : i + 1 = message.length → word.toNat % 256 = 0)
    (hne : word ≠ message.wordAt i) (hzeros : ¬ AreZeros (message.wordAt i) word) :
    onesSum (message.setWord i word) ≠ 0xFFFF := by
  have hsum := (onesSum_eq_iff message).1 hintact
  intro hchanged
  exact mod_ne_zero (sum_words_setWord heven hi hlast) hsum.2 hne hzeros
    ((onesSum_eq_iff _).1 hchanged).2

/-- A zero that is written the other way is not noticed. -/
theorem onesSum_setWord_ones (hintact : onesSum message = 0xFFFF) (heven : i % 2 = 0)
    (hi : i + 1 < message.length) (hzero : message.wordAt i = 0) :
    onesSum (message.setWord i 0xFFFF) = 0xFFFF := by
  have hsum := (onesSum_eq_iff message).1 hintact
  have hchanged : (words (message.setWord i 0xFFFF)).sum + (message.wordAt i).toNat
      = (words message).sum + (0xFFFF : UInt16).toNat :=
    sum_words_setWord heven (by omega) (by omega)
  rw [hzero] at hchanged
  simp only [UInt16.reduceToNat, UInt16.toNat_zero] at hchanged
  exact (onesSum_eq_iff _).2 (by omega)

/-- **A message with another byte in one place** is not intact any more. -/
theorem onesSum_set_ne {byte : UInt8} (hintact : onesSum message = 0xFFFF)
    (hi : i < message.length) (hne : byte ≠ message.byteAt i) :
    onesSum (message.set i byte) ≠ 0xFFFF := by
  obtain ⟨j, rfl | rfl⟩ := i.even_or_odd'
  · rw [Bytes.set_eq_setWord]
    refine onesSum_setWord_ne hintact (by omega) hi ?_ ?_ (not_areZeros_word (.inr rfl))
    · intro hlast
      have hbeyond : message.byteAt (2 * j + 1) = 0 :=
        List.getD_eq_default _ _ (by omega)
      rw [hbeyond, Bytes.toNat_word, UInt8.toNat_zero, Nat.add_zero, Nat.mul_mod_left]
    · intro hsame
      exact hne (word_eq_word_iff.1 hsame).1
  · rw [Bytes.set_succ_eq_setWord]
    refine onesSum_setWord_ne hintact (by omega) (by omega) (by omega) ?_
      (not_areZeros_word (.inl rfl))
    intro hsame
    exact hne (word_eq_word_iff.1 hsame).2

end Checksum

/-! ## 3. Datagrams -/

/-- A check that fails is one of the checks. -/
theorem mem_of_firstFault {checks : List (Bool × PingFault)} {fault : PingFault}
    (h : firstFault checks = some fault) : fault ∈ checks.map Prod.snd := by
  obtain ⟨check, hfind, rfl⟩ := Option.map_eq_some_iff.1 h
  exact List.mem_map_of_mem (List.mem_of_find?_eq_some hfind)

variable {header message data : Bytes}

/-- **A datagram that is not rejected before its type is looked at** has a header that announces
itself, and an intact message. -/
theorem framed_of_passed (hlength : data.length ≤ 65536)
    (hpassed : ∀ fault ∈ [PingFault.truncatedPacket, .notIcmp, .badChecksum],
      decodeV4 data ≠ .malformed fault) :
    ∃ header message, Framed (message.byteAt 0) header message data := by
  have hsplit : data = headerOf data ++ messageOf data := (List.take_append_drop _ data).symm
  have hmessage : (messageOf data).length ≤ 65536 := by
    rw [messageOf, List.length_drop]
    omega
  obtain ⟨hannounces, -⟩ | ⟨fault, hfault, hdecode⟩ := header_or_fault data
  case inr =>
    have hmem := mem_of_firstFault hfault
    exact absurd hdecode (hpassed fault (by
      simp only [headerChecks, List.map_cons, List.map_nil, List.mem_cons] at hmem ⊢
      tauto))
  have hdecode := hannounces.decodeV4_append (messageOf data)
  rw [← hsplit] at hdecode
  have henough : EchoHeader.length ≤ (messageOf data).length := by
    by_contra hshort
    refine hpassed .truncatedPacket (by simp) (hdecode.trans ?_)
    rw [decodeMessageV4, EchoHeader.ofBytes?_eq_none (by omega)]
  have hintact : onesSum (messageOf data) = 0xFFFF := by
    by_contra hdamaged
    refine hpassed .badChecksum (by simp) (hdecode.trans ?_)
    rw [decodeMessageV4_eq henough hmessage, if_pos hdamaged]
  exact ⟨headerOf data, messageOf data, hsplit, hannounces, henough, hintact, rfl⟩

/-- A message that is not intact is rejected, behind every header that announces itself. -/
theorem decodeV4_of_damaged (hannounces : Ipv4Header.Announces header)
    (henough : EchoHeader.length ≤ message.length) (hlength : message.length ≤ 65536)
    (hdamaged : onesSum message ≠ 0xFFFF) :
    decodeV4 (header ++ message) = .malformed .badChecksum := by
  rw [hannounces.decodeV4_append, decodeMessageV4_eq henough hlength, if_pos hdamaged]

/-- A message that is intact is not rejected by its checksum. -/
theorem decodeV4_of_intact (hannounces : Ipv4Header.Announces header)
    (henough : EchoHeader.length ≤ message.length) (hlength : message.length ≤ 65536)
    (hintact : onesSum message = 0xFFFF) :
    decodeV4 (header ++ message) ≠ .malformed .badChecksum := by
  rw [hannounces.decodeV4_append, decodeMessageV4_eq henough hlength, if_neg (not_not.2 hintact)]
  split
  · exact Decoded.noConfusion
  · split
    · decide
    · exact Decoded.noConfusion

/-- **Corruption is noticed.**

A datagram of at most 65536 bytes is not rejected before its type is looked at.  Then it is
rejected by its checksum once any word of the message, counted from the end of the IP header, is
replaced by a different one, unless the two are the two zeros; and it is rejected once any single
byte of the message is replaced.  A zero that is written with all bits set instead of none is not
noticed. -/
theorem corruption_is_noticed (source : Address) (hlength : data.length ≤ 65536)
    (hpassed : ∀ fault ∈ [PingFault.truncatedPacket, .notIcmp, .badChecksum],
      decode .v4 data source ≠ .malformed fault) :
    let start := Ipv4Header.claimedLength data
    (∀ offset, offset % 2 = 0 → start + offset < data.length → ∀ word : UInt16,
      (start + offset + 1 = data.length → word.toNat % 256 = 0) →
      word ≠ data.wordAt (start + offset) → ¬ AreZeros (data.wordAt (start + offset)) word →
        decode .v4 (data.setWord (start + offset) word) source = .malformed .badChecksum) ∧
    (∀ i, start ≤ i → i < data.length → ∀ byte, byte ≠ data.byteAt i →
      decode .v4 (data.set i byte) source = .malformed .badChecksum) ∧
    (∀ offset, offset % 2 = 0 → start + offset + 1 < data.length →
      data.wordAt (start + offset) = 0 →
        decode .v4 (data.setWord (start + offset) 0xFFFF) source ≠ .malformed .badChecksum) := by
  obtain ⟨header, message, rfl, hannounces, henough, hintact, -⟩ :=
    framed_of_passed hlength hpassed
  rw [List.length_append] at hlength ⊢
  rw [hannounces.claimedLength_append message]
  intro start
  refine ⟨?_, ?_, ?_⟩
  · intro offset heven hoffset word hlast hne hzeros
    rw [Bytes.wordAt_append_right] at hne hzeros
    rw [Bytes.setWord_append]
    refine decodeV4_of_damaged hannounces ?_ ?_ ?_
    · rwa [Bytes.length_setWord]
    · rw [Bytes.length_setWord]
      omega
    · exact onesSum_setWord_ne hintact heven (by omega) (fun hend => hlast (by omega)) hne hzeros
  · intro i hstart hi byte hne
    obtain ⟨offset, rfl⟩ := Nat.exists_eq_add_of_le hstart
    rw [Bytes.byteAt_append_right] at hne
    rw [List.set_append_right _ _ hstart, Nat.add_sub_cancel_left]
    refine decodeV4_of_damaged hannounces ?_ ?_ ?_
    · rwa [List.length_set]
    · rw [List.length_set]
      omega
    · exact onesSum_set_ne hintact (by omega) hne
  · intro offset heven hoffset hzero
    rw [Bytes.wordAt_append_right] at hzero
    rw [Bytes.setWord_append]
    refine decodeV4_of_intact hannounces ?_ ?_ ?_
    · rwa [Bytes.length_setWord]
    · rw [Bytes.length_setWord]
      omega
    · exact onesSum_setWord_ones hintact heven (by omega) hzero

/-- A reply of nine bytes: its checksum, its odd last byte as a word and as a byte, and the zero of
its type and code. -/
theorem corruption_is_noticed_in_odd_reply :
    shortReply.length ≤ 65536 ∧
      (∀ fault ∈ [PingFault.truncatedPacket, .notIcmp, .badChecksum],
        decode .v4 shortReply .any ≠ .malformed fault) ∧
      decode .v4 (shortReply.setWord 22 0xEDFB) .any = .malformed .badChecksum ∧
      decode .v4 (shortReply.setWord 28 0x0300) .any = .malformed .badChecksum ∧
      decode .v4 (shortReply.set 28 3) .any = .malformed .badChecksum ∧
      decode .v4 (shortReply.setWord 20 0xFFFF) .any ≠ .malformed .badChecksum := by
  have hlength : shortReply.length ≤ 65536 := by decide
  have hframed : Framed 0 (shortReply.take 20) (shortReply.drop 20) shortReply :=
    ⟨rfl, by constructor <;> decide, by decide, by decide, by decide⟩
  have hpassed : ∀ fault ∈ [PingFault.truncatedPacket, .notIcmp, .badChecksum],
      decode .v4 shortReply .any ≠ .malformed fault := by
    intro fault _
    rw [decode, decodeV4_of_reply hframed hlength]
    exact Decoded.noConfusion
  obtain ⟨hword, hbyte, hzero⟩ := corruption_is_noticed .any hlength hpassed
  refine ⟨hlength, hpassed, ?_, ?_, ?_, ?_⟩
  · exact hword 2 (by decide) (by decide) 0xEDFB (by decide) (by decide)
      (by rw [areZeros_iff]; decide)
  · exact hword 8 (by decide) (by decide) 0x0300 (by decide) (by decide)
      (by rw [areZeros_iff]; decide)
  · exact hbyte 28 (by decide) (by decide) 3 (by decide)
  · exact hzero 0 (by decide) (by decide) (by decide)

end IcmpEcho
