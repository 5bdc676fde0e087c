/-
# One's-complement sums

The checksum of a message is defined by sums in 32 bits whose carries are folded back.  Here it is
described without them.  `Checksum.words` are the numbers that a message consists of, an odd last
byte with a zero byte after it; `Checksum.onesSum` adds them up in 16 bits, each carry of an
addition going around to its low end.

The sum that is never carried determines it: `carried n` is the number from 1 to 65535 that leaves
the same rest as `n` when divided by 65535, and zero only for zero (`onesSum_eq`).  Folding gives
the same, whether until no carry is left (`toNat_fold`) or twice (`toNat_foldTwice`).  So, where the
sum does not leave 32 bits, as in a message of up to 131072 bytes, **the checksum is the complement
of the one's-complement sum** (`toNat_internetChecksum`).  It is what `EchoHeader.stamp` stores
(`EchoHeader.checksum_stamp`), and a message into which it is written has the checksum zero
(`EchoHeader.internetChecksum_filled`).
-/
import Mathlib
import IcmpEcho.Packet.EchoHeader

namespace IcmpEcho

namespace Checksum

/-! ## 1. Sums without carries -/

/-- The big-endian words of a message. -/
def words : Bytes → List Nat
  | [] => []
  | [last] => [last.toNat * 256]
  | high :: low :: rest => (high.toNat * 256 + low.toNat) :: words rest

/-- Adds two words; a carry goes around to the low end. -/
def addAround (a b : Nat) : Nat := if a + b < 65536 then a + b else a + b - 65535

/-- The one's-complement sum of the words of a message. -/
def onesSum (message : Bytes) : Nat := (words message).foldl addAround 0

/-- What is left of a sum when all carries have gone around. -/
def carried (n : Nat) : Nat := if n = 0 then 0 else (n - 1) % 65535 + 1

theorem carried_le (n : Nat) : carried n ≤ 65535 := by
  unfold carried
  split <;> omega

theorem carried_of_le {n : Nat} (h : n ≤ 65535) : carried n = n := by
  unfold carried
  split <;> omega

/-- Sums that leave the same rest are carried to the same word, unless one of them is zero. -/
theorem carried_congr {m n : Nat} (hm : m ≠ 0) (hn : n ≠ 0) (h : m % 65535 = n % 65535) :
    carried m = carried n := by
  unfold carried
  rw [if_neg hm, if_neg hn]
  omega

/-- **A word is added to a sum** before it is carried, or after. -/
theorem addAround_carried (n : Nat) {word : Nat} (h : word ≤ 65535) :
    addAround (carried n) word = carried (n + word) := by
  unfold addAround carried
  split <;> split <;> split <;> omega

theorem word_le {word : Nat} : ∀ {message : Bytes}, word ∈ words message → word ≤ 65535
  | [], h => nomatch h
  | [last], h => by
    obtain rfl := List.mem_singleton.1 h
    have := last.toNat_lt
    omega
  | high :: low :: rest, h => by
    have := high.toNat_lt
    have := low.toNat_lt
    rcases List.mem_cons.1 h with rfl | hrest
    · omega
    · exact word_le hrest

/-- **The one's-complement sum is the sum, carried.** -/
theorem onesSum_eq (message : Bytes) : onesSum message = carried (words message).sum := by
  have hfold : ∀ (ws : List Nat) (n : Nat), (∀ word ∈ ws, word ≤ 65535) →
      ws.foldl addAround (carried n) = carried (n + ws.sum) := by
    intro ws
    induction ws with
    | nil => intro n _; rfl
    | cons word ws ih =>
      intro n hws
      rw [List.foldl_cons, addAround_carried n (hws word List.mem_cons_self),
        ih _ fun other hother => hws other (List.mem_cons_of_mem word hother), List.sum_cons,
        Nat.add_assoc]
  have hsum := hfold (words message) 0 fun word => word_le
  rwa [Nat.zero_add] at hsum

/-- The sum of a message is no more than its length allows for. -/
theorem sum_words_le : ∀ message : Bytes,
    (words message).sum ≤ 65535 * ((message.length + 1) / 2)
  | [] => by simp [words]
  | [last] => by
    have := last.toNat_lt
    simp [words]
    omega
  | high :: low :: rest => by
    have := high.toNat_lt
    have := low.toNat_lt
    have ih := sum_words_le rest
    simp only [words, List.sum_cons, List.length_cons]
    omega

/-- Behind an even number of bytes the words of a message go on as by themselves. -/
theorem words_append : ∀ {front : Bytes} (back : Bytes), front.length % 2 = 0 →
    words (front ++ back) = words front ++ words back
  | [], _, _ => rfl
  | [_], _, h => by simp at h
  | high :: low :: rest, back, h => by
    have hrest : rest.length % 2 = 0 := by simp only [List.length_cons] at h; omega
    simp only [List.cons_append, words, words_append back hrest]

/-! ## 2. Sums in 32 bits -/

/-- The words of a message are added in 32 bits. -/
theorem toNat_addWords : ∀ (message : Bytes) (sum : UInt32),
    sum.toNat + (words message).sum < 4294967296 →
      (addWords sum message).toNat = sum.toNat + (words message).sum
  | [], sum, _ => rfl
  | [last], sum, h => by
    have := last.toNat_lt
    simp only [words, List.sum_cons, List.sum_nil] at h ⊢
    simp only [addWords, UInt32.toNat_add, UInt32.toNat_mul, UInt8.toNat_toUInt32,
      UInt32.reduceToNat]
    omega
  | high :: low :: rest, sum, h => by
    have := high.toNat_lt
    have := low.toNat_lt
    simp only [words, List.sum_cons] at h ⊢
    have hword : (sum + (high.toUInt32 * 256 + low.toUInt32)).toNat
        = sum.toNat + (high.toNat * 256 + low.toNat) := by
      simp only [UInt32.toNat_add, UInt32.toNat_mul, UInt8.toNat_toUInt32, UInt32.reduceToNat]
      omega
    rw [addWords, toNat_addWords rest _ (by rw [hword]; omega), hword]
    omega

theorem toNat_addWords_zero {message : Bytes} (h : (words message).sum < 4294967296) :
    (addWords 0 message).toNat = (words message).sum := by
  rw [toNat_addWords message 0 (by rwa [UInt32.toNat_zero, Nat.zero_add]), UInt32.toNat_zero,
    Nat.zero_add]

/-- **Folding until no carry is left** carries a sum. -/
theorem toNat_fold (sum : UInt32) : (fold sum).toNat = carried sum.toNat := by
  fun_induction fold sum with
  | case1 sum h =>
    have hsmall := congrArg UInt32.toNat h
    simp only [UInt32.toNat_div, UInt32.reduceToNat, UInt32.toNat_zero] at hsmall
    exact (carried_of_le (by omega)).symm
  | case2 sum h ih =>
    have hpos : sum.toNat / 65536 ≠ 0 := by
      intro hzero
      refine h (UInt32.toNat_inj.1 ?_)
      simpa using hzero
    rw [ih, toNat_foldOnce]
    exact carried_congr (by omega) (by omega) (by omega)

/-- What is above the low half of a sum goes around. -/
theorem carried_halves (n : Nat) : carried (n / 65536 + n % 65536) = carried n := by
  by_cases hzero : n = 0
  · rw [hzero]
  · exact carried_congr (by omega) hzero (by omega)

/-- One more fold carries what was folded once. -/
theorem carried_of_folded {n : Nat} (h : n ≤ 131070) : carried n = n % 65536 + n / 65536 := by
  unfold carried
  split <;> omega

/-- **Folding twice** carries a sum, in its low half. -/
theorem toNat_foldTwice (sum : UInt32) : (foldTwice sum).toNat % 65536 = carried sum.toNat := by
  have hmax := sum.toNat_lt
  have honce : (sum / 65536 + sum % 65536).toNat = sum.toNat / 65536 + sum.toNat % 65536 := by
    simp only [UInt32.toNat_add, UInt32.toNat_div, UInt32.toNat_mod, UInt32.reduceToNat]
    omega
  rw [← carried_halves]
  unfold foldTwice
  dsimp only
  simp only [UInt32.toNat_add, UInt32.toNat_div, honce, UInt32.reduceToNat]
  have hfolded : sum.toNat / 65536 + sum.toNat % 65536 ≤ 131070 := by omega
  generalize sum.toNat / 65536 + sum.toNat % 65536 = once at hfolded
  rw [carried_of_folded hfolded]
  omega

/-- A complement depends on the low half of a sum. -/
theorem toNat_complement (sum : UInt32) : (complement sum).toNat = 65535 - sum.toNat % 65536 := by
  have hmax := sum.toNat_lt
  simp only [complement, UInt32.toNat_toUInt16, UInt32.toNat_not, UInt32.size]
  omega

end Checksum

open Checksum

/-! ## 3. The checksum of a message -/

/-- The sum of a message that is not too long does not leave 32 bits. -/
theorem sum_words_lt {message : Bytes} (h : message.length ≤ 131072) :
    (words message).sum < 4294967296 := by
  have hle := sum_words_le message
  omega

/-- **The checksum is the complement of the one's-complement sum.** -/
theorem toNat_internetChecksum {message : Bytes} (h : (words message).sum < 4294967296) :
    (internetChecksum message).toNat = 65535 - onesSum message := by
  have hle := carried_le (words message).sum
  rw [internetChecksum, toNat_complement, toNat_fold, toNat_addWords_zero h, onesSum_eq]
  omega

/-- **A message is intact** when its one's-complement sum has all bits set. -/
theorem internetChecksum_eq_zero_iff {message : Bytes} (h : (words message).sum < 4294967296) :
    internetChecksum message = 0 ↔ onesSum message = 65535 := by
  have hnat := toNat_internetChecksum h
  have hle := carried_le (words message).sum
  rw [← onesSum_eq] at hle
  rw [← UInt16.toNat_inj, hnat, UInt16.toNat_zero]
  omega

/-! ## 4. The checksum field -/

namespace EchoHeader

/-- The header with nothing in its checksum field. -/
def cleared (header : EchoHeader) : EchoHeader := { header with checksum := 0 }

variable {header : EchoHeader} {body : Bytes}

theorem words_ofWord_append (word : UInt16) (rest : Bytes) :
    words (Bytes.ofWord word ++ rest) = word.toNat :: words rest := by
  have h := word.toNat_lt
  have hword : words (Bytes.ofWord word) = [word.toNat] := by
    simp only [Bytes.ofWord, words, UInt8.toNat_ofNat', List.cons.injEq, and_true]
    omega
  rw [words_append rest (by rw [Bytes.length_ofWord]), hword]
  rfl

/-- What a header adds to the sum of a message. -/
theorem sum_toBytes (header : EchoHeader) (body : Bytes) :
    (words (header.toBytes ++ body)).sum
      = header.checksum.toNat + (header.type.toNat * 256 + header.code.toNat
        + header.identifier.toNat + header.sequence.toNat + (words body).sum) := by
  simp only [toBytes, List.cons_append, List.append_assoc, words, words_ofWord_append,
    List.sum_cons]
  omega

theorem sum_cleared (header : EchoHeader) (body : Bytes) :
    (words (header.cleared.toBytes ++ body)).sum
      = header.type.toNat * 256 + header.code.toNat + header.identifier.toNat
        + header.sequence.toNat + (words body).sum := by
  rw [sum_toBytes]
  exact Nat.zero_add _

/-- The sum of a header's own words is far from leaving 32 bits. -/
theorem toNat_sumWithoutChecksum (header : EchoHeader) :
    header.sumWithoutChecksum.toNat = header.type.toNat * 256 + header.code.toNat
      + header.identifier.toNat + header.sequence.toNat := by
  have htype := header.type.toNat_lt
  have hcode := header.code.toNat_lt
  have hidentifier := header.identifier.toNat_lt
  have hsequence := header.sequence.toNat_lt
  simp only [sumWithoutChecksum, UInt32.toNat_add, UInt32.toNat_mul, UInt8.toNat_toUInt32,
    UInt16.toNat_toUInt32, UInt32.reduceToNat]
  omega

/-- The sum that is taken for a stamp is that of the message with nothing in its checksum field. -/
theorem toNat_addWords_stamp (h : (words (header.cleared.toBytes ++ body)).sum < 4294967296) :
    (addWords header.sumWithoutChecksum body).toNat
      = (words (header.cleared.toBytes ++ body)).sum := by
  have hsum := sum_cleared header body
  have hheader := toNat_sumWithoutChecksum header
  rw [toNat_addWords body _ (by omega), hheader, hsum]

/-- **The checksum that is stamped** is that of the message with nothing in its place, although the
one is folded twice and the other until no carry is left. -/
theorem checksum_stamp (h : (words (header.cleared.toBytes ++ body)).sum < 4294967296) :
    (header.stamp body).checksum = internetChecksum (header.cleared.toBytes ++ body) := by
  refine UInt16.toNat_inj.1 ?_
  calc (header.stamp body).checksum.toNat
      = 65535 - carried (words (header.cleared.toBytes ++ body)).sum := by
        rw [stamp, toNat_complement, toNat_foldTwice, toNat_addWords_stamp h]
    _ = (internetChecksum (header.cleared.toBytes ++ body)).toNat := by
        rw [toNat_internetChecksum h, onesSum_eq]

/-- A sum with its complement added has all bits set, and still fits into 32 bits. -/
theorem carried_filled {sum : Nat} (h : sum < 4294967296) :
    sum + (65535 - carried sum) < 4294967296 ∧
      carried (sum + (65535 - carried sum)) = 65535 := by
  unfold carried
  split
  · next hzero => simp [hzero]
  · split <;> omega

/-- What a message sums up to once its checksum is written into it. -/
theorem sum_filled (h : (words (header.cleared.toBytes ++ body)).sum < 4294967296)
    (hfilled : header.checksum = internetChecksum (header.cleared.toBytes ++ body)) :
    (words (header.toBytes ++ body)).sum
      = (words (header.cleared.toBytes ++ body)).sum
        + (65535 - carried (words (header.cleared.toBytes ++ body)).sum) := by
  have hchecksum := toNat_internetChecksum h
  rw [← hfilled, onesSum_eq] at hchecksum
  rw [← hchecksum, sum_toBytes, sum_cleared]
  omega

/-- **A message into which its checksum is written** is intact. -/
theorem internetChecksum_filled (h : (words (header.cleared.toBytes ++ body)).sum < 4294967296)
    (hfilled : header.checksum = internetChecksum (header.cleared.toBytes ++ body)) :
    internetChecksum (header.toBytes ++ body) = 0 := by
  obtain ⟨hlt, hall⟩ := carried_filled h
  rw [← sum_filled h hfilled] at hlt hall
  rw [internetChecksum_eq_zero_iff hlt, onesSum_eq, hall]

end EchoHeader

end IcmpEcho
