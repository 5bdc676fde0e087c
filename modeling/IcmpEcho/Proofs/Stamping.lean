/-
# Two checksum routines agree

`EchoHeader.stamp` sums up a header without its checksum field and the body behind it, and folds
twice; `internetChecksum` sums up all of a message and folds until no carry is left.  The sum of
either is kept in 32 bits.

Neither sum leaves them, as long as the body has no more than 131068 bytes
(`EchoHeader.sum_cleared_lt`): the 65537 words that are summed up come to at most 65537 * 65535, the
greatest number of 32 bits.  With one word more it could be passed.  The checksum that is written in
only fills the sum up to the next multiple of 65535 (`EchoHeader.sum_filled`), and that is still no
greater (`EchoHeader.carried_filled`).

**So the two agree on every header and body** (`checksums_agree`), and both with the sum that is
taken in whole numbers and folded at last (`foldAll`).
-/
import Mathlib
import IcmpEcho.Proofs.OnesComplement

namespace IcmpEcho

namespace Checksum

/-! ## 1. Folding whole numbers -/

/-- Folds a sum, however great, until no carry is left. -/
def foldAll (sum : Nat) : Nat :=
  if sum < 65536 then sum else foldAll (sum % 65536 + sum / 65536)
termination_by sum
decreasing_by omega

theorem foldAll_eq (sum : Nat) : foldAll sum = carried sum := by
  induction sum using foldAll.induct with
  | case1 sum hsmall =>
    rw [foldAll, if_pos hsmall]
    exact (carried_of_le (by omega)).symm
  | case2 sum hcarry ih =>
    rw [foldAll, if_neg hcarry, ih]
    exact carried_congr (by omega) (by omega) (by omega)

/-- **The one's-complement sum is the sum of all words, folded.** -/
theorem foldAll_sum_words (message : Bytes) : foldAll (words message).sum = onesSum message := by
  rw [foldAll_eq, onesSum_eq]

/-- **Folding twice is enough.**  A second fold leaves nothing to carry. -/
theorem complement_foldTwice (sum : UInt32) :
    complement (foldTwice sum) = complement (fold sum) := by
  have hsmall := carried_le sum.toNat
  refine UInt16.toNat_inj.1 ?_
  rw [toNat_complement, toNat_complement, toNat_foldTwice, toNat_fold]
  omega

end Checksum

open Checksum

/-! ## 2. The bytes of a header that is stamped -/

namespace EchoHeader

variable {header : EchoHeader} {body : Bytes}

/-- Headers that differ in their checksums differ in bytes 2 and 3 at most. -/
theorem byteAt_toBytes_stamp (header : EchoHeader) (body : Bytes) {i : Nat} (h2 : i ≠ 2)
    (h3 : i ≠ 3) : (header.stamp body).toBytes.byteAt i = header.toBytes.byteAt i := by
  match i, h2, h3 with
  | 0, _, _ => rfl
  | 1, _, _ => rfl
  | _ + 4, _, _ => rfl

/-- What is in the checksum field makes no difference to the rest of a header. -/
theorem cleared_stamp (header : EchoHeader) (body : Bytes) :
    (header.stamp body).cleared = header.cleared := rfl

theorem wordAt_two_toBytes (header : EchoHeader) : header.toBytes.wordAt 2 = header.checksum :=
  Bytes.word_ofWord header.checksum

/-- A header without its checksum and a body that is not too long sum up to no more than 32 bits
hold. -/
theorem sum_cleared_lt (header : EchoHeader) (h : body.length ≤ 131068) :
    (words (header.cleared.toBytes ++ body)).sum < 4294967296 := by
  have hbody := sum_words_le body
  have htype := header.type.toNat_lt
  have hcode := header.code.toNat_lt
  have hidentifier := header.identifier.toNat_lt
  have hsequence := header.sequence.toNat_lt
  rw [sum_cleared]
  omega

end EchoHeader

/-! ## 3. Agreement -/

/-- What stamping a header for a body comes to. -/
structure Agrees (header : EchoHeader) (body : Bytes) : Prop where
  /-- Only bytes 2 and 3 of the header are written. -/
  elsewhere : ∀ i, i ≠ 2 → i ≠ 3 →
    (header.stamp body).toBytes.byteAt i = header.toBytes.byteAt i
  /-- They hold the checksum of the header with zero in their place and the body behind it. -/
  stored : (header.stamp body).toBytes.wordAt 2
    = internetChecksum (header.cleared.toBytes ++ body)
  /-- That is the complement of the one's-complement sum. -/
  complement : (internetChecksum (header.cleared.toBytes ++ body)).toNat
    = 65535 - onesSum (header.cleared.toBytes ++ body)
  /-- The one's-complement sum is the sum in whole numbers, folded. -/
  whole : onesSum (header.cleared.toBytes ++ body)
    = foldAll (words (header.cleared.toBytes ++ body)).sum
  /-- The sum that is stamped is the one in whole numbers: no addition has lost a carry. -/
  stamping : (addWords header.sumWithoutChecksum body).toNat
    = (words (header.cleared.toBytes ++ body)).sum
  /-- Nor has one over the message with zero in place of its checksum, -/
  blank : (addWords 0 (header.cleared.toBytes ++ body)).toNat
    = (words (header.cleared.toBytes ++ body)).sum
  /-- or over the message with its checksum. -/
  filled : (addWords 0 ((header.stamp body).toBytes ++ body)).toNat
    = (words ((header.stamp body).toBytes ++ body)).sum
  /-- Two folds of the sum give what folding until no carry is left gives. -/
  folds : Checksum.complement (foldTwice (addWords header.sumWithoutChecksum body))
    = Checksum.complement (fold (addWords header.sumWithoutChecksum body))
  /-- The message with its checksum is intact. -/
  intact : internetChecksum ((header.stamp body).toBytes ++ body) = 0

/-- **The two checksum routines agree,** on every header, whatever is in its checksum field, and
every body of even or odd length that keeps the sum in 32 bits. -/
theorem checksums_agree (header : EchoHeader) {body : Bytes} (h : body.length ≤ 131068) :
    Agrees header body := by
  have hsum := header.sum_cleared_lt h
  have hstamped := (header.stamp body).sum_cleared_lt h
  have hstored : (header.stamp body).checksum
      = internetChecksum ((header.stamp body).cleared.toBytes ++ body) := by
    rw [header.cleared_stamp body]
    exact EchoHeader.checksum_stamp hsum
  have hfilled : (words ((header.stamp body).toBytes ++ body)).sum < 4294967296 := by
    rw [EchoHeader.sum_filled hstamped hstored]
    exact (EchoHeader.carried_filled hstamped).1
  constructor
  case elsewhere => exact fun i h2 h3 => header.byteAt_toBytes_stamp body h2 h3
  case stored => exact (EchoHeader.wordAt_two_toBytes _).trans hstored
  case complement => exact toNat_internetChecksum hsum
  case whole => exact (foldAll_sum_words _).symm
  case stamping => exact EchoHeader.toNat_addWords_stamp hsum
  case blank => exact toNat_addWords_zero hsum
  case filled => exact toNat_addWords_zero hfilled
  case folds => exact complement_foldTwice _
  case intact => exact EchoHeader.internetChecksum_filled hstamped hstored

/-- A header of all ones in front of three zero bytes: the sum is three times 65535, and the
checksum comes out as zero, which is not what was in its place. -/
theorem checksums_agree_at_boundary :
    let header : EchoHeader :=
      { type := 0xFF, code := 0xFF, checksum := 0xBEEF, identifier := 0xFFFF, sequence := 0xFFFF }
    let body : Bytes := [0, 0, 0]
    body.length ≤ 131068 ∧
      (words (header.cleared.toBytes ++ body)).sum = 3 * 65535 ∧
      (header.stamp body).toBytes = [0xFF, 0xFF, 0, 0, 0xFF, 0xFF, 0xFF, 0xFF] ∧
      internetChecksum (header.cleared.toBytes ++ body) = 0 ∧
      internetChecksum ((header.stamp body).toBytes ++ body) = 0 := by
  intro header body
  have hlength : body.length ≤ 131068 := by decide
  have hagrees := checksums_agree header hlength
  have hbytes : (header.stamp body).toBytes = [0xFF, 0xFF, 0, 0, 0xFF, 0xFF, 0xFF, 0xFF] := by
    decide
  refine ⟨hlength, by decide, hbytes, ?_, hagrees.intact⟩
  rw [← hagrees.stored, hbytes]
  rfl

end IcmpEcho
