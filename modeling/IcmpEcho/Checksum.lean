/-
# The Internet checksum

The checksum of a message is the complement of the one's-complement sum of its big-endian
words; an odd last byte counts as the high byte of a word whose low byte is zero.  The sum is
taken in 32 bits and its carries are folded back into the low half.

Two ways to fold are used.  `fold` folds until no carry is left; `foldTwice` folds exactly
twice, which is enough for one datagram.  Over a message that carries a valid checksum
`internetChecksum` is zero.
-/
import IcmpEcho.Bytes

namespace IcmpEcho

namespace Checksum

/-! ## 1. The sum and its folds -/

/-- Adds the words of a message to `sum`, in 32 bits. -/
def addWords (sum : UInt32) : Bytes → UInt32
  | [] => sum
  | [last] => sum + last.toUInt32 * 256
  | high :: low :: rest => addWords (sum + (high.toUInt32 * 256 + low.toUInt32)) rest

/-- One fold: what stands above the low 16 bits is added to them. -/
def foldOnce (sum : UInt32) : UInt32 := sum % 65536 + sum / 65536

theorem toNat_foldOnce (sum : UInt32) :
    (foldOnce sum).toNat = sum.toNat % 65536 + sum.toNat / 65536 := by
  have h := sum.toNat_lt
  simp only [foldOnce, UInt32.toNat_add, UInt32.toNat_mod, UInt32.toNat_div, UInt32.reduceToNat]
  omega

/-- Folding a sum that has carries makes it smaller. -/
theorem foldOnce_lt {sum : UInt32} (h : ¬ sum / 65536 = 0) :
    (foldOnce sum).toNat < sum.toNat := by
  have hpos : sum.toNat / 65536 ≠ 0 := by
    intro h0
    refine h (UInt32.toNat_inj.mp ?_)
    simp only [UInt32.toNat_div, UInt32.reduceToNat]
    exact h0
  rw [toNat_foldOnce]
  omega

/-- Folds until no carry is left. -/
def fold (sum : UInt32) : UInt32 :=
  if sum / 65536 = 0 then sum else fold (foldOnce sum)
termination_by sum.toNat
decreasing_by exact foldOnce_lt ‹_›

/-- Folds twice; the second fold adds the carry of the first and leaves it in place. -/
def foldTwice (sum : UInt32) : UInt32 :=
  let once := sum / 65536 + sum % 65536
  once + once / 65536

/-- The checksum that belongs to a sum: its low half, complemented. -/
def complement (sum : UInt32) : UInt16 := (~~~ sum).toUInt16

end Checksum

/-! ## 2. The checksum of a message -/

/-- The complement of the one's-complement sum of a message's words. -/
def internetChecksum (message : Bytes) : UInt16 :=
  Checksum.complement (Checksum.fold (Checksum.addWords 0 message))

end IcmpEcho
