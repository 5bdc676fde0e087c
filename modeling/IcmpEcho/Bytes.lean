/-
# Bytes and big-endian words

Every message of this library is a list of bytes, and every number wider than a byte travels
with its high byte first.  A 16-bit word and its two bytes determine each other
(`word_ofWord`, `ofWord_word`).
-/

namespace IcmpEcho

/-- A message, or a part of one. -/
abbrev Bytes := List UInt8

namespace Bytes

/-! ## 1. Words -/

/-- The word whose high byte is `high` and whose low byte is `low`. -/
def word (high low : UInt8) : UInt16 :=
  UInt16.ofNat (high.toNat * 256 + low.toNat)

/-- The two bytes of a word, high byte first. -/
def ofWord (w : UInt16) : Bytes :=
  [UInt8.ofNat (w.toNat / 256), UInt8.ofNat (w.toNat % 256)]

@[simp] theorem length_ofWord (w : UInt16) : (ofWord w).length = 2 := rfl

theorem toNat_word (high low : UInt8) : (word high low).toNat = high.toNat * 256 + low.toNat := by
  have h1 := high.toNat_lt
  have h2 := low.toNat_lt
  simp only [word, UInt16.toNat_ofNat']
  omega

/-- **The two bytes of a word give it back.** -/
theorem word_ofWord (w : UInt16) :
    word (UInt8.ofNat (w.toNat / 256)) (UInt8.ofNat (w.toNat % 256)) = w := by
  have h := w.toNat_lt
  apply UInt16.toNat_inj.mp
  simp only [toNat_word, UInt8.toNat_ofNat']
  omega

/-- **A word gives back the two bytes it was made of.** -/
theorem ofWord_word (high low : UInt8) : ofWord (word high low) = [high, low] := by
  have h1 := high.toNat_lt
  have h2 := low.toNat_lt
  simp only [ofWord, toNat_word, List.cons.injEq, and_true]
  constructor <;> apply UInt8.toNat_inj.mp <;> simp only [UInt8.toNat_ofNat'] <;> omega

/-! ## 2. Fields and filling -/

/-- The byte at `i`, zero beyond the end. -/
def byteAt (bytes : Bytes) (i : Nat) : UInt8 := bytes.getD i 0

/-- The word at `i` and `i + 1`, zero bytes beyond the end. -/
def wordAt (bytes : Bytes) (i : Nat) : UInt16 := word (bytes.byteAt i) (bytes.byteAt (i + 1))

/-- The bytes 0, 1, …, 255, 0, 1, … up to `n` of them. -/
def ramp (n : Nat) : Bytes := (List.range n).map fun i => UInt8.ofNat i

@[simp] theorem length_ramp (n : Nat) : (ramp n).length = n := by simp [ramp]

end Bytes

end IcmpEcho
