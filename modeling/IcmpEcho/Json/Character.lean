/-
# One character of a JSON string

Inside a JSON string a character stands for itself, as well-formed UTF-8, or is escaped by a
backslash.  Control characters have to be escaped; a character beyond the 16-bit range is
escaped as two surrogates, and a surrogate may not stand alone.

Reading a character takes at least one byte (`character?_shorter`), which is what makes the
reading of a string end.
-/
import IcmpEcho.Bytes

namespace IcmpEcho.Json

/-! ## 1. UTF-8 -/

/-- A byte that continues a character, from `low` to `high`: its six bits. -/
def tail? (low high byte : UInt8) : Option Nat :=
  if low ≤ byte ∧ byte ≤ high then some (byte.toNat % 64) else none

/-- A character of two, three or four bytes, `first` and the bytes after it.  The second byte
is bounded so that no character has two encodings and none is a surrogate or above the last
one. -/
def utf8? (first : UInt8) (rest : Bytes) : Option (Char × Bytes) :=
  if 0xC2 ≤ first ∧ first ≤ 0xDF then
    match rest with
    | b :: rest =>
      match tail? 0x80 0xBF b with
      | some x => some (Char.ofNat (first.toNat % 32 * 64 + x), rest)
      | none => none
    | _ => none
  else if 0xE0 ≤ first ∧ first ≤ 0xEF then
    let low : UInt8 := if first = 0xE0 then 0xA0 else 0x80
    let high : UInt8 := if first = 0xED then 0x9F else 0xBF
    match rest with
    | b :: c :: rest =>
      match tail? low high b, tail? 0x80 0xBF c with
      | some x, some y => some (Char.ofNat ((first.toNat % 16 * 64 + x) * 64 + y), rest)
      | _, _ => none
    | _ => none
  else if 0xF0 ≤ first ∧ first ≤ 0xF4 then
    let low : UInt8 := if first = 0xF0 then 0x90 else 0x80
    let high : UInt8 := if first = 0xF4 then 0x8F else 0xBF
    match rest with
    | b :: c :: d :: rest =>
      match tail? low high b, tail? 0x80 0xBF c, tail? 0x80 0xBF d with
      | some x, some y, some z =>
        some (Char.ofNat (((first.toNat % 8 * 64 + x) * 64 + y) * 64 + z), rest)
      | _, _, _ => none
    | _ => none
  else none

/-! ## 2. Escapes -/

/-- The value of a hexadecimal digit. -/
def hex? (byte : UInt8) : Option Nat :=
  let n := byte.toNat
  if 0x30 ≤ n ∧ n ≤ 0x39 then some (n - 0x30)
  else if 0x61 ≤ n ∧ n ≤ 0x66 then some (n - 0x61 + 10)
  else if 0x41 ≤ n ∧ n ≤ 0x46 then some (n - 0x41 + 10)
  else none

/-- The number written by four hexadecimal digits. -/
def unit? (a b c d : UInt8) : Option Nat :=
  match hex? a, hex? b, hex? c, hex? d with
  | some a, some b, some c, some d => some (((a * 16 + b) * 16 + c) * 16 + d)
  | _, _, _, _ => none

/-- The character of a high surrogate and the escape of a low one that must follow it. -/
def pair? (high : Nat) : Bytes → Option (Char × Bytes)
  | 0x5C :: 0x75 :: a :: b :: c :: d :: rest =>
    match unit? a b c d with
    | none => none
    | some low =>
      if 0xDC00 ≤ low ∧ low ≤ 0xDFFF then
        some (Char.ofNat (0x10000 + (high - 0xD800) * 0x400 + (low - 0xDC00)), rest)
      else none
  | _ => none

/-- The character after a backslash and a `u`: one unit, or two surrogates. -/
def unicode? : Bytes → Option (Char × Bytes)
  | a :: b :: c :: d :: rest =>
    match unit? a b c d with
    | none => none
    | some high =>
      if high < 0xD800 ∨ 0xDFFF < high then some (Char.ofNat high, rest)
      else if 0xDBFF < high then none
      else pair? high rest
  | _ => none

/-- The character after a backslash. -/
def escaped? : Bytes → Option (Char × Bytes)
  | [] => none
  | byte :: rest =>
    match byte with
    | 0x22 => some ('"', rest)
    | 0x5C => some ('\\', rest)
    | 0x2F => some ('/', rest)
    | 0x62 => some ('\x08', rest)
    | 0x66 => some ('\x0c', rest)
    | 0x6E => some ('\n', rest)
    | 0x72 => some ('\r', rest)
    | 0x74 => some ('\t', rest)
    | 0x75 => unicode? rest
    | _ => none

/-! ## 3. Either -/

/-- The next character of a string that does not end here. -/
def character? : Bytes → Option (Char × Bytes)
  | [] => none
  | byte :: rest =>
    if byte = 0x5C then escaped? rest
    else if byte < 0x20 then none
    else if byte < 0x80 then some (Char.ofNat byte.toNat, rest)
    else utf8? byte rest

theorem utf8?_length {first : UInt8} {rest tail : Bytes} {c : Char}
    (h : utf8? first rest = some (c, tail)) : tail.length ≤ rest.length := by
  unfold utf8? at h
  grind

theorem pair?_length {high : Nat} {rest tail : Bytes} {c : Char}
    (h : pair? high rest = some (c, tail)) : tail.length ≤ rest.length := by
  unfold pair? at h
  grind

theorem unicode?_length {rest tail : Bytes} {c : Char}
    (h : unicode? rest = some (c, tail)) : tail.length ≤ rest.length := by
  unfold unicode? at h
  split at h
  · simp only [List.length_cons]
    split at h
    · simp at h
    · split at h
      · simp only [Option.some.injEq, Prod.mk.injEq] at h
        rw [h.2]
        omega
      · split at h
        · simp at h
        · have := pair?_length h
          omega
  · simp at h

theorem escaped?_length {rest tail : Bytes} {c : Char}
    (h : escaped? rest = some (c, tail)) : tail.length ≤ rest.length := by
  unfold escaped? at h
  split at h
  · simp at h
  · rw [List.length_cons]
    split at h
    case h_9 => exact Nat.le_succ_of_le (unicode?_length h)
    case h_10 => simp at h
    all_goals
      simp only [Option.some.injEq, Prod.mk.injEq] at h
      rw [h.2]
      exact Nat.le_succ _

/-- **A character takes at least one byte.** -/
theorem character?_shorter {text tail : Bytes} {c : Char}
    (h : character? text = some (c, tail)) : tail.length < text.length := by
  unfold character? at h
  split at h
  · simp at h
  · next byte rest =>
    simp only [List.length_cons]
    split at h
    · have := escaped?_length h; omega
    · split at h
      · simp at h
      · split at h
        · simp only [Option.some.injEq, Prod.mk.injEq] at h
          simp [h.2.symm]
        · have := utf8?_length h; omega

end IcmpEcho.Json
