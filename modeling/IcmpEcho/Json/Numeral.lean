/-
# JSON numbers

A number is an optional minus, digits without a leading zero, an optional fraction and an
optional exponent.  Without fraction and exponent it is an integer if 64 bits hold it, signed if
it has a minus and unsigned if not; every other number is the nearest double.  A number beyond
the largest double is refused.
-/
import IcmpEcho.Bytes
import IcmpEcho.Json.Value

namespace IcmpEcho.Json

/-- The parts of a number in text. -/
structure Numeral where
  negative : Bool
  /-- The digits before the point. -/
  whole : Bytes
  /-- The digits after the point. -/
  fraction : Bytes
  /-- The exponent, if one is written. -/
  exponent : Option Int
  deriving DecidableEq, Repr

def isDigit (byte : UInt8) : Bool := 0x30 ≤ byte ∧ byte ≤ 0x39

/-- The number that decimal digits write. -/
def decimal (digits : Bytes) : Nat :=
  digits.foldl (fun value digit => value * 10 + (digit.toNat - 0x30)) 0

namespace Numeral

/-! ## 1. Reading the parts -/

/-- The digits before the point; after a leading zero there are no more of them. -/
def readWhole : Bytes → Option (Bytes × Bytes)
  | 0x30 :: rest => some ([0x30], rest)
  | text =>
    let digits := text.takeWhile isDigit
    if digits = [] then none else some (digits, text.dropWhile isDigit)

/-- A point and digits after it, or nothing. -/
def readFraction : Bytes → Option (Bytes × Bytes)
  | 0x2E :: rest =>
    let digits := rest.takeWhile isDigit
    if digits = [] then none else some (digits, rest.dropWhile isDigit)
  | text => some ([], text)

/-- The digits of an exponent whose sign has been read. -/
def readPower (negative : Bool) (text : Bytes) : Option (Option Int × Bytes) :=
  let digits := text.takeWhile isDigit
  if digits = [] then none
  else
    let power : Int := decimal digits
    some (some (if negative then -power else power), text.dropWhile isDigit)

/-- An exponent, or nothing. -/
def readExponent : Bytes → Option (Option Int × Bytes)
  | mark :: rest =>
    if mark = 0x65 ∨ mark = 0x45 then
      match rest with
      | 0x2B :: rest => readPower false rest
      | 0x2D :: rest => readPower true rest
      | rest => readPower false rest
    else some (none, mark :: rest)
  | [] => some (none, [])

/-- The number at the start of a text, and what follows it. -/
def read (text : Bytes) : Option (Numeral × Bytes) :=
  let (negative, text) :=
    match text with
    | 0x2D :: rest => (true, rest)
    | text => (false, text)
  match readWhole text with
  | none => none
  | some (whole, text) =>
    match readFraction text with
    | none => none
    | some (fraction, text) =>
      match readExponent text with
      | none => none
      | some (exponent, text) => some (⟨negative, whole, fraction, exponent⟩, text)

/-! ## 2. The value -/

/-- The numbers from here on round to no finite double. -/
def doubleBound : Nat := Number.twoTo 1024 - Number.twoTo 970

/-- The double next to `digits · 10 ^ power`.  A number of more than 310 places before the point
is beyond every double, and one that starts 400 places after it is next to zero. -/
def nearestDouble (negative : Bool) (digits : Nat) (power : Int) : Except JsonFault Rat :=
  let places : Int := (toString digits).length + power
  if digits = 0 ∨ places < -400 then .ok 0
  else if 310 < places then .error .overflow
  else
    let exact := mkRat (digits * Number.tenTo power.toNat : Nat) (Number.tenTo (-power).toNat)
    if (doubleBound : Rat) ≤ exact then .error .overflow
    else
      let double := Number.binary64 exact
      .ok (if negative then -double else double)

/-- The value of a number. -/
def value (numeral : Numeral) : Except JsonFault Json :=
  let digits := decimal (numeral.whole ++ numeral.fraction)
  let double :=
    (nearestDouble numeral.negative digits
      (numeral.exponent.getD 0 - numeral.fraction.length)).map Json.double
  if numeral.fraction ≠ [] ∨ numeral.exponent.isSome then double
  else if numeral.negative then
    if digits ≤ Number.twoTo 63 then .ok (.integer (-(digits : Int))) else double
  else if digits < UInt64.size then .ok (.integer digits) else double

end Numeral

end IcmpEcho.Json
