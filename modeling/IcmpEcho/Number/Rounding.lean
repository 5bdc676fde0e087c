/-
# Rounding exact numbers

Numbers are kept as exact rationals and rounded where the format they travel in rounds.
`halfEven` rounds a quotient to a whole number, a tie to the even neighbour.  `binary64` rounds
a rational to 53 significant binary digits the same way; the range of exponents is not bounded
here, because overflow is decided where numbers are read.

A function that takes its rounding as a parameter can also be read with exact arithmetic, by
giving it the identity.
-/

namespace IcmpEcho.Number

/-- What rounds the result of one arithmetic operation. -/
abbrev Rounding := Rat → Rat

/-- Two to a power. -/
def twoTo (n : Nat) : Nat := Nat.pow 2 n

/-- Ten to a power. -/
def tenTo (n : Nat) : Nat := Nat.pow 10 n

/-- The whole number nearest to `num / den`; of two, the even one. -/
def halfEven (num den : Nat) : Nat :=
  let low := num / den
  let twice := 2 * (num % den)
  if twice < den then low else if den < twice then low + 1 else low + low % 2

/-- The greatest `e` with `2 ^ e ≤ num / den`, for positive `num` and `den`. -/
def floorLog2 (num den : Nat) : Int :=
  let e : Int := (num.log2 : Int) - den.log2
  if num * twoTo (-e).toNat < den * twoTo e.toNat then e - 1 else e

/-- The nearest number with 53 significant binary digits; of two, the one whose last digit is
zero. -/
def binary64 : Rounding := fun x =>
  let magnitude := x.num.natAbs
  if magnitude = 0 then 0
  else
    let unit := floorLog2 magnitude x.den - 52
    let significand := halfEven (magnitude * twoTo (-unit).toNat) (x.den * twoTo unit.toNat)
    let rounded := mkRat (significand * twoTo unit.toNat : Nat) (twoTo (-unit).toNat)
    if x.num < 0 then -rounded else rounded

/-- The whole number next to `x` on the side of zero. -/
def truncate (x : Rat) : Int := x.num.tdiv x.den

/-- The text of `x` with `places` decimal places, a tie in the last to the even digit. -/
def fixed (places : Nat) (x : Rat) : String :=
  let scaled := halfEven (x.num.natAbs * tenTo places) x.den
  let whole := toString (scaled / tenTo places)
  let digits := toString (scaled % tenTo places)
  let zeros := String.ofList (List.replicate (places - digits.length) '0')
  (if x.num < 0 then "-" else "") ++ whole ++ "." ++ zeros ++ digits

end IcmpEcho.Number
