/-
# Ranges of signed words

Whole numbers are unbounded; these are the tests for the ones that a signed word of 32 or 64 bits
holds.
-/

namespace IcmpEcho.Number

/-- A signed word of 32 bits holds the number. -/
def isInt32 (n : Int) : Bool := Int32.minValue.toInt ≤ n ∧ n ≤ Int32.maxValue.toInt

/-- A signed word of 64 bits holds the number. -/
def isInt64 (n : Int) : Bool := Int64.minValue.toInt ≤ n ∧ n ≤ Int64.maxValue.toInt

end IcmpEcho.Number
