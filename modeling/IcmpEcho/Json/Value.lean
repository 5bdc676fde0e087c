/-
# JSON values

A JSON value as a configuration reads it: numbers written as integers that fit 64 bits stay
integers, every other number is a double (an exact rational here).  Of members of one name the
last one counts.

A number is taken over into a narrower type by the rule of that type: an integer keeps its low
bits, a double loses its fraction first and has one fixed result when what is left does not fit.
-/
import IcmpEcho.Number.Range
import IcmpEcho.Number.Rounding
import IcmpEcho.Failure

namespace IcmpEcho

/-- A JSON value. -/
inductive Json
  | null
  | bool (value : Bool)
  | integer (value : Int)
  | double (value : Rat)
  | string (value : String)
  | array (elements : List Json)
  | object (members : List (String × Json))
  deriving Repr, Inhabited

namespace Json

/-! ## 1. Members -/

/-- The last of some members with this name. -/
def lastNamed (name : String) (members : List (String × Json)) : Option Json :=
  members.foldl (fun found member => if member.1 = name then some member.2 else found) none

/-- The member of an object, if it has one of this name. -/
def member (value : Json) (name : String) : Except JsonFault (Option Json) :=
  match value with
  | object members => .ok (lastNamed name members)
  | _ => .error .notAnObject

/-- The converted member of an object, or `default` if there is none of this name. -/
def memberOr {α : Type} (value : Json) (name : String) (convert : Json → Except JsonFault α)
    (default : α) : Except JsonFault α :=
  match value.member name with
  | .error fault => .error fault
  | .ok none => .ok default
  | .ok (some found) => convert found

/-! ## 2. Numbers in narrower types -/

/-- A signed 32-bit number. -/
def toInt32 : Json → Except JsonFault Int
  | bool value => .ok value.toNat
  | integer value => .ok (Int32.ofInt value).toInt
  | double value =>
    let whole := Number.truncate value
    .ok (if Number.isInt32 whole then whole else Int32.minValue.toInt)
  | _ => .error .wrongType

/-- An unsigned 32-bit number. -/
def toUInt32 : Json → Except JsonFault UInt32
  | bool value => .ok (UInt32.ofNat value.toNat)
  | integer value => .ok (UInt32.ofInt value)
  | double value =>
    let whole := Number.truncate value
    .ok (if Number.isInt64 whole then UInt32.ofInt whole else 0)
  | _ => .error .wrongType

/-- A number of 64 bits without sign, from a number but not from a truth value. -/
def toSize : Json → Except JsonFault Nat
  | integer value => .ok (UInt64.ofInt value).toNat
  | double value =>
    let whole := Number.truncate value
    .ok
      (if whole < Int64.minValue.toInt then Number.twoTo 63
        else if whole < UInt64.size then (UInt64.ofInt whole).toNat
        else 0)
  | _ => .error .wrongType

/-! ## 3. Other types -/

/-- A truth value. -/
def toBool : Json → Except JsonFault Bool
  | bool value => .ok value
  | _ => .error .wrongType

/-- A text. -/
def toText : Json → Except JsonFault String
  | string value => .ok value
  | _ => .error .wrongType

/-- A list of texts. -/
def toTexts : Json → Except JsonFault (List String)
  | array elements => elements.mapM toText
  | _ => .error .wrongType

end Json

end IcmpEcho
