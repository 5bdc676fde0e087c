/-
# Addresses in text

IPv4 is written as four decimal numbers joined by points, none above 255 and none with a
leading zero.  IPv6 is written as eight groups of one to four hexadecimal digits joined by
colons; one run of zero groups may be left out, marked by `::`, and the last two groups may be
written as an IPv4 address.

`Address.parse?` reads either form and `Address.toText` writes the canonical one: lower case,
the longest run of at least two zero groups left out (the first of several), and an IPv4 tail
exactly for the mapped and compatible forms.  A text that names a scope (`fe80::1%eth0`) is not
read.
-/
import IcmpEcho.Address

namespace IcmpEcho.Address

/-! ## 1. Reading -/

/-- The value of a hexadecimal digit, in either case. -/
def hexDigit? (c : Char) : Option Nat :=
  if c.isDigit then some (c.toNat - '0'.toNat)
  else if 'a' ≤ c ∧ c ≤ 'f' then some (c.toNat - 'a'.toNat + 10)
  else if 'A' ≤ c ∧ c ≤ 'F' then some (c.toNat - 'A'.toNat + 10)
  else none

/-- The number these digits write in `base`, if each character is a digit. -/
def digits? (base : Nat) (digit? : Char → Option Nat) (text : List Char) : Option Nat :=
  text.foldlM (fun value c => (digit? c).map (value * base + ·)) 0

/-- One group of an IPv6 address: one to four hexadecimal digits. -/
def group? (text : List Char) : Option UInt16 :=
  if text.length = 0 ∨ 4 < text.length then none
  else (digits? 16 hexDigit? text).map UInt16.ofNat

/-- One number of an IPv4 address: at most 255, and no leading zero. -/
def octet? (text : List Char) : Option UInt8 :=
  if text.length = 0 ∨ 3 < text.length ∨ (text.head? = some '0' ∧ 1 < text.length) then none
  else
    match digits? 10 (fun c => if c.isDigit then some (c.toNat - '0'.toNat) else none) text with
    | some n => if n ≤ 255 then some (UInt8.ofNat n) else none
    | none => none

/-- The four numbers of an IPv4 address. -/
def quad? (text : List Char) : Option (UInt8 × UInt8 × UInt8 × UInt8) :=
  match (text.splitOn '.').map octet? with
  | [some a, some b, some c, some d] => some (a, b, c, d)
  | _ => none

/-- The groups written by the pieces between colons; the last may be an IPv4 address. -/
def groups? : List (List Char) → Option (List UInt16)
  | [] => some []
  | [last] =>
    match group? last, quad? last with
    | some g, _ => some [g]
    | none, some (a, b, c, d) => some [Bytes.word a b, Bytes.word c d]
    | none, none => none
  | piece :: rest =>
    match group? piece, groups? rest with
    | some g, some gs => some (g :: gs)
    | _, _ => none

/-- The text before and after the first `::`. -/
def cutAtGap : List Char → Option (List Char × List Char)
  | ':' :: ':' :: rest => some ([], rest)
  | c :: rest => (cutAtGap rest).map fun (before, after) => (c :: before, after)
  | [] => none

/-- The pieces between colons, none for an empty text. -/
def pieces (text : List Char) : List (List Char) :=
  if text = [] then [] else text.splitOn ':'

/-- An IPv6 address in text. -/
def parseV6? (text : List Char) : Option Address :=
  match cutAtGap text with
  | none =>
    match groups? (pieces text) with
    | some gs => if gs.length = 8 then some (ofGroups gs) else none
    | none => none
  | some (before, after) =>
    match (pieces before).mapM group?, groups? (pieces after) with
    | some left, some right =>
      if left.length + right.length < 8 then
        some (ofGroups (left ++ List.replicate (8 - left.length - right.length) 0 ++ right))
      else none
    | _, _ => none

/-- An IPv4 address in text. -/
def parseV4? (text : List Char) : Option Address :=
  (quad? text).map fun (a, b, c, d) => ofOctets a b c d

/-- An address in text, of either family. -/
def parse? (text : String) : Option Address :=
  match parseV6? text.toList with
  | some address => some address
  | none => parseV4? text.toList

/-! ## 2. Writing -/

/-- Lower-case hexadecimal digits without leading zeros. -/
def groupText (group : UInt16) : String := String.ofList (Nat.toDigits 16 group.toNat)

/-- Four decimal numbers joined by points. -/
def quadText (octets : Bytes) : String :=
  ".".intercalate (octets.map fun octet => toString octet.toNat)

/-- The number of zero groups at the start of a list. -/
def leadingZeros (groups : List UInt16) : Nat := (groups.takeWhile (· == 0)).length

/-- Start and length of the longest run of zero groups, the first of several. -/
def longestZeroRun (groups : List UInt16) : Nat × Nat :=
  (List.range groups.length).foldl
    (fun best start =>
      let length := leadingZeros (groups.drop start)
      if best.2 < length then (start, length) else best)
    (0, 0)

/-- Groups joined by colons. -/
def groupsText (groups : List UInt16) : String := ":".intercalate (groups.map groupText)

/-- The text of an IPv6 address given by its groups; `low` is its last four bytes. -/
def textV6 (groups : List UInt16) (low : Bytes) : String :=
  let (start, length) := longestZeroRun groups
  if length < 2 then groupsText groups
  else
    let after := groups.drop (start + length)
    let tail :=
      if start = 0 ∧ length = 6 then quadText low
      else if start = 0 ∧ length = 5 ∧ after.head? = some 0xFFFF then
        "ffff:" ++ quadText low
      else groupsText after
    groupsText (groups.take start) ++ "::" ++ tail

/-- The canonical text of an address. -/
def toText (address : Address) : String :=
  match address with
  | .v4 _ => quadText address.octets
  | .v6 bits => textV6 (groupsOf bits) address.octets

end IcmpEcho.Address
