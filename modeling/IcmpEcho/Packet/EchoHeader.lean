/-
# The ICMP echo header

Eight bytes: type, code, checksum, identifier and sequence number, the last three as
big-endian words.  ICMPv6 uses the same layout with type numbers of its own.  A header is its
eight bytes (`ofBytes?_toBytes`).
-/
import IcmpEcho.Checksum

namespace IcmpEcho

/-- The header of an ICMP or ICMPv6 echo message. -/
structure EchoHeader where
  type : UInt8 := 0
  code : UInt8 := 0
  checksum : UInt16 := 0
  identifier : UInt16 := 0
  sequence : UInt16 := 0
  deriving DecidableEq, Repr, Inhabited

namespace EchoHeader

/-- The number of bytes of a header. -/
def length : Nat := 8

/-! ## 1. Types -/

def echoReply : UInt8 := 0

def echoRequest : UInt8 := 8

def echoRequestV6 : UInt8 := 128

def echoReplyV6 : UInt8 := 129

/-! ## 2. Bytes -/

/-- The eight bytes of a header. -/
def toBytes (header : EchoHeader) : Bytes :=
  header.type :: header.code :: (Bytes.ofWord header.checksum
    ++ Bytes.ofWord header.identifier ++ Bytes.ofWord header.sequence)

/-- The header at the start of a message of at least eight bytes. -/
def ofBytes? : Bytes → Option EchoHeader
  | t :: c :: c1 :: c2 :: i1 :: i2 :: s1 :: s2 :: _ =>
    some ⟨t, c, Bytes.word c1 c2, Bytes.word i1 i2, Bytes.word s1 s2⟩
  | _ => none

@[simp] theorem length_toBytes (header : EchoHeader) : header.toBytes.length = 8 := rfl

/-- **A header is read back from its bytes,** whatever follows them. -/
theorem ofBytes?_toBytes (header : EchoHeader) (body : Bytes) :
    ofBytes? (header.toBytes ++ body) = some header := by
  simp [toBytes, ofBytes?, Bytes.ofWord, Bytes.word_ofWord]

/-! ## 3. The checksum field -/

/-- The 32-bit sum of the header's words without its checksum field. -/
def sumWithoutChecksum (header : EchoHeader) : UInt32 :=
  header.type.toUInt32 * 256 + header.code.toUInt32 + header.identifier.toUInt32
    + header.sequence.toUInt32

/-- The header with the checksum of itself and the body that follows it.  The checksum field
counts as zero, so it is left out of the sum. -/
def stamp (header : EchoHeader) (body : Bytes) : EchoHeader :=
  { header with
    checksum := Checksum.complement
      (Checksum.foldTwice (Checksum.addWords header.sumWithoutChecksum body)) }

end EchoHeader

end IcmpEcho
