/-
# Result codes

Every asynchronous operation ends with a code.  A code belongs to a category: what the
operating system reports, what the echo engine itself reports (`PingFault`), or what the name
resolver reports.  A code is an error when its value is not zero, whatever its category.
-/
import IcmpEcho.ErrorCode.System

namespace IcmpEcho

/-- What the echo engine itself can find wrong with a call or a datagram. -/
inductive PingFault
  /-- No matching reply came before the deadline of the call. -/
  | timeout
  /-- A datagram shorter than the headers it claims to carry. -/
  | truncatedPacket
  | badChecksum
  /-- An IPv4 datagram whose protocol is not ICMP. -/
  | notIcmp
  /-- An ICMP type other than echo request and echo reply. -/
  | unsupportedType
  /-- An echo request that does not fit into one datagram. -/
  | packetTooLarge
  /-- The sequence number is already outstanding on this pinger. -/
  | sequenceInFlight
  /-- The registration of the destination has ended. -/
  | registrationClosed
  deriving DecidableEq, Repr

/-- A category and a value in it. -/
inductive ErrorCode
  | system (value : Int)
  | ping (value : Int)
  | resolver (value : Int)
  deriving DecidableEq, Repr

/-- The value of a fault within its category. -/
def PingFault.value : PingFault → Int
  | timeout => 1
  | truncatedPacket => 2
  | badChecksum => 3
  | notIcmp => 4
  | unsupportedType => 5
  | packetTooLarge => 6
  | sequenceInFlight => 7
  | registrationClosed => 8

/-- The code that reports a fault. -/
def PingFault.code (fault : PingFault) : ErrorCode := .ping fault.value

namespace ErrorCode

/-! ## 1. Values -/

/-- The code of success. -/
def success : ErrorCode := .system 0

/-- The operation was given up before it ended. -/
def aborted : ErrorCode := .system 125

/-- An address of the wrong family. -/
def familyNotSupported : ErrorCode := .system 97

def noSuchFile : ErrorCode := .system 2

def notADirectory : ErrorCode := .system 20

def isADirectory : ErrorCode := .system 21

def nameTooLong : ErrorCode := .system 36

def invalidArgument : ErrorCode := .system 22

def noSuchDevice : ErrorCode := .system 19

def addressNotAvailable : ErrorCode := .system 99

def hostNotFound : ErrorCode := .resolver 1

instance : Inhabited ErrorCode := ⟨success⟩

/-- The number within the category. -/
def value : ErrorCode → Int
  | system n => n
  | ping n => n
  | resolver n => n

/-- A code is an error when its value is not zero. -/
def isError (code : ErrorCode) : Bool := code.value ≠ 0

@[simp] theorem isError_success : success.isError = false := rfl

@[simp] theorem isError_aborted : aborted.isError = true := rfl

/-- Every code of the echo engine itself is an error. -/
@[simp] theorem isError_fault (fault : PingFault) : fault.code.isError = true := by
  cases fault <;> rfl

/-! ## 2. Messages -/

/-- What the echo engine calls its codes. -/
def pingMessage (value : Int) : String :=
  match value with
  | 0 => "success"
  | 1 => "request timed out"
  | 2 => "truncated packet"
  | 3 => "checksum mismatch"
  | 4 => "not an ICMP packet"
  | 5 => "unsupported ICMP type"
  | 6 => "echo request exceeds the maximum datagram size"
  | 7 => "sequence number already in flight"
  | 8 => "destination registration closed"
  | _ => "unknown ping error"

/-- What a person is told about a code. -/
def message : ErrorCode → String
  | system n => systemMessage n
  | ping n => pingMessage n
  | resolver n => if n = 1 then "Host not found (authoritative)" else "Unknown resolver error"

end ErrorCode

end IcmpEcho
