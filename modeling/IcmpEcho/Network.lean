/-
# The network an engine works in

The surroundings of an engine: which settings its system refuses, which names resolve, and how
each host answers an echo request.  A host that is not listed never answers, and sending to it
succeeds.

`Host.reply?` is the answer of a host to one packet: the packet with its type turned into a
reply, behind an IP header for IPv4.
-/
import IcmpEcho.Address.Text
import IcmpEcho.Packet.Echo
import IcmpEcho.Rate.Meter

namespace IcmpEcho

/-! ## 1. Hosts -/

/-- How a host answers what is sent to it. -/
structure Host where
  /-- What the send itself fails with; zero when it succeeds. -/
  errno : Int := 0
  /-- The time until the answer, and what each sequence number adds to it. -/
  delay : Time := 0
  step : Time := 0
  /-- The time to live in the IP header of the answer. -/
  timeToLive : UInt8 := 64
  /-- How many more times than once the reply comes; below zero it does not come at all. -/
  copies : Int := 0
  /-- The request itself comes back first. -/
  echo : Bool := false
  /-- The sequence numbers that are not answered. -/
  drop : List UInt16 := []
  /-- The sequence numbers whose reply arrives damaged. -/
  corrupt : List UInt16 := []
  /-- The address the answer comes from, and the one it is sent to. -/
  source : Address
  destination : Address := .ofOctets 127 0 0 1
  deriving Repr

namespace Host

/-- The packet with type and checksum of a reply. -/
def turnAround (family : Family) (packet : Bytes) : Bytes :=
  match family with
  | .v6 => EchoHeader.echoReplyV6 :: packet.drop 1
  | .v4 =>
    let blank := EchoHeader.echoReply :: packet.byteAt 1 :: 0 :: 0 :: packet.drop 4
    EchoHeader.echoReply :: packet.byteAt 1
      :: (Bytes.ofWord (internetChecksum blank) ++ packet.drop 4)

/-- The packet with every bit of its last byte changed. -/
def damage : Bytes → Bytes
  | [] => []
  | [last] => [last ^^^ 0xFF]
  | byte :: rest => byte :: damage rest

/-- The packet as it is delivered: behind an IP header for IPv4. -/
def wrap (host : Host) (family : Family) (packet : Bytes) : Bytes :=
  match family with
  | .v6 => packet
  | .v4 =>
    [0x45, 0] ++ Bytes.ofWord (UInt16.ofNat (Ipv4Header.minLength + packet.length))
      ++ [0, 0, 0, 0, host.timeToLive, Ipv4Header.icmp, 0, 0]
      ++ host.source.octets ++ host.destination.octets ++ packet

/-- When a host answers a packet sent to an address of `family`, and with which datagrams. -/
def answer? (host : Host) (family : Family) (packet : Bytes) : Option (Time × List Bytes) :=
  if packet.length < EchoHeader.length then none
  else
    let sequence := packet.wordAt 6
    if sequence ∈ host.drop then none
    else
      let whole := turnAround family packet
      let reply := if sequence ∈ host.corrupt then damage whole else whole
      let request := if host.echo then [host.wrap family packet] else []
      some (host.delay + host.step * sequence.toNat,
        request ++ List.replicate (1 + host.copies).toNat (host.wrap family reply))

end Host

/-! ## 2. Surroundings -/

/-- The steps in which a socket is set up. -/
inductive SetupStage
  | opening
  | ttl
  | device
  | bind
  | sendBuffer
  | receiveBuffer
  deriving DecidableEq, Repr

/-- The surroundings of an engine. -/
structure Network where
  /-- The time that running one task takes. -/
  tick : Time := 0
  /-- The time until a send completes; zero completes it at once. -/
  sendDelay : Time := 0
  /-- The setup steps that fail, with the system's number for the reason. -/
  faults : List (SetupStage × Int) := []
  /-- The addresses that a socket can be bound to; all of them if there is no list. -/
  localAddresses : Option (List Address) := none
  /-- The devices that there are; all of them if there is no list. -/
  devices : Option (List String) := none
  names : List (String × Address) := []
  hosts : List (Address × Host) := []
  /-- What single sends fail with, by their numbers, whatever the host says; zero lets one go. -/
  sendFaults : List (Nat × Int) := []
  deriving Repr

namespace Network

/-- The host at an address. -/
def host? (network : Network) (address : Address) : Option Host := network.hosts.lookup address

/-- What the send of this number to an address fails with; zero when it succeeds. -/
def sendErrno (network : Network) (number : Nat) (destination : Address) : Int :=
  match network.sendFaults.lookup number, network.host? destination with
  | some errno, _ => errno
  | none, some host => host.errno
  | none, none => 0

/-- The reason for which a setup step is made to fail. -/
def fault? (network : Network) (stage : SetupStage) : Option ErrorCode :=
  (network.faults.lookup stage).map .system

/-- The reason for which a device cannot be bound to. -/
def deviceFault? (network : Network) (device : String) : Option ErrorCode :=
  match network.fault? .device, network.devices with
  | some code, _ => some code
  | none, some devices => if device ∈ devices then none else some .noSuchDevice
  | none, none => none

/-- The reason for which an address cannot be bound to. -/
def bindFault? (network : Network) (address : Address) : Option ErrorCode :=
  match network.fault? .bind, network.localAddresses with
  | some code, _ => some code
  | none, some addresses => if address ∈ addresses then none else some .addressNotAvailable
  | none, none => none

/-- The address of a target: an address in text is itself, whatever the names say; any other name
has to be among them. -/
def resolve (network : Network) (name : String) : Except Failure Address :=
  match Address.parse? name, network.names.lookup name with
  | some address, _ => .ok address
  | none, some address => .ok address
  | none, none => .error (.system .hostNotFound "resolve")

end Network

end IcmpEcho
