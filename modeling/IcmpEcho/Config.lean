/-
# Configuration

What a run is told: the targets, how often and how fast they are pinged, and how the sockets are
set up.  `Config.validate` names the first value that is out of range; a configuration that it
accepts has socket settings for either family (`Config.socketSettings`).
-/
import IcmpEcho.Address.Text
import IcmpEcho.Packet.Echo
import IcmpEcho.Rate.Meter

namespace IcmpEcho

/-! ## 1. The values -/

/-- One-time settings of a raw socket. -/
structure SocketSettings where
  family : Family := .v4
  /-- The time to live of what is sent; zero keeps the system's. -/
  ttl : Int := 0
  /-- The device to bind to, empty for none. -/
  device : String := ""
  /-- The source address, unspecified for none. -/
  bindAddress : Address := .any
  /-- Zero keeps the system's buffer size. -/
  sendBuffer : Int := 0
  receiveBuffer : Int := 0
  sendLimit : Nat := Rate.defaultLimit
  deriving DecidableEq, Repr

/-- How one echo request is made. -/
structure PingOptions where
  size : Nat := 56
  /-- Milliseconds to wait for a reply. -/
  timeout : Int := 2000
  ttl : Int := 64
  /-- The identifier of every pinger; −1 gives each one of its own. -/
  ident : Int := -1
  deriving DecidableEq, Repr

/-- How the sockets are set up. -/
structure SocketOptions where
  device : String := ""
  /-- Empty leaves the source address to the system. -/
  bindAddress : String := ""
  sendLimit : Nat := Rate.defaultLimit
  sendBuffer : Int := 0
  receiveBuffer : Int := 0
  deriving DecidableEq, Repr

/-- All that a run is told. -/
structure Config where
  logLevel : Int := 1
  targets : List String := []
  /-- The number of rounds; zero goes on until a signal. -/
  count : UInt32 := 5
  /-- Milliseconds between rounds. -/
  interval : Int := 1000
  sharedSocket : Bool := true
  ping : PingOptions := {}
  socket : SocketOptions := {}
  deriving DecidableEq, Repr

namespace Config

/-! ## 2. Checks -/

/-- The first value out of range, in the order in which a person is told. -/
def firstFault? (config : Config) : Option ConfigFault :=
  if config.logLevel < 0 ∨ 5 < config.logLevel then some .logLevel
  else if config.interval ≤ 0 then some .interval
  else if maxPayload .v4 < config.ping.size then some (.pingSize (maxPayload .v4))
  else if config.ping.timeout ≤ 0 then some .pingTimeout
  else if config.ping.ttl < 1 ∨ 255 < config.ping.ttl then some .pingTtl
  else if config.ping.ident < -1 ∨ 65535 < config.ping.ident then some .pingIdent
  else if config.socket.sendLimit = 0 then some .sendLimit
  else if config.socket.sendBuffer < 0 ∨ config.socket.receiveBuffer < 0 then some .bufferSize
  else if config.socket.bindAddress ≠ "" ∧ Address.parse? config.socket.bindAddress = none then
    some (.bindAddress config.socket.bindAddress)
  else none

/-- Accepts a configuration, or refuses it for its first value out of range. -/
def validate (config : Config) : Except Failure Unit :=
  match config.firstFault? with
  | some fault => .error (.config fault)
  | none => .ok ()

/-! ## 3. Settings for the sockets of one family -/

/-- The source address for the sockets of a family.  One bind address serves the sockets of its
own family only. -/
def bindAddressFor (config : Config) (family : Family) : Except Failure Address :=
  if config.socket.bindAddress = "" then .ok .any
  else
    match Address.parse? config.socket.bindAddress with
    | none => .error (.system .invalidArgument "")
    | some address => .ok (if address.family = family then address else .any)

/-- The settings for the sockets of a family. -/
def socketSettings (config : Config) (family : Family) : Except Failure SocketSettings :=
  (config.bindAddressFor family).map fun bindAddress =>
    { family
      ttl := config.ping.ttl
      device := config.socket.device
      bindAddress
      sendBuffer := config.socket.sendBuffer
      receiveBuffer := config.socket.receiveBuffer
      sendLimit := config.socket.sendLimit }

end Config

end IcmpEcho
