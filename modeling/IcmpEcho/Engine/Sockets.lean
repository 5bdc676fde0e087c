/-
# Raw sockets

A socket is opened and set up in a fixed order of steps; the first step that the system refuses
ends it.  It keeps the datagrams that come in until a receive takes them, one at a time.

A socket fails once, by a failed receive or by being closed, and the reason never changes: from
then on every operation on it ends with that reason.  Cancelling a receive is no failure.
-/
import IcmpEcho.Engine.Sending

namespace IcmpEcho

namespace SocketSettings

/-- The steps after opening, in order, each with the stage it belongs to. -/
def steps (settings : SocketSettings) : List (SetupStage × SetupStep) :=
  (if 0 < settings.ttl then [(.ttl, .ttl settings.ttl)] else [])
    ++ (if settings.device ≠ "" then [(.device, .device settings.device)] else [])
    ++ (if settings.bindAddress.isUnspecified then []
        else [(.bind, .bound settings.bindAddress)])
    ++ (if 0 < settings.sendBuffer then [(.sendBuffer, .sendBuffer settings.sendBuffer)] else [])
    ++ (if 0 < settings.receiveBuffer then
          [(.receiveBuffer, .receiveBuffer settings.receiveBuffer)]
        else [])

end SocketSettings

/-- The reason for which a step is refused, with what was being done.  A time to live that does not
fit into a byte is refused before the system is asked. -/
def Network.refusal? (network : Network) (stage : SetupStage) (step : SetupStep) :
    Option Failure :=
  match step with
  | .device name =>
    (network.deviceFault? name).map fun code => .system code ("bind to device " ++ name)
  | .bound address => (network.bindFault? address).map fun code => .system code "bind"
  | .opened _ => (network.fault? stage).map fun code => .system code "open"
  | .ttl value =>
    if (UInt8.size : Int) ≤ value then some .hopsOutOfRange
    else (network.fault? stage).map fun code => .system code "set_option"
  | _ => (network.fault? stage).map fun code => .system code "set_option"

namespace Engine

/-! ## 1. Opening -/

/-- Takes the steps of setting a socket up until one is refused. -/
def setUp (engine : Engine) (socket : SocketId) :
    List (SetupStage × SetupStep) → Engine × Except Failure Unit
  | [] => (engine, .ok ())
  | (stage, step) :: rest =>
    match engine.network.refusal? stage step with
    | some failure => (engine, .error failure)
    | none => (engine.record (.setup socket step)).setUp socket rest

/-- The name of ICMP over a family. -/
def protocolName : Family → String
  | .v4 => "ICMPv4"
  | .v6 => "ICMPv6"

/-- Opens a socket and sets it up.  A socket that cannot be opened uses up a number too. -/
def openSocket (engine : Engine) (settings : SocketSettings) :
    Engine × Except Failure SocketId :=
  let socket := engine.sockets.size
  let limiter := engine.limiters.size
  let engine :=
    { engine with
      sockets := engine.sockets.push { family := settings.family, limiter }
      limiters := engine.limiters.push none }
  match engine.setUp socket [(.opening, .opened settings.family)] with
  | (engine, .error failure) => (engine, .error failure)
  | (engine, .ok ()) =>
    match Rate.Limiter.new settings.sendLimit with
    | .error failure => (engine, .error failure)
    | .ok value =>
      match engine.setUp socket settings.steps with
      | (engine, .error failure) => (engine, .error failure)
      | (engine, .ok ()) =>
        let engine :=
          (engine.setLimiter limiter value).updateSocket socket fun record =>
            { record with isOpen := true }
        (engine.logDated .all
          (protocolName settings.family ++ " socket opened, send limit "
            ++ toString settings.sendLimit ++ " pps"),
          .ok socket)

/-! ## 2. Receiving -/

/-- The task that hands a datagram to a receive with room for `room` bytes. -/
def receipt (socket : SocketId) (client : ReceiveClient) (room : Nat)
    (datagram : Address × Bytes) : Task :=
  .received socket client .success datagram.1 (datagram.2.take room)

/-- Starts a receive with room for `room` bytes. -/
def receive (engine : Engine) (socket : SocketId) (client : ReceiveClient) (room : Nat) :
    Engine :=
  match engine.sockets[socket]? with
  | none => engine
  | some record =>
    if record.fatal.isError then engine.post (.noReceive client record.fatal)
    else
      match record.backlog with
      | datagram :: rest =>
        (engine.updateSocket socket fun record => { record with backlog := rest }).post
          (receipt socket client room datagram)
      | [] =>
        engine.updateSocket socket fun record => { record with receiver := some (client, room) }

/-- Ends the receive that waits on a socket, if there is one, with an error. -/
def endReceive (engine : Engine) (socket : SocketId) (code : ErrorCode) : Engine :=
  match engine.sockets[socket]? with
  | some { receiver := some (client, _), .. } =>
    (engine.updateSocket socket fun record => { record with receiver := none }).post
      (.received socket client code .any [])
  | _ => engine

/-- A datagram comes in at one socket. -/
def deliverTo (engine : Engine) (source : Address) (data : Bytes) (socket : SocketId) : Engine :=
  match engine.sockets[socket]? with
  | none => engine
  | some record =>
    if !record.isOpen || record.family ≠ source.family then engine
    else
      match record.backlog ++ [(source, data)], record.receiver with
      | datagram :: rest, some (client, room) =>
        (engine.updateSocket socket fun record =>
          { record with backlog := rest, receiver := none }).post
            (receipt socket client room datagram)
      | backlog, _ => engine.updateSocket socket fun record => { record with backlog }

/-- A datagram comes in at every open socket of its family, in the order of their opening. -/
def deliver (engine : Engine) (source : Address) (data : Bytes) : Engine :=
  (List.range engine.sockets.size).foldl (fun engine => engine.deliverTo source data)
    { engine with arrivals := (source, data) :: engine.arrivals }

/-- The receives that wait on open sockets of a family all fail, or that of one socket alone. -/
def failReceives (engine : Engine) (family : Family) (errno : Int) (only : Option SocketId) :
    Engine :=
  let sockets : List SocketId := only.elim (List.range engine.sockets.size) fun socket => [socket]
  sockets.foldl
    (fun engine socket =>
      match engine.sockets[socket]? with
      | none => engine
      | some record =>
        if record.isOpen && record.family = family then
          engine.endReceive socket (.system errno)
        else engine)
    engine

/-! ## 3. Failing -/

/-- A receive on a socket has failed: the first time, the socket fails with it. -/
def failSocket (engine : Engine) (socket : SocketId) (code : ErrorCode) : Engine :=
  if (engine.fatalOf socket).isError then engine
  else
    (engine.updateSocket socket fun record => { record with fatal := code }).logDated .error
      ("ICMP socket failed: " ++ code.message)

/-- Gives up the receive that waits on a socket, without failing the socket. -/
def cancelSocket (engine : Engine) (socket : SocketId) : Engine :=
  engine.endReceive socket .aborted

/-- Closes a socket for good. -/
def closeSocket (engine : Engine) (socket : SocketId) : Engine :=
  match engine.sockets[socket]? with
  | none => engine
  | some record =>
    let engine :=
      if record.fatal.isError then engine
      else engine.updateSocket socket fun record => { record with fatal := .aborted }
    let engine := (engine.cancelLimiter record.limiter).endReceive socket .aborted
    engine.updateSocket socket fun record => { record with isOpen := false, backlog := [] }

end Engine

end IcmpEcho
