/-
# Sessions

A session is an engine together with the sockets, hubs and pingers that somebody holds by name.
Its steps are what can be done from outside: make, use and drop them, let datagrams and failures
come in, and let time pass.  A name that is given again drops what it named before, once the new
object has been made.
-/
import IcmpEcho.Engine.Running

namespace IcmpEcho

/-- What a name in a session stands for. -/
inductive Handle
  | socket (socket : SocketId)
  | hub (hub : HubId)
  | pinger (pinger : PingerId)
  deriving DecidableEq, Repr

/-- An engine, and what is held of it by name. -/
structure Session where
  engine : Engine := {}
  handles : List (String × Handle) := []
  deriving Repr

namespace Session

/-- What can be done in a session. -/
inductive Step
  | openSocket (name : String) (settings : SocketSettings)
  | openHub (name : String) (settings : SocketSettings)
  | create (name : String) (destination : Address) (settings : SocketSettings)
  | register (name hub : String) (destination : Address)
  | configure (name : String) (identifier : Option UInt16) (size : Option Nat)
      (timeout : Option Time)
  | ping (name : String) (sequence : UInt16) (tag : String) (again : List UInt16)
  /-- Pings with `count` sequence numbers in a row. -/
  | burst (name : String) (sequence : UInt16) (count : Nat)
  | drop (name : String)
  | close (name : String)
  | cancel (name : String)
  | send (name : String) (destination : Address) (data : Bytes) (tag : String)
  | receive (name : String) (room : Nat) (tag : String)
  /-- A datagram comes in `count` times in a row, now or at a time. -/
  | deliver (source : Address) (data : Bytes) (count : Nat) (time : Option Time)
  /-- Receives fail, on all sockets of a family or on one alone. -/
  | failReceives (family : Family) (errno : Int) (only : Option SocketId := none)
  | run (duration : Time)
  | logLevel (level : Int)
  deriving Repr

/-! ## 1. Names -/

/-- What a name stands for. -/
def handle? (session : Session) (name : String) : Option Handle := session.handles.lookup name

/-- Lets go of what a handle stands for. -/
def letGo (engine : Engine) : Handle → Engine
  | .socket socket => engine.closeSocket socket
  | .hub hub => engine.closeHub hub
  | .pinger pinger => engine.releasePinger pinger

/-- The session without a name; what it stood for is let go. -/
def drop (session : Session) (name : String) : Session :=
  match session.handle? name with
  | none => session
  | some handle =>
    { engine := letGo session.engine handle
      handles := session.handles.filter fun entry => entry.1 ≠ name }

/-- Gives a name to what was made, in place of what it stood for. -/
def hold (session : Session) (name : String) (made : Engine × Except Failure Handle) :
    Session × Option Failure :=
  match made with
  | (engine, .error failure) => ({ session with engine }, some failure)
  | (engine, .ok handle) =>
    let session := { session with engine }.drop name
    ({ session with handles := session.handles ++ [(name, handle)] }, none)

/-! ## 2. Steps -/

/-- Pings with a row of sequence numbers, each under a tag of its own. -/
def burst (engine : Engine) (pinger : PingerId) (name : String) (sequence : UInt16)
    (count : Nat) : Engine :=
  (List.range count).foldl
    (fun engine i =>
      engine.ping pinger (sequence + UInt16.ofNat i) (.scripted (name ++ "#" ++ toString i) []))
    engine

/-- A datagram comes in some times in a row, now or at a time.  At a time each of them is an item of
its own on the timeline, so that what one makes ready is done before the next comes. -/
def deliver (engine : Engine) (source : Address) (data : Bytes) (count : Nat)
    (time : Option Time) : Engine :=
  match time with
  | none => (List.range count).foldl (fun engine _ => engine.deliver source data) engine
  | some time =>
    (List.range count).foldl (fun engine _ => engine.schedule time (.deliver source data)) engine

/-- A pinger with the options that are given. -/
def configured (identifier : Option UInt16) (size : Option Nat) (timeout : Option Time)
    (pinger : Pinger) : Pinger :=
  { pinger with
    identifier := identifier.getD pinger.identifier
    size := size.getD pinger.size
    timeout := timeout.getD pinger.timeout }

/-- Uses what a name stands for. -/
def use (session : Session) (name : String) (act : Engine → Handle → Engine) : Session :=
  match session.handle? name with
  | none => session
  | some handle => { session with engine := act session.engine handle }

/-- Makes a pinger that is registered with the hub of a name. -/
def register (session : Session) (hub : String) (destination : Address) :
    Engine × Except Failure PingerId :=
  match session.handle? hub with
  | some (.hub hub) => session.engine.register hub destination
  | _ => (session.engine, .error (.system .invalidArgument ""))

/-- Does one step; a step that is refused says why. -/
def perform (session : Session) (step : Step) : Session × Option Failure :=
  match step with
  | .openSocket name settings =>
    let (engine, made) := session.engine.openSocket settings
    session.hold name (engine, made.map .socket)
  | .openHub name settings =>
    let (engine, made) := session.engine.openHub settings
    session.hold name (engine, made.map .hub)
  | .create name destination settings =>
    let (engine, made) := session.engine.createPinger destination settings
    session.hold name (engine, made.map .pinger)
  | .register name hub destination =>
    let (engine, made) := session.register hub destination
    session.hold name (engine, made.map .pinger)
  | .configure name identifier size timeout =>
    (session.use name fun engine handle =>
      match handle with
      | .pinger pinger => engine.updatePinger pinger (configured identifier size timeout)
      | _ => engine, none)
  | .ping name sequence tag again =>
    (session.use name fun engine handle =>
      match handle with
      | .pinger pinger => engine.ping pinger sequence (.scripted tag again)
      | _ => engine, none)
  | .burst name sequence count =>
    (session.use name fun engine handle =>
      match handle with
      | .pinger pinger => burst engine pinger name sequence count
      | _ => engine, none)
  | .drop name => (session.drop name, none)
  | .close name =>
    (session.use name fun engine handle =>
      match handle with
      | .socket socket => engine.closeSocket socket
      | .hub hub => engine.closeHub hub
      | .pinger _ => engine, none)
  | .cancel name =>
    (session.use name fun engine handle =>
      match handle with
      | .socket socket => engine.cancelSocket socket
      | _ => engine, none)
  | .send name destination data tag =>
    (session.use name fun engine handle =>
      match handle with
      | .socket socket => engine.submit socket data destination (.raw tag)
      | _ => engine, none)
  | .receive name room tag =>
    (session.use name fun engine handle =>
      match handle with
      | .socket socket => engine.receive socket (.raw tag) room
      | _ => engine, none)
  | .deliver source data count time =>
    ({ session with engine := deliver session.engine source data count time }, none)
  | .failReceives family errno only =>
    ({ session with engine := session.engine.failReceives family errno only }, none)
  | .run duration => ({ session with engine := session.engine.runFor duration }, none)
  | .logLevel level =>
    ({ session with engine := { session.engine with logLevel := level } }, none)

/-! ## 3. What can be seen -/

/-- What can be seen of a thing that is held. -/
inductive Status
  | socket (fatal : ErrorCode) (family : Family) (limit : Nat)
  | hub (running : Bool) (registrations : Nat) (family : Family)
  | pinger (pending : Nat) (identifier : UInt16) (destination : Address) (multiplexed : Bool)
  deriving DecidableEq, Repr

/-- The limit of the limiter of a socket. -/
def limitOf (engine : Engine) (socket : RawSocket) : Nat :=
  match engine.limiter? socket.limiter with
  | some limiter => limiter.meter.limit
  | none => 0

/-- What can be seen of what a handle stands for. -/
def status? (engine : Engine) : Handle → Option Status
  | .socket id =>
    engine.sockets[id]?.map fun socket =>
      .socket socket.fatal socket.family (limitOf engine socket)
  | .hub id =>
    match engine.hubs[id]? with
    | none => none
    | some hub =>
      engine.sockets[hub.socket]?.map fun socket =>
        .hub hub.running hub.registry.length socket.family
  | .pinger id =>
    engine.pingers[id]?.map fun pinger =>
      .pinger pinger.calls.length pinger.identifier pinger.destination pinger.isMultiplexed

/-- What can be seen of everything that is held, by name. -/
def statuses (session : Session) : List (String × Status) :=
  session.handles.filterMap fun (name, handle) =>
    (status? session.engine handle).map fun status => (name, status)

end Session

namespace Engine

/-- What has happened since the last time this was asked, in order, and the engine without it. -/
def takeJournal (engine : Engine) : Engine × List Event :=
  ({ engine with journal := [] }, engine.journal.reverse)

/-- The engine with signals on their way. -/
def withSignals (engine : Engine) (signals : List (Time × Int)) : Engine :=
  signals.foldl (fun engine (time, number) => engine.schedule time (.signal number)) engine

end Engine

end IcmpEcho
