/-
# Sending through a limiter

A datagram is submitted to its socket's limiter and goes out when the limiter lets it.  A socket
that has failed sends nothing: its sends end with the reason of the failure.  How a send ended is
always told by a task, never from inside the call.

The hosts of the network answer what is sent to them, later, on the timeline.
-/
import IcmpEcho.Engine.Log

namespace IcmpEcho.Engine

/-- How the engine's limiters round: as 64-bit binary floating point does. -/
def rounding : Number.Rounding := Number.binary64

/-! ## 1. Parts by number -/

/-- Why operations on a socket fail, no error while it works. -/
def fatalOf (engine : Engine) (socket : SocketId) : ErrorCode :=
  match engine.sockets[socket]? with
  | some record => record.fatal
  | none => .aborted

/-- Changes one socket. -/
def updateSocket (engine : Engine) (socket : SocketId) (change : RawSocket → RawSocket) :
    Engine :=
  { engine with sockets := engine.sockets.modify socket change }

/-- Puts a limiter in place of one. -/
def setLimiter (engine : Engine) (limiter : LimiterId) (value : Rate.Limiter Sender) : Engine :=
  { engine with limiters := engine.limiters.modify limiter fun _ => some value }

/-- The limiter of this number, if it still exists. -/
def limiter? (engine : Engine) (limiter : LimiterId) : Option (Rate.Limiter Sender) :=
  engine.limiters[limiter]?.join

/-! ## 2. Handing a datagram to the network -/

/-- Puts the answer of the host at the destination on the timeline. -/
def scheduleAnswer (engine : Engine) (host : Host) (family : Family) (packet : Bytes) : Engine :=
  match host.answer? family packet with
  | none => engine
  | some (wait, datagrams) =>
    datagrams.foldl
      (fun engine datagram =>
        engine.schedule (engine.now + wait) (.deliver host.source datagram))
      engine

/-- Posts the end of a send, at once or after the delay of the network. -/
def completeSend (engine : Engine) (client : SendClient) (code : ErrorCode) (count : Nat) :
    Engine :=
  if engine.network.sendDelay = 0 then engine.post (.sent client code count)
  else
    engine.schedule (engine.now + engine.network.sendDelay) (.ready (.sent client code count))

/-- Notes that a datagram is handed to the network. -/
def noteSend (engine : Engine) (socket : SocketId) (packet : Bytes) (destination : Address) :
    Engine :=
  { engine.record (.send engine.now socket destination packet) with
    sendCount := engine.sendCount + 1 }

/-- Hands a datagram to the network. -/
def transmit (engine : Engine) (socket : SocketId) (packet : Bytes) (destination : Address)
    (client : SendClient) : Engine :=
  let errno := engine.network.sendErrno engine.sendCount destination
  let engine := engine.noteSend socket packet destination
  if errno ≠ 0 then engine.completeSend client (.system errno) 0
  else
    match engine.network.host? destination with
    | none => engine.completeSend client .success packet.length
    | some host =>
      (engine.scheduleAnswer host destination.family packet).completeSend client .success
        packet.length

/-- Sends a datagram whose turn has come, unless its socket has failed. -/
def launch (engine : Engine) (socket : SocketId) (packet : Bytes) (destination : Address)
    (client : SendClient) : Engine :=
  let fatal := engine.fatalOf socket
  if fatal.isError then engine.post (.sent client fatal 0)
  else engine.transmit socket packet destination client

/-! ## 3. Limiters -/

/-- Makes a limiter. -/
def addLimiter (engine : Engine) (limiter : Rate.Limiter Sender) : Engine × LimiterId :=
  ({ engine with limiters := engine.limiters.push (some limiter) }, engine.limiters.size)

/-- Asks a limiter for a sender that needs no more than an answer; one that may go at once asks
`again` times more. -/
def acquireLabelled (engine : Engine) (limiter : LimiterId) (label : String) (again : Nat) :
    Engine :=
  match engine.limiter? limiter with
  | none => engine
  | some value =>
    let (value, admission) :=
      value.acquire rounding engine.now (.labelled limiter label again)
    let engine := engine.setLimiter limiter value
    match admission with
    | .queue => engine
    | .sleep wait => engine.setAlarm (.limiter limiter) wait
    | .go =>
      let engine := engine.record (.acquired engine.now label .success)
      match again with
      | 0 => engine
      | again + 1 => engine.acquireLabelled limiter (label ++ "'") again

/-- Tells a labelled sender how it was let go; it asks `again` times more. -/
def answerLabelled (engine : Engine) (limiter : LimiterId) (label : String) (again : Nat)
    (code : ErrorCode) : Engine :=
  let engine := engine.record (.acquired engine.now label code)
  match again with
  | 0 => engine
  | again + 1 => engine.acquireLabelled limiter (label ++ "'") again

/-- Submits a datagram to the limiter of its socket. -/
def submit (engine : Engine) (socket : SocketId) (packet : Bytes) (destination : Address)
    (client : SendClient) : Engine :=
  match engine.sockets[socket]? with
  | none => engine
  | some record =>
    if record.fatal.isError then engine.post (.sent client record.fatal 0)
    else
      match engine.limiter? record.limiter with
      | none => engine
      | some value =>
        let (value, admission) :=
          value.acquire rounding engine.now (.datagram socket packet destination client)
        let engine := engine.setLimiter record.limiter value
        match admission with
        | .queue => engine
        | .sleep wait => engine.setAlarm (.limiter record.limiter) wait
        | .go => engine.launch socket packet destination client

/-- Lets a sender go whose turn has come. -/
def letGo (engine : Engine) : Sender → Engine
  | .datagram socket packet destination client =>
    engine.launch socket packet destination client
  | .labelled limiter label again => engine.answerLabelled limiter label again .success

/-- The sleep of a limiter is over. -/
def wakeLimiter (engine : Engine) (limiter : LimiterId) : Engine :=
  match engine.limiter? limiter with
  | none => engine
  | some value =>
    let wake := value.wake rounding engine.now
    let engine := engine.setLimiter limiter wake.limiter
    let engine :=
      match wake.wait with
      | none => engine
      | some wait => engine.setAlarm (.limiter limiter) wait
    wake.released.foldl letGo engine

/-- Gives up a limiter's sleep; every sender it holds is turned away. -/
def cancelLimiter (engine : Engine) (limiter : LimiterId) : Engine :=
  match engine.limiter? limiter with
  | none => engine
  | some value =>
    let (value, held) := value.cancel
    let engine := (engine.cancelAlarm (.limiter limiter)).setLimiter limiter value
    held.foldl (fun engine sender => engine.post (.turnedAway sender)) engine

/-- Takes a limiter away, with the senders it holds. -/
def removeLimiter (engine : Engine) (limiter : LimiterId) : Engine :=
  let engine := engine.cancelAlarm (.limiter limiter)
  { engine with limiters := engine.limiters.modify limiter fun _ => none }

end IcmpEcho.Engine
