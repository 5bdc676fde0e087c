/-
# How pings end

A ping ends by the matching reply, by its own timer, by a failed send of its own, or when the
receive that its pinger depends on fails for good.  Whatever ends it takes its call off the
pinger's list first, so it ends once; a timer or a send that comes late finds its call gone, or
another call with the same token and another timer, and does nothing.

The last section ends pingers themselves: one that was released lives on while work that is due
refers to it.
-/
import IcmpEcho.Engine.Serving

namespace IcmpEcho.Engine

/-! ## 1. Telling the caller -/

/-- The pinger still exists. -/
def isAlive (engine : Engine) (id : PingerId) : Bool :=
  match engine.pingers[id]? with
  | some pinger => !pinger.gone
  | none => false

/-- Tells the caller of a ping how it ended, and writes that down. -/
def tell (engine : Engine) (ping : PingId) (caller : Caller) (code : ErrorCode)
    (result : PingResult) : Engine :=
  let ending : Ending := { ping, time := engine.now, code, result }
  let engine := { engine with endings := ending :: engine.endings }
  match caller with
  | .target index => engine.targetAnswered index code result
  | .scripted tag _ => engine.record (.done engine.now tag code result)

/-- Tells the caller of a ping how it ended; a scripted caller goes on while there is a pinger. -/
def answer (engine : Engine) (id : PingerId) (ping : PingId) (caller : Caller) (code : ErrorCode)
    (result : PingResult) : Engine :=
  let engine := engine.tell ping caller code result
  match caller with
  | .scripted tag (next :: rest) =>
    if engine.isAlive id then engine.ping id next (.scripted (tag ++ "'") rest) else engine
  | _ => engine

/-! ## 2. One call -/

/-- The call that holds a token, if it has this timer.  A later call may hold the token of one
that has ended, but never its timer. -/
def callOf? (engine : Engine) (id : PingerId) (token : Token) (timer : TimerId) :
    Option (Pinger × Call) :=
  match engine.pingers[id]? with
  | none => none
  | some pinger =>
    match pinger.call? token with
    | none => none
    | some call => if call.timer = timer then some (pinger, call) else none

/-- Ends one call with an error.  A pinger that has nothing left to wait for gives up the receive
on a socket of its own. -/
def complete (engine : Engine) (id : PingerId) (token : Token) (timer : TimerId)
    (code : ErrorCode) : Engine :=
  match engine.callOf? id token timer with
  | none => engine
  | some (pinger, call) =>
    let left := pinger.without token
    let engine :=
      (engine.updatePinger id fun _ => left).cancelAlarm (.call id token timer)
    let engine :=
      if left.calls.isEmpty && left.receiving && !left.isMultiplexed then
        engine.cancelSocket left.socket
      else engine
    engine.answer id call.timer call.caller code { sequence := token.sequence }

/-- The request of a call has left. -/
def refreshSent (engine : Engine) (id : PingerId) (token : Token) (timer : TimerId) : Engine :=
  match engine.callOf? id token timer with
  | none => engine
  | some _ =>
    engine.updatePinger id fun pinger =>
      { pinger with
        calls := pinger.calls.map fun call =>
          if call.token = token then { call with sent := engine.now } else call }

/-- The send of a call ended. -/
def callSent (engine : Engine) (id : PingerId) (token : Token) (timer : TimerId)
    (code : ErrorCode) : Engine :=
  if !code.isError then engine.refreshSent id token timer
  else
    let engine :=
      match engine.pingers[id]? with
      | some pinger =>
        if code = ErrorCode.aborted then engine
        else engine.logAbout pinger.destination .warn ("send failed: " ++ code.message)
      | none => engine
    engine.complete id token timer code

/-! ## 3. All calls -/

/-- Ends one of the calls of a pinger whose receive failed. -/
def failCall (id : PingerId) (code : ErrorCode) (engine : Engine) (call : Call) : Engine :=
  (engine.cancelAlarm (.call id call.token call.timer)).answer id call.timer call.caller code
    { sequence := call.token.sequence }

/-- Ends every call of a pinger, in the order of their tokens. -/
def failCalls (engine : Engine) (id : PingerId) (pinger : Pinger) (code : ErrorCode) : Engine :=
  let engine := engine.updatePinger id fun pinger => { pinger with calls := [] }
  let engine :=
    if pinger.calls.isEmpty || code == .aborted then engine
    else engine.logAbout pinger.destination .error ("receive failed: " ++ code.message)
  pinger.calls.foldl (failCall id code) engine

/-! ## 4. What was received -/

/-- The time from a request to its reply.  A reply can be received before the end of the send is
known; then it counts from when the ping was asked for. -/
def roundTrip (call : Call) (received : Time) : Time :=
  if call.sent < received then received - call.sent else received - call.queued

/-- The call that a datagram answers. -/
def matched? (pinger : Pinger) (decoded : Decoded) : Option (Call × EchoReply) :=
  match decoded with
  | .reply reply =>
    match pinger.call? { identifier := reply.identifier, sequence := reply.sequence } with
    | some call =>
      if reply.answers pinger.destination call.token.sequence call.token.identifier then
        some (call, reply)
      else none
    | none => none
  | _ => none

/-- A malformed datagram leaves a line in the log. -/
def logMalformed (engine : Engine) (source : Address) (decoded : Decoded) : Engine :=
  match decoded with
  | .malformed fault => engine.logAbout source .all ("discarding packet: " ++ fault.code.message)
  | _ => engine

/-- Ends one call with the reply to it. -/
def succeed (engine : Engine) (id : PingerId) (call : Call) (reply : EchoReply)
    (received : Time) : Engine :=
  let engine :=
    ((engine.updatePinger id fun pinger => pinger.without call.token).startReceive
      id).cancelAlarm (.call id call.token call.timer)
  engine.answer id call.timer call.caller .success
    { sequence := reply.sequence, reply := some reply, roundTrip := roundTrip call received }

/-- A pinger received a datagram. -/
def pingerDatagram (engine : Engine) (id : PingerId) (pinger : Pinger) (received : Time)
    (source : Address) (data : Bytes) : Engine :=
  let decoded := decode pinger.destination.family data source
  let engine := engine.logMalformed source decoded
  match matched? pinger decoded with
  | none => engine.startReceive id
  | some (call, reply) => engine.succeed id call reply received

/-- The receive of a pinger ended.  One that was only given up, because there was nothing left to
wait for, is started again if there is something now. -/
def pingerReceived (engine : Engine) (id : PingerId) (code : ErrorCode) (received : Time)
    (source : Address) (data : Bytes) : Engine :=
  match engine.pingers[id]? with
  | none => engine
  | some pinger =>
    if pinger.gone then engine
    else
      let engine := engine.updatePinger id fun pinger => { pinger with receiving := false }
      if !code.isError then engine.pingerDatagram id pinger received source data
      else if code == .aborted && !pinger.isMultiplexed
          && !(engine.fatalOf pinger.socket).isError then
        engine.startReceive id
      else engine.failCalls id pinger code

/-! ## 5. The end of a pinger -/

/-- A task refers to a pinger. -/
def Task.holds (id : PingerId) : Task → Bool
  | .rang (.call pinger _ _) _ => pinger = id
  | .sent (.call pinger _ _) _ _ => pinger = id
  | .turnedAway (.datagram _ _ _ (.call pinger _ _)) => pinger = id
  | _ => false

/-- A sender refers to a pinger. -/
def Sender.holds (id : PingerId) : Sender → Bool
  | .datagram _ _ _ (.call pinger _ _) => pinger = id
  | _ => false

/-- Something on the timeline refers to a pinger. -/
def Happening.holds (id : PingerId) : Happening → Bool
  | .ring (.call pinger _ _) => pinger = id
  | .ready task => Task.holds id task
  | _ => false

/-- Work that is due or held back refers to a pinger. -/
def holds (engine : Engine) (id : PingerId) : Bool :=
  engine.ready.any (Task.holds id)
    || engine.timeline.any (fun entry => Happening.holds id entry.2)
    || engine.limiters.any fun limiter =>
      match limiter with
      | some limiter => limiter.held.any (Sender.holds id)
      | none => false

/-- Ends a pinger: its mailbox is closed, or its own socket. -/
def removePinger (engine : Engine) (id : PingerId) : Engine :=
  match engine.pingers[id]? with
  | none => engine
  | some pinger =>
    let engine := engine.updatePinger id fun pinger => { pinger with gone := true }
    match pinger.mailbox with
    | some box => engine.closeMail box PingFault.registrationClosed.code
    | none => engine.closeSocket pinger.socket

/-- Ends the released pingers that nothing refers to. -/
def sweep (engine : Engine) : Engine :=
  let (held, free) := engine.released.partition engine.holds
  free.foldl removePinger { engine with released := held }

/-- Nobody outside refers to a pinger any more. -/
def releasePinger (engine : Engine) (id : PingerId) : Engine :=
  { engine with released := engine.released ++ [id] }.sweep

end IcmpEcho.Engine
