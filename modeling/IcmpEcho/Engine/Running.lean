/-
# Running an engine

`Engine.perform` does one task.  A step takes the first ready task, or if there is none the first
item of the timeline that is not after the deadline; the clock then stands at that item's time, or
has moved on by the time one task takes.  A run makes steps until none is left or the engine is
stopped.
-/
import IcmpEcho.Engine.Completing

namespace IcmpEcho.Engine

/-! ## 1. Tasks -/

/-- A timer has rung, or was cancelled. -/
def rang (engine : Engine) (alarm : Alarm) (code : ErrorCode) : Engine :=
  if code = .aborted then engine
  else
    match alarm with
    | .call id token timer => engine.complete id token timer PingFault.timeout.code
    | .limiter limiter => engine.wakeLimiter limiter
    | .round => engine.startRound

/-- Tells whoever started a send how it ended. -/
def sendEnded (engine : Engine) (client : SendClient) (code : ErrorCode) (count : Nat) :
    Engine :=
  match client with
  | .raw tag => engine.record (.sent engine.now tag code count)
  | .call id token timer => engine.callSent id token timer code

/-- Tells whoever started a receive how it ended. -/
def receiveEnded (engine : Engine) (client : ReceiveClient) (code : ErrorCode)
    (source : Address) (data : Bytes) : Engine :=
  match client with
  | .raw tag => engine.record (.received engine.now tag code source data)
  | .pinger id => engine.pingerReceived id code engine.now source data
  | .hub id => engine.hubReceived id code source data

/-- A receive on a socket has ended; one that failed, other than by being given up, fails the
socket. -/
def socketReceived (engine : Engine) (socket : SocketId) (client : ReceiveClient)
    (code : ErrorCode) (source : Address) (data : Bytes) : Engine :=
  if !code.isError then engine.receiveEnded client code source data
  else
    let engine := if code = .aborted then engine else engine.failSocket socket code
    engine.receiveEnded client code .any []

/-- A sender is let go without sending. -/
def turnAway (engine : Engine) (sender : Sender) : Engine :=
  match sender with
  | .datagram _ _ _ client => engine.sendEnded client .aborted 0
  | .labelled limiter label again => engine.answerLabelled limiter label again .aborted

/-- A mailbox has something for its reader.  A hub forwards only what came from the destination
of a pinger, so that is its source. -/
def mailArrived (engine : Engine) (reader : Reader) (code : ErrorCode) (letter : Letter) :
    Engine :=
  match reader with
  | .labelled box label again => engine.answerReader box label again code letter
  | .pinger id =>
    match engine.pingers[id]? with
    | none => engine
    | some pinger => engine.pingerReceived id code letter.time pinger.destination letter.packet

/-- Does one task. -/
def perform (engine : Engine) : Task → Engine
  | .rang alarm code => engine.rang alarm code
  | .turnedAway sender => engine.turnAway sender
  | .sent client code count => engine.sendEnded client code count
  | .received socket client code source data =>
    engine.socketReceived socket client code source data
  | .noReceive client code => engine.receiveEnded client code .any []
  | .mail reader code letter => engine.mailArrived reader code letter
  | .noPing id ping caller code sequence => engine.answer id ping caller code { sequence }
  | .signalled code number => engine.signalled code number

/-! ## 2. The timeline -/

/-- Lets one item of the timeline happen. -/
def happen (engine : Engine) : Happening → Engine
  | .ring alarm => engine.post (.rang alarm .success)
  | .ready task => engine.post task
  | .deliver source data => engine.deliver source data
  | .signal number =>
    if engine.awaitsSignal then
      { engine with awaitsSignal := false }.post (.signalled .success number)
    else engine

/-! ## 3. Steps and runs -/

/-- The deadline, if there is one, is not before a time. -/
def allows (deadline : Option Time) (time : Time) : Bool :=
  match deadline with
  | some deadline => time ≤ deadline
  | none => true

/-- One step, if there is one to make. -/
def step? (engine : Engine) (deadline : Option Time) : Option Engine :=
  if engine.stopped then none
  else
    match engine.ready, engine.timeline with
    | task :: rest, _ =>
      let engine := ({ engine with ready := rest }.perform task).sweep
      some { engine with now := engine.now + engine.network.tick }
    | [], (time, item) :: rest =>
      if allows deadline time then
        some ({ engine with now := max engine.now time, timeline := rest }.happen item).sweep
      else none
    | [], [] => none

/-- At most `fuel` steps. -/
def steps (deadline : Option Time) : Nat → Engine → Engine
  | 0, engine => engine
  | fuel + 1, engine =>
    match engine.step? deadline with
    | none => engine
    | some next => steps deadline fuel next

/-- More steps than any run makes in practice. -/
def manySteps : Nat := 1000000000000000

/-- Runs until nothing is left to do. -/
def run (engine : Engine) : Engine := steps none manySteps engine

/-- Runs for some time; then the clock stands at the end of it. -/
def runFor (engine : Engine) (duration : Time) : Engine :=
  let deadline := engine.now + duration
  let engine := steps (some deadline) manySteps engine
  { engine with now := max engine.now deadline }

/-- Begins the service, runs it and ends it. -/
def serve (engine : Engine) : Engine := engine.startService.run.endService

end IcmpEcho.Engine
