/-
# The engine: its parts, its queues and its clock

An `Engine` holds everything that pinging consists of: raw sockets, the limiters that meter them,
mailboxes, pingers, the hubs that share one socket among pingers, and the service that pings in
rounds.  Parts refer to each other by number.

Work that is due is a `Task`.  Tasks wait in the ready queue, first in first out, and nothing runs
from inside the call that started it.  What will happen later stands on the timeline, ordered by
time (`pairwise_insertAt`) and, at one time, by when it was put there.  A timer (`Alarm`) that is
cancelled is taken off the timeline and its task told so; one that has already rung can no longer
be recalled.

The engine keeps a ledger of its pings: what was asked for, each `Ping` under a number of its own,
and what callers were told, each `Ending` under the number of its ping.  It also writes down the
datagrams that came in.
-/
import IcmpEcho.Calendar
import IcmpEcho.Config
import IcmpEcho.Engine.Event
import IcmpEcho.Mailbox
import IcmpEcho.Rate.Limiter

namespace IcmpEcho

/-! ## 1. Who is told -/

abbrev SocketId := Nat

abbrev LimiterId := Nat

abbrev MailboxId := Nat

abbrev PingerId := Nat

abbrev HubId := Nat

abbrev TimerId := Nat

abbrev PingId := Nat

/-- What tells the outstanding calls of one pinger apart. -/
structure Token where
  identifier : UInt16
  sequence : UInt16
  deriving DecidableEq, Repr

/-- The order in which a pinger keeps its calls. -/
def Token.before (a b : Token) : Bool :=
  a.identifier < b.identifier || (a.identifier == b.identifier && a.sequence < b.sequence)

/-- Who started a ping, and is told how it ended. -/
inductive Caller
  /-- A caller that goes on with the sequence numbers of `again`, one after another. -/
  | scripted (tag : String) (again : List UInt16)
  /-- The service, for one of its targets. -/
  | target (index : Nat)
  deriving DecidableEq, Repr

/-- Who started a send, and is told how it ended. -/
inductive SendClient
  | raw (tag : String)
  | call (pinger : PingerId) (token : Token) (timer : TimerId)
  deriving DecidableEq, Repr

/-- Who started a receive on a socket, and is told how it ended. -/
inductive ReceiveClient
  | raw (tag : String)
  | pinger (pinger : PingerId)
  | hub (hub : HubId)
  deriving DecidableEq, Repr

/-- Who waits for a mailbox. -/
inductive Reader
  | pinger (pinger : PingerId)
  /-- A reader that asks `again` times more. -/
  | labelled (box : MailboxId) (label : String) (again : Nat)
  deriving DecidableEq, Repr

/-- Who asks a limiter to send. -/
inductive Sender
  | datagram (socket : SocketId) (packet : Bytes) (destination : Address) (client : SendClient)
  /-- A sender that asks `again` times more. -/
  | labelled (limiter : LimiterId) (label : String) (again : Nat)
  deriving DecidableEq, Repr

/-! ## 2. Work -/

/-- A timer. -/
inductive Alarm
  | call (pinger : PingerId) (token : Token) (timer : TimerId)
  | limiter (limiter : LimiterId)
  | round
  deriving DecidableEq, Repr

/-- A datagram in a mailbox, with the time at which it was received. -/
structure Letter where
  time : Time := 0
  packet : Bytes := []
  deriving DecidableEq, Repr, Inhabited

/-- Work that is due. -/
inductive Task
  /-- A timer has rung, or was cancelled. -/
  | rang (alarm : Alarm) (code : ErrorCode)
  /-- A sender is let go by its limiter without sending. -/
  | turnedAway (sender : Sender)
  /-- A send has ended. -/
  | sent (client : SendClient) (code : ErrorCode) (count : Nat)
  /-- A receive on a socket has ended. -/
  | received (socket : SocketId) (client : ReceiveClient) (code : ErrorCode) (source : Address)
      (data : Bytes)
  /-- A receive was refused, because its socket had failed before. -/
  | noReceive (client : ReceiveClient) (code : ErrorCode)
  /-- A mailbox has something for its reader. -/
  | mail (reader : Reader) (code : ErrorCode) (letter : Letter)
  /-- A ping was refused. -/
  | noPing (pinger : PingerId) (ping : PingId) (caller : Caller) (code : ErrorCode)
      (sequence : UInt16)
  /-- A signal has come, or nobody waits for one any more. -/
  | signalled (code : ErrorCode) (number : Int)
  deriving DecidableEq, Repr

/-- What happens at its time on the timeline. -/
inductive Happening
  /-- A timer rings. -/
  | ring (alarm : Alarm)
  /-- A task becomes ready. -/
  | ready (task : Task)
  /-- A datagram comes in. -/
  | deliver (source : Address) (data : Bytes)
  /-- A signal comes in. -/
  | signal (number : Int)
  deriving DecidableEq, Repr

/-! ## 3. Parts -/

/-- A raw socket. -/
structure RawSocket where
  family : Family
  isOpen : Bool := false
  /-- Why every operation on the socket fails; no error while it works. -/
  fatal : ErrorCode := .success
  limiter : LimiterId := 0
  /-- The datagrams that came in and were not taken, with their sources. -/
  backlog : List (Address × Bytes) := []
  /-- The receive that waits for a datagram, and the room it has for one. -/
  receiver : Option (ReceiveClient × Nat) := none
  deriving Repr

/-- A ping as it was asked for. -/
structure Ping where
  number : PingId
  pinger : PingerId
  /-- The identifier that the pinger had then, and the sequence number. -/
  token : Token
  caller : Caller
  /-- When it was asked for, and how long a reply was to be waited for. -/
  asked : Time
  timeout : Time
  deriving DecidableEq, Repr

/-- What the caller of a ping was told, and when. -/
structure Ending where
  ping : PingId
  time : Time
  code : ErrorCode
  result : PingResult
  deriving DecidableEq, Repr

/-- A ping that has not ended. -/
structure Call where
  token : Token
  /-- When the ping was asked for, and when its request is known to have left. -/
  queued : Time
  sent : Time
  /-- The timer of a ping has the number of the ping. -/
  timer : TimerId
  caller : Caller
  deriving DecidableEq, Repr

/-- What sends echo requests to one destination and matches the replies. -/
structure Pinger where
  destination : Address
  identifier : UInt16
  /-- The bytes of payload. -/
  size : Nat := 56
  timeout : Time := 2000000000
  socket : SocketId
  /-- The mailbox that a hub fills; without one the socket is the pinger's own. -/
  mailbox : Option MailboxId := none
  /-- The calls that have not ended, in the order of their tokens. -/
  calls : List Call := []
  /-- A receive is outstanding. -/
  receiving : Bool := false
  /-- Nothing refers to the pinger any more. -/
  gone : Bool := false
  deriving Repr

/-- One socket shared by pingers, each with a mailbox registered for its destination. -/
structure Hub where
  socket : SocketId
  /-- The registered mailboxes, in the order of their addresses. -/
  registry : List (Address × MailboxId) := []
  /-- The receive loop runs. -/
  running : Bool := false
  deriving Repr

/-- What the service knows of one target. -/
structure Target where
  name : String
  address : Address
  pinger : PingerId
  transmitted : UInt32 := 0
  received : UInt32 := 0
  shortest : Time := endOfTime
  longest : Time := 0
  total : Time := 0
  deriving Repr

/-- The service that pings its targets in rounds. -/
structure Service where
  config : Config
  targets : Array Target := #[]
  /-- The hubs for the two families, once they are needed. -/
  hubV4 : Option HubId := none
  hubV6 : Option HubId := none
  /-- The number of rounds begun. -/
  round : UInt32 := 0
  /-- The number of pings that have not ended. -/
  outstanding : UInt32 := 0
  stopped : Bool := false
  deriving Repr

/-- All of the parts, with clock, queues and what has been seen of them. -/
structure Engine where
  network : Network := {}
  now : Time := 0
  /-- Nothing runs any more. -/
  stopped : Bool := false
  ready : List Task := []
  timeline : List (Time × Happening) := []
  /-- What has happened, the latest first. -/
  journal : List Event := []
  /-- The number of datagrams that were handed to the network. -/
  sendCount : Nat := 0
  /-- The least severity that is logged. -/
  logLevel : Int := 1
  /-- The file that log lines are also written to. -/
  logFile : Option String := none
  files : List (String × String) := []
  sockets : Array RawSocket := #[]
  limiters : Array (Option (Rate.Limiter Sender)) := #[]
  mailboxes : Array (Mailbox Letter Reader) := #[]
  pingers : Array Pinger := #[]
  hubs : Array Hub := #[]
  nextPing : PingId := 0
  /-- The pings that were ever asked for, the latest first. -/
  pings : List Ping := []
  /-- What callers were told, the latest first. -/
  endings : List Ending := []
  /-- The datagrams that came in, with their sources, the latest first. -/
  arrivals : List (Address × Bytes) := []
  nextIdentifier : UInt16 := 4096
  /-- The pingers that nobody outside holds, but work that is due may. -/
  released : List PingerId := []
  service : Option Service := none
  /-- Somebody waits for a signal. -/
  awaitsSignal : Bool := false
  /-- The lines that the service wrote, the latest first. -/
  output : List String := []
  deriving Repr

namespace Engine

/-! ## 4. Queues and clock -/

/-- Puts a task at the end of the ready queue. -/
def post (engine : Engine) (task : Task) : Engine :=
  { engine with ready := engine.ready ++ [task] }

/-- A timeline with one item more, behind all that is not later. -/
def insertAt (time : Time) (item : Happening) :
    List (Time × Happening) → List (Time × Happening)
  | [] => [(time, item)]
  | head :: rest =>
    if head.1 ≤ time then head :: insertAt time item rest else (time, item) :: head :: rest

theorem insertAt_perm (time : Time) (item : Happening) :
    ∀ timeline : List (Time × Happening),
      (insertAt time item timeline).Perm ((time, item) :: timeline)
  | [] => .refl _
  | head :: rest => by
    simp only [insertAt]
    split
    · exact ((insertAt_perm time item rest).cons head).trans (.swap _ _ _)
    · exact .refl _

theorem mem_insertAt {time : Time} {item : Happening} {entry : Time × Happening}
    {timeline : List (Time × Happening)} :
    entry ∈ insertAt time item timeline ↔ entry = (time, item) ∨ entry ∈ timeline := by
  rw [(insertAt_perm time item timeline).mem_iff, List.mem_cons]

/-- **A timeline stays ordered by time.** -/
theorem pairwise_insertAt {time : Time} {item : Happening} :
    ∀ {timeline : List (Time × Happening)},
      timeline.Pairwise (fun a b => a.1 ≤ b.1) →
      (insertAt time item timeline).Pairwise (fun a b => a.1 ≤ b.1)
  | [], _ => by simp [insertAt]
  | head :: rest, h => by
    obtain ⟨hhead, hrest⟩ := List.pairwise_cons.1 h
    simp only [insertAt]
    split
    · next hle =>
      refine List.pairwise_cons.2 ⟨fun entry hentry => ?_, pairwise_insertAt hrest⟩
      rcases mem_insertAt.1 hentry with rfl | hentry
      · exact hle
      · exact hhead entry hentry
    · next hlt =>
      refine List.pairwise_cons.2 ⟨fun entry hentry => ?_, h⟩
      rcases List.mem_cons.1 hentry with rfl | hentry
      · exact Int.le_of_lt (Int.not_le.1 hlt)
      · exact Int.le_trans (Int.le_of_lt (Int.not_le.1 hlt)) (hhead entry hentry)

/-- Puts something on the timeline. -/
def schedule (engine : Engine) (time : Time) (item : Happening) : Engine :=
  { engine with timeline := insertAt time item engine.timeline }

/-- The timer is set. -/
def awaits (engine : Engine) (alarm : Alarm) : Bool :=
  engine.timeline.any fun entry => entry.2 = .ring alarm

/-- Takes a timer that is set off the timeline and posts that it was cancelled. -/
def cancelAlarm (engine : Engine) (alarm : Alarm) : Engine :=
  if engine.awaits alarm then
    { engine with
      timeline := engine.timeline.filter fun entry => entry.2 ≠ .ring alarm
      ready := engine.ready ++ [.rang alarm .aborted] }
  else engine

/-- Sets a timer that is not set, to ring after some time. -/
def ringAfter (engine : Engine) (wait : Time) (alarm : Alarm) : Engine :=
  engine.schedule (min (engine.now + wait) endOfTime) (.ring alarm)

/-- Sets a timer anew. -/
def setAlarm (engine : Engine) (alarm : Alarm) (wait : Time) : Engine :=
  (engine.cancelAlarm alarm).ringAfter wait alarm

/-- Adds to what has been seen. -/
def record (engine : Engine) (event : Event) : Engine :=
  { engine with journal := event :: engine.journal }

end Engine

end IcmpEcho
