/-
# Starting a ping

Every ping enters a call into its pinger's list before its request leaves, under the token of the
pinger's identifier and the sequence number.  A ping that does not fit into a datagram, or whose
token is taken, is refused by a task and changes nothing.

While a pinger has calls it keeps one receive outstanding, on its own socket or on the mailbox
that a hub fills for it.
-/
import IcmpEcho.Engine.Mail

namespace IcmpEcho

/-! ## 1. The calls of a pinger -/

namespace Call

/-- The call list with one call more, in the order of tokens. -/
def insert (call : Call) : List Call → List Call
  | [] => [call]
  | head :: rest =>
    if call.token.before head.token then call :: head :: rest else head :: insert call rest

theorem insert_perm (call : Call) : ∀ calls : List Call, (call.insert calls).Perm (call :: calls)
  | [] => .refl _
  | head :: rest => by
    simp only [insert]
    split
    · exact .refl _
    · exact ((insert_perm call rest).cons head).trans (.swap _ _ _)

theorem mem_insert {call other : Call} {calls : List Call} :
    other ∈ call.insert calls ↔ other = call ∨ other ∈ calls := by
  rw [(insert_perm call calls).mem_iff, List.mem_cons]

end Call

namespace Pinger

/-- The size of the buffer a datagram is received into. -/
def room : Nat := 65536

/-- A pinger that a hub feeds. -/
def isMultiplexed (pinger : Pinger) : Bool := pinger.mailbox.isSome

/-- The call that holds a token. -/
def call? (pinger : Pinger) (token : Token) : Option Call :=
  pinger.calls.find? fun call => call.token = token

/-- The pinger without the call that holds a token. -/
def without (pinger : Pinger) (token : Token) : Pinger :=
  { pinger with calls := pinger.calls.filter fun call => call.token ≠ token }

end Pinger

namespace Engine

/-- Changes one pinger. -/
def updatePinger (engine : Engine) (pinger : PingerId) (change : Pinger → Pinger) : Engine :=
  { engine with pingers := engine.pingers.modify pinger change }

/-! ## 2. Making pingers -/

/-- Adds a pinger with the next identifier. -/
def addPinger (engine : Engine) (destination : Address) (socket : SocketId)
    (mailbox : Option MailboxId) : Engine × PingerId :=
  let pinger := { destination, identifier := engine.nextIdentifier, socket, mailbox }
  ({ engine with
      pingers := engine.pingers.push pinger
      nextIdentifier := engine.nextIdentifier + 1 },
    engine.pingers.size)

/-- Makes a pinger with a socket of its own. -/
def createPinger (engine : Engine) (destination : Address) (settings : SocketSettings) :
    Engine × Except Failure PingerId :=
  match engine.openSocket { settings with family := destination.family } with
  | (engine, .error failure) => (engine, .error failure)
  | (engine, .ok socket) =>
    let (engine, pinger) := engine.addPinger destination socket none
    (engine, .ok pinger)

/-! ## 3. Pinging -/

/-- Starts the receive that a pinger with calls needs, unless it is outstanding. -/
def startReceive (engine : Engine) (id : PingerId) : Engine :=
  match engine.pingers[id]? with
  | none => engine
  | some pinger =>
    if pinger.receiving || pinger.calls.isEmpty then engine
    else
      let engine := engine.updatePinger id fun pinger => { pinger with receiving := true }
      match pinger.mailbox with
      | some box => engine.askMail box (.pinger id)
      | none => engine.receive pinger.socket (.pinger id) Pinger.room

/-- Writes down that a ping is asked for. -/
def noteAsked (engine : Engine) (id : PingerId) (pinger : Pinger) (token : Token)
    (caller : Caller) : Engine :=
  let ping : Ping :=
    { number := engine.nextPing, pinger := id, token, caller, asked := engine.now,
      timeout := pinger.timeout }
  { engine with nextPing := engine.nextPing + 1, pings := ping :: engine.pings }

/-- Refuses a ping. -/
def refuse (engine : Engine) (id : PingerId) (pinger : Pinger) (token : Token)
    (caller : Caller) (fault : PingFault) : Engine :=
  let ping := engine.nextPing
  (engine.noteAsked id pinger token caller).post
    (.noPing id ping caller fault.code token.sequence)

/-- Enters a call and sets its timer. -/
def enterCall (engine : Engine) (id : PingerId) (pinger : Pinger) (token : Token)
    (caller : Caller) : Engine :=
  let timer := engine.nextPing
  let call : Call := { token, queued := engine.now, sent := engine.now, timer, caller }
  ((engine.noteAsked id pinger token caller).updatePinger id fun pinger =>
    { pinger with calls := call.insert pinger.calls }).ringAfter pinger.timeout
      (.call id token timer)

/-- Enters a call, opens its reply window and submits its request. -/
def startCall (engine : Engine) (id : PingerId) (pinger : Pinger) (token : Token)
    (caller : Caller) (packet : Bytes) : Engine :=
  let timer := engine.nextPing
  ((engine.enterCall id pinger token caller).startReceive id).submit pinger.socket packet
    pinger.destination (.call id token timer)

/-- Pings with a sequence number. -/
def ping (engine : Engine) (id : PingerId) (sequence : UInt16) (caller : Caller) : Engine :=
  match engine.pingers[id]? with
  | none => engine
  | some pinger =>
    let token : Token := { identifier := pinger.identifier, sequence }
    match encodeRequest pinger.destination.family token.identifier sequence pinger.size with
    | .error fault => engine.refuse id pinger token caller fault
    | .ok packet =>
      if (pinger.call? token).isSome then
        engine.refuse id pinger token caller .sequenceInFlight
      else engine.startCall id pinger token caller packet

end Engine

end IcmpEcho
