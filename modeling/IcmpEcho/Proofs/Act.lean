/-
# What handlers are made of

Whatever an engine does in answer to a task, it does by a few kinds of acts: it starts a receive or
passes one on, sets a flag, closes a mailbox, takes a call off its list, tells a caller, or goes
aside.  `Act hand e hand' e'` lists them, each with what it requires and what it leaves in the hand;
`Acts` is a row of them.

* **An act keeps the invariant** (`Act.sound`).
* **An act is steady** (`Act.steady`): ports, sockets and parts stay, a socket that has failed stays
  failed, a hub with a failed socket does not start again, the ledger only grows.

So a function has to be taken apart into acts once, and a property of all runs has to be shown for
the acts only.
-/
import IcmpEcho.Proofs.Lifetime

namespace IcmpEcho

/-! ## 1. Acts -/

/-- `b` differs from `a` at most in its flag and in how it sends. -/
structure Pinger.Alike (a b : Pinger) : Prop where
  destination : b.destination = a.destination
  socket : b.socket = a.socket
  mailbox : b.mailbox = a.mailbox
  calls : b.calls = a.calls
  gone : b.gone = a.gone

/-- One act of a handler. -/
inductive Act : Hand → Engine → Hand → Engine → Prop
  | aside {hand : Hand} {e e' : Engine} (h : Aside e e') : Act hand e hand e'
  /-- A socket takes no datagrams any more. -/
  | shut (hand : Hand) (e : Engine) (socket : SocketId) :
    Act hand e hand
      (e.updateSocket socket fun record => { record with isOpen := false, backlog := [] })
  /-- A socket fails.  A hub on it has no registrations, or is about to lose them. -/
  | fail {hand : Hand} {e : Engine} {socket : SocketId} {code : ErrorCode} (hcode : code.isError)
    (hf : (e.fatalOf socket).isError = false)
    (hubs : ∀ id hub, e.hubs[id]? = some hub → hub.socket = socket →
      hub.registry = [] ∨ hand.unsettled = some (.hub id)) :
    Act hand e hand (e.updateSocket socket fun record => { record with fatal := code })
  /-- A receive on a socket is started; a hub has room for the longest datagram. -/
  | receive {hand : Hand} {e : Engine} {client : ReceiveClient} {socket : SocketId} {room : Nat}
    (hb : hand.busy = some client) (fits : e.Fits client (.socket socket))
    (hroom : ∀ id, client = .hub id → room = Pinger.room) :
    Act hand e { hand with busy := none } (e.receive socket client room)
  /-- A receive on a mailbox is started. -/
  | askMail {hand : Hand} {e : Engine} {reader : Reader} {box : MailboxId}
    (hb : hand.busy = some reader.client) (fits : e.Fits reader.client (.box box)) :
    Act hand e { hand with busy := none } (e.askMail box reader)
  /-- The receive that waits on a socket is given up. -/
  | endReceive (hand : Hand) (e : Engine) (socket : SocketId) :
    Act hand e hand (e.endReceive socket .aborted)
  /-- A mailbox is closed.  If it is registered, its registration may be ended, or its pinger is
  gone. -/
  | closeMail {hand : Hand} {e : Engine} {box : MailboxId} {reason : ErrorCode} (hr : reason.isError)
    (hbox : ∀ id address, e.Lists id address box → hand.may id address ∨ e.Orphan box) :
    Act hand e hand (e.closeMail box reason)
  /-- A hub loses registrations, or sets or clears its flag. -/
  | hub {hand : Hand} {e : Engine} {id : HubId} {hub : Hub} {change : Hub → Hub}
    {busy : Option ReceiveClient} (hh : e.hubs[id]? = some hub)
    (socket : (change hub).socket = hub.socket)
    (entries : (change hub).registry ⊆ hub.registry)
    (registry : ∀ address box, (change hub).mailbox? address = some box →
      hub.mailbox? address = some box)
    (frame : ∀ address, ¬ hand.may id address →
      (change hub).mailbox? address = hub.mailbox? address)
    (fatal : (e.fatalOf hub.socket).isError → (change hub).running → hub.running)
    (hu : hand.unsettled = none ∨ hand.unsettled = some (.hub id))
    (lends : Lends (.hub id) hub.running (change hub).running hand.busy busy) :
    Act hand e { hand with busy, unsettled := some (.hub id) } (e.updateHub id change)
  /-- A living pinger changes how it sends, or sets or clears its flag. -/
  | pinger {hand : Hand} {e : Engine} {id : PingerId} {pinger : Pinger} {change : Pinger → Pinger}
    {busy : Option ReceiveClient} (hp : e.pingers[id]? = some pinger) (hg : pinger.gone = false)
    (alike : Pinger.Alike pinger (change pinger))
    (hu : hand.unsettled = none ∨ hand.unsettled = some (.pinger id))
    (lends : Lends (.pinger id) pinger.receiving (change pinger).receiving hand.busy busy) :
    Act hand e { hand with busy, unsettled := some (.pinger id) } (e.updatePinger id change)
  /-- The request of a call has left. -/
  | sent (hand : Hand) (e : Engine) (id : PingerId) (token : Token) (timer : TimerId) :
    Act hand e hand (e.refreshSent id token timer)
  /-- A ping is entered. -/
  | enter {hand : Hand} {e : Engine} {id : PingerId} {pinger : Pinger} {token : Token}
    {caller : Caller} (hu : hand.unsettled = none) (hp : e.pingers[id]? = some pinger)
    (hg : pinger.gone = false) (hi : token.identifier = pinger.identifier)
    (hfree : pinger.call? token = none) :
    Act hand e { hand with unsettled := some (.pinger id) } (e.enterCall id pinger token caller)
  /-- A ping is refused. -/
  | refuse {hand : Hand} {e : Engine} {id : PingerId} {pinger : Pinger} {token : Token}
    {caller : Caller} {fault : PingFault} (hp : e.pingers[id]? = some pinger)
    (hf : fault = .packetTooLarge ∨ fault = .sequenceInFlight) :
    Act hand e hand (e.refuse id pinger token caller fault)
  /-- A call is taken off the list. -/
  | take {hand : Hand} {e : Engine} {id : PingerId} {pinger : Pinger} {token : Token}
    {call : Call} (hp : e.pingers[id]? = some pinger) (hcall : pinger.call? token = some call) :
    Act hand e { hand with ended := call.timer :: hand.ended }
      (e.updatePinger id fun pinger => pinger.without token)
  /-- All calls of a pinger are taken off the list. -/
  | takeAll {hand : Hand} {e : Engine} {id : PingerId} {pinger : Pinger}
    (hp : e.pingers[id]? = some pinger) (hg : pinger.gone = false) :
    Act hand e { hand with ended := pinger.calls.map Call.timer ++ hand.ended }
      (e.updatePinger id fun pinger => { pinger with calls := [] })
  /-- The timer of a ping in the hand is cancelled. -/
  | disarm {hand : Hand} {e : Engine} (id : PingerId) (token : Token) {timer : TimerId}
    (ht : timer ∈ hand.ended) : Act hand e hand (e.cancelAlarm (.call id token timer))
  /-- The caller of a ping in the hand is told. -/
  | tell {hand : Hand} {e : Engine} {number : PingId} {ended : List PingId} {ping : Ping}
    {code : ErrorCode} {result : PingResult} (hh : hand.ended = number :: ended)
    (hping : e.ping? number = some ping) (hseq : result.sequence = ping.token.sequence) :
    Act hand e { hand with ended } (e.tell number ping.caller code result)
  /-- A hub or pinger listens as it should. -/
  | settle {hand : Hand} {e : Engine} {client : ReceiveClient}
    (hu : hand.unsettled = some client) (h : e.Settled client) :
    Act hand e { hand with unsettled := none } e
  /-- A hub or pinger may have to change whether it listens. -/
  | unsettle {hand : Hand} (e : Engine) (client : ReceiveClient) (hu : hand.unsettled = none) :
    Act hand e { hand with unsettled := some client } e
  /-- The receive of one who does not listen at all has been dealt with. -/
  | rest {hand : Hand} {e : Engine} {client : ReceiveClient} (hb : hand.busy = some client)
    (hl : e.listens? client = none) : Act hand e { hand with busy := none } e
  /-- The call of the timer that rang is gone. -/
  | punctual {hand : Hand} {e : Engine} {alarm : Alarm} (hl : hand.late = some alarm)
    (hno : ∀ id, ∀ call ∈ e.callsOf id, alarm ≠ .call id call.token call.timer) :
    Act hand e { hand with late := none } e

variable {e e' e'' : Engine} {hand hand' hand'' : Hand} {id : PingerId} {pinger : Pinger}

/-! ## 2. Acts keep the invariant -/

theorem Sound.unsettle (hs : Sound hand e) (client : ReceiveClient) (hu : hand.unsettled = none) :
    Sound { hand with unsettled := some client } e :=
  { hs with settled := fun other _ => hs.settled other (by rw [hu]; simp) }

/-- **An act keeps the invariant.** -/
theorem Act.sound (h : Act hand e hand' e') (hs : Sound hand e) : Sound hand' e' := by
  cases h with
  | aside h => exact hs.aside h
  | shut socket => exact hs.passes (.updateSocket (fun _ => rfl) fun _ => rfl)
  | fail hcode hf hubs => exact hs.fail hcode hubs
  | receive hb fits hroom => exact hs.starts hb (.receive hs.wired fits _)
  | askMail hb fits => exact hs.starts hb (.askMail hs.wired _ fits)
  | endReceive socket => exact hs.passes (.endReceive hs.wired _ _)
  | closeMail hr hbox => exact hs.passes (.closeMail hs.wired _ _)
  | hub hh socket entries registry frame fatal hu lends =>
    exact hs.updateHub hh socket (hs.listed.updateHub hh entries) hu lends
  | pinger hp hg alike hu lends =>
    refine hs.updatePinger hp hg _ _ ?_ (alike.gone.trans hg) lends ?_ (fun h => absurd rfl h)
      (hs.ledger.moveCalls hp ?_ ?_ ?_) (hs.armed.updatePinger hp ?_)
    · simp only [Pinger.port, alike.mailbox, alike.socket]
    · intro client hne _
      rcases hu with hu | hu <;> rw [hu] <;> simp [Ne.symm hne]
    · rw [alike.calls]
    · intro call hcall
      refine hs.ledger.entered _ call ?_
      rw [Engine.callsOf_eq hp, ← alike.calls]
      exact hcall
    · rw [alike.calls, ← Engine.callsOf_eq hp]
      exact hs.ledger.tokens _
    · intro call hcall
      exact ⟨call, by rwa [← alike.calls], rfl, rfl⟩
  | sent id token timer => exact hs.refreshSent token timer
  | enter hu hp hg hi hfree => exact hs.enterCall hu hp hg hfree _
  | refuse hp hf => exact hs.refuse _ _ _ _ hf
  | take hp hcall => exact hs.take hp hcall
  | takeAll hp hg => exact hs.takeAll hp hg
  | disarm id token ht => exact hs.disarm ht
  | tell hh hping hseq => exact hs.tell hh hping _ hseq
  | settle hu h => exact hs.settle hu h
  | unsettle client hu => exact hs.unsettle client hu
  | rest hb hl => exact { hs with counted := Counted.drop (hb ▸ hs.counted) hl }
  | punctual hl hno => exact { hs with armed := Armed.settle (hl ▸ hs.armed) hno }

/-! ## 3. Acts are steady -/

/-- `b` is a later state of hub `a`, with nothing registered anew.  On a failed socket it has not
started. -/
structure Hub.Follows (failed : Bool) (a b : Hub) : Prop where
  socket : b.socket = a.socket
  registry : ∀ address box, b.mailbox? address = some box → a.mailbox? address = some box
  running : failed → b.running → a.running

/-- `b` is a later state of pinger `a`, no more or less alive. -/
structure Pinger.Follows (a b : Pinger) : Prop where
  destination : b.destination = a.destination
  socket : b.socket = a.socket
  mailbox : b.mailbox = a.mailbox
  gone : b.gone = a.gone

theorem Hub.Follows.refl (failed : Bool) (hub : Hub) : Hub.Follows failed hub hub :=
  ⟨rfl, fun _ _ h => h, fun _ h => h⟩

theorem Pinger.Follows.refl (pinger : Pinger) : Pinger.Follows pinger pinger :=
  ⟨rfl, rfl, rfl, rfl⟩

/-- **What no act changes.** -/
structure Steady (e e' : Engine) : Prop where
  ports : SamePorts e e'
  fatal : ∀ socket, (e.fatalOf socket).isError → e'.fatalOf socket = e.fatalOf socket
  hubs : ∀ (id : HubId) (hub : Hub), e.hubs[id]? = some hub →
    ∃ hub', e'.hubs[id]? = some hub' ∧ Hub.Follows (e.fatalOf hub.socket).isError hub hub'
  pingers : ∀ (id : PingerId) (pinger : Pinger), e.pingers[id]? = some pinger →
    ∃ pinger', e'.pingers[id]? = some pinger' ∧ pinger.Follows pinger'
  released : e'.released = e.released
  targets : e'.targetPingers = e.targetPingers
  ping? : ∀ number ping, e.ping? number = some ping → e'.ping? number = some ping
  endings : e.endings <:+ e'.endings

namespace Steady

/-- Parts that are all the same are steady. -/
theorem of_parts (ports : SamePorts e e') (hubs : e'.hubs = e.hubs)
    (pingers : e'.pingers = e.pingers) (released : e'.released = e.released)
    (targets : e'.targetPingers = e.targetPingers)
    (fatal : ∀ socket, (e.fatalOf socket).isError → e'.fatalOf socket = e.fatalOf socket)
    (ping? : ∀ number ping, e.ping? number = some ping → e'.ping? number = some ping)
    (endings : e.endings <:+ e'.endings) : Steady e e' where
  ports := ports
  fatal := fatal
  hubs _ hub h := ⟨hub, by rwa [hubs], .refl _ hub⟩
  pingers _ pinger h := ⟨pinger, by rwa [pingers], .refl pinger⟩
  released := released
  targets := targets
  ping? := ping?
  endings := endings

theorem refl (e : Engine) : Steady e e :=
  of_parts ⟨fun _ => rfl, rfl, rfl⟩ rfl rfl rfl rfl (fun _ _ => rfl) (fun _ _ h => h)
    (List.suffix_refl _)

theorem trans (h : Steady e e') (h' : Steady e' e'') : Steady e e'' where
  ports := {
    port? := fun client => (h'.ports.port? client).trans (h.ports.port? client)
    socketCount := h'.ports.socketCount.trans h.ports.socketCount
    boxCount := h'.ports.boxCount.trans h.ports.boxCount }
  fatal socket hf := by
    have hf' := h.fatal socket hf
    rw [h'.fatal socket (by rwa [hf']), hf']
  hubs id hub hhub := by
    obtain ⟨hub', hhub', hfollows⟩ := h.hubs id hub hhub
    obtain ⟨hub'', hhub'', hfollows'⟩ := h'.hubs id hub' hhub'
    refine ⟨hub'', hhub'', hfollows'.socket.trans hfollows.socket, fun address box h =>
      hfollows.registry address box (hfollows'.registry address box h), fun hf hrun => ?_⟩
    refine hfollows.running hf (hfollows'.running ?_ hrun)
    rwa [hfollows.socket, h.fatal _ hf]
  pingers id pinger hp := by
    obtain ⟨pinger', hp', hf⟩ := h.pingers id pinger hp
    obtain ⟨pinger'', hp'', hf'⟩ := h'.pingers id pinger' hp'
    exact ⟨pinger'', hp'', hf'.destination.trans hf.destination, hf'.socket.trans hf.socket,
      hf'.mailbox.trans hf.mailbox, hf'.gone.trans hf.gone⟩
  released := h'.released.trans h.released
  targets := h'.targets.trans h.targets
  ping? number ping hping := h'.ping? number ping (h.ping? number ping hping)
  endings := h.endings.trans h'.endings

theorem of_aside (h : Aside e e') : Steady e e' :=
  of_parts h.receives.ports h.hubs h.pingers h.released h.targets
    (fun socket _ => h.receives.fatalOf socket) (fun _ _ hping => by rwa [Engine.ping?, h.pings])
    (h.endings ▸ List.suffix_refl _)

theorem of_sameParts (h : SameParts e e') : Steady e e' :=
  of_parts h.ports h.hubs h.pingers h.released h.targets (fun socket _ => h.fatal socket)
    (fun _ _ hping => by rwa [Engine.ping?, h.pings]) (h.endings ▸ List.suffix_refl _)

theorem updatePinger (hp : e.pingers[id]? = some pinger) {change : Pinger → Pinger}
    (hf : pinger.Follows (change pinger)) : Steady e (e.updatePinger id change) :=
  { refl e with
    ports := .updatePinger hp (by simp only [Pinger.port, hf.mailbox, hf.socket])
    pingers := fun other pinger' hp' => by
      rw [Engine.pingers_updatePinger hp]
      by_cases hother : other = id
      · subst hother
        obtain rfl := Option.some.inj (hp.symm.trans hp')
        exact ⟨_, if_pos rfl, hf⟩
      · exact ⟨pinger', by rwa [if_neg hother], .refl pinger'⟩ }

theorem noteAsked {ended : List PingId} (hl : Ledger ended e) (id : PingerId) (pinger : Pinger)
    (token : Token) (caller : Caller) : Steady e (e.noteAsked id pinger token caller) :=
  of_parts ⟨fun client => by cases client <;> rfl, rfl, rfl⟩ rfl rfl rfl rfl (fun _ _ => rfl)
    (fun _ _ => hl.ping?_noteAsked_of_some) (List.suffix_refl _)

/-- What happens to tasks and timeline alone is steady. -/
theorem queues (ready : List Task) (timeline : List (Time × Happening)) :
    Steady e { e with ready, timeline } :=
  of_parts ⟨fun client => by cases client <;> rfl, rfl, rfl⟩ rfl rfl rfl rfl (fun _ _ => rfl)
    (fun _ _ h => h) (List.suffix_refl _)

theorem refreshSent (token : Token) (timer : TimerId) :
    Steady e (e.refreshSent id token timer) := by
  unfold Engine.refreshSent
  split
  · exact refl e
  · next found hfound =>
    obtain ⟨pinger, call⟩ := found
    exact updatePinger (Engine.callOf?_eq_some hfound).1 ⟨rfl, rfl, rfl, rfl⟩

/-- What a caller was told is written down. -/
theorem note (ending : Ending) (journal : List Event) :
    Steady e { e with endings := ending :: e.endings, journal } :=
  of_parts ⟨fun client => by cases client <;> rfl, rfl, rfl⟩ rfl rfl rfl rfl (fun _ _ => rfl)
    (fun _ _ h => h) (List.suffix_cons _ _)

theorem tell (number : PingId) (caller : Caller) (code : ErrorCode) (result : PingResult) :
    Steady e (e.tell number caller code result) := by
  cases caller with
  | target index => exact (note _ e.journal).trans (of_aside (.targetAnswered index code result))
  | scripted tag again => exact note _ _

end Steady

/-- **An act is steady.** -/
theorem Act.steady (h : Act hand e hand' e') (hs : Sound hand e) : Steady e e' := by
  cases h with
  | aside h => exact .of_aside h
  | shut socket => exact .of_sameParts (.updateSocket fun _ => rfl)
  | @fail socket code hcode hf hubs =>
    refine .of_parts ⟨fun client => by cases client <;> rfl, Array.size_modify, rfl⟩ rfl rfl rfl
      rfl (fun other hother => ?_) (fun _ _ h => h) (List.suffix_refl _)
    have hne : socket ≠ other := by
      rintro rfl
      rw [hf] at hother
      cases hother
    simp only [Engine.fatalOf, Engine.updateSocket, Array.getElem?_modify, if_neg hne]
  | receive hb fits hroom => exact .of_sameParts (Starts.receive hs.wired fits _).same
  | askMail hb fits => exact .of_sameParts (Starts.askMail hs.wired _ fits).same
  | endReceive socket => exact .of_sameParts (Passes.endReceive hs.wired _ _).same
  | closeMail hr hbox => exact .of_sameParts (Passes.closeMail hs.wired _ _).same
  | @hub id hub change busy hh socket entries registry frame fatal hu lends =>
    refine { Steady.refl e with
      ports := .updateHub hh socket
      hubs := fun other hub' hhub' => ?_ }
    rw [Engine.hubs_updateHub hh]
    by_cases hother : other = id
    · subst hother
      obtain rfl := Option.some.inj (hh.symm.trans hhub')
      exact ⟨_, if_pos rfl, socket, registry, fatal⟩
    · exact ⟨hub', by rwa [if_neg hother], .refl _ hub'⟩
  | pinger hp hg alike hu lends =>
    exact .updatePinger hp ⟨alike.destination, alike.socket, alike.mailbox, alike.gone⟩
  | sent id token timer => exact .refreshSent token timer
  | @enter id pinger token caller hu hp hg hi hfree =>
    let call : Call := { token, queued := e.now, sent := e.now, timer := e.nextPing, caller }
    let asked := e.noteAsked id pinger token caller
    let entered := asked.updatePinger id fun pinger =>
      { pinger with calls := call.insert pinger.calls }
    have hasked : Steady e asked := .noteAsked hs.ledger id pinger token caller
    have hpinger : asked.pingers[id]? = some pinger := hp
    have hentered : Steady asked entered := .updatePinger hpinger ⟨rfl, rfl, rfl, rfl⟩
    exact (hasked.trans hentered).trans (.queues _ _)
  | refuse hp hf => exact (Steady.noteAsked hs.ledger _ _ _ _).trans (.queues _ _)
  | take hp hcall => exact .updatePinger hp ⟨rfl, rfl, rfl, rfl⟩
  | takeAll hp hg => exact .updatePinger hp ⟨rfl, rfl, rfl, rfl⟩
  | disarm id token ht =>
    unfold Engine.cancelAlarm
    split
    · exact .queues _ _
    · exact .refl e
  | tell hh hping hseq => exact .tell _ _ _ _
  | settle hu h => exact .refl e
  | unsettle client hu => exact .refl e
  | rest hb hl => exact .refl e
  | punctual hl hno => exact .refl e

/-! ## 4. Rows of acts -/

/-- Acts one after another. -/
inductive Acts : Hand → Engine → Hand → Engine → Prop
  | nil (hand : Hand) (e : Engine) : Acts hand e hand e
  | cons {hand hand' hand'' : Hand} {e e' e'' : Engine} (head : Act hand e hand' e')
    (rest : Acts hand' e' hand'' e'') : Acts hand e hand'' e''

namespace Acts

theorem one (h : Act hand e hand' e') : Acts hand e hand' e' := .cons h (.nil _ _)

theorem trans (h : Acts hand e hand' e') (h' : Acts hand' e' hand'' e'') :
    Acts hand e hand'' e'' := by
  induction h with
  | nil => exact h'
  | cons head rest ih => exact .cons head (ih h')

theorem aside (h : Aside e e') : Acts hand e hand e' := .one (.aside h)

theorem sound (h : Acts hand e hand' e') (hs : Sound hand e) : Sound hand' e' := by
  induction h with
  | nil => exact hs
  | cons head rest ih => exact ih (head.sound hs)

theorem steady (h : Acts hand e hand' e') (hs : Sound hand e) : Steady e e' := by
  induction h with
  | nil => exact .refl _
  | cons head rest ih => exact (head.steady hs).trans (ih (head.sound hs))

end Acts

end IcmpEcho
