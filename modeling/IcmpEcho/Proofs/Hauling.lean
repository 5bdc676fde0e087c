/-
# What is done about sends

Seen from the sends of a socket, all that an engine does comes down to four things (`Engine.Haul`):
it goes about something else (`Beside`), it submits the request of a call, it closes a socket, and
it opens one.  Every function that answers a task, and everything done from outside, is a row of
these (`Engine.Hauls`); so a property of sends has to be shown for the four only.

Left apart is what the sends themselves wait for: the wake of a limiter, and the end of a send or a
receive that somebody outside started.  A socket that fails, because a receive on it failed, does so
before anything else that the task does (`Engine.struck`).
-/
import IcmpEcho.Proofs.Outside

namespace IcmpEcho

variable {e e' e'' : Engine} {id : PingerId} {pinger : Pinger}

/-! ## 1. Beside -/

/-- The task ends a send, or turns a sender away. -/
def Task.isSend : Task → Bool
  | .turnedAway _ => true
  | .sent _ _ _ => true
  | _ => false

/-- A task becomes ready with the item. -/
def Happening.isReady : Happening → Bool
  | .ready _ => true
  | _ => false

/-- The event is a datagram that was sent, or the end of a raw send or receive. -/
def Event.isTraffic : Event → Bool
  | .send _ _ _ _ => true
  | .sent _ _ _ _ => true
  | .received _ _ _ _ _ => true
  | _ => false

/-- `b` is a later state of socket `a`, as far as sending goes. -/
structure RawSocket.Stands (a b : RawSocket) : Prop where
  isOpen : b.isOpen = a.isOpen
  limiter : b.limiter = a.limiter
  fatal : b.fatal = a.fatal

/-- Nothing was done about sends. -/
structure Beside (e e' : Engine) : Prop where
  sockets : ∀ (socket : SocketId) (record' : RawSocket), e'.sockets[socket]? = some record' →
    ∃ record, e.sockets[socket]? = some record ∧ record.Stands record'
  socketCount : e'.sockets.size = e.sockets.size
  limiters : e'.limiters = e.limiters
  ready : e'.ready.filter Task.isSend = e.ready.filter Task.isSend
  timeline : e'.timeline.filter (fun entry => entry.2.isReady)
    = e.timeline.filter (fun entry => entry.2.isReady)
  journal : e'.journal.filter Event.isTraffic = e.journal.filter Event.isTraffic
  owners : ∀ (id : PingerId) (pinger : Pinger), e.pingers[id]? = some pinger →
    ∃ pinger', e'.pingers[id]? = some pinger' ∧ pinger'.socket = pinger.socket

namespace Beside

theorem refl (e : Engine) : Beside e e where
  sockets _ record h := ⟨record, h, rfl, rfl, rfl⟩
  socketCount := rfl
  limiters := rfl
  ready := rfl
  timeline := rfl
  journal := rfl
  owners _ pinger h := ⟨pinger, h, rfl⟩

theorem trans (h : Beside e e') (h' : Beside e' e'') : Beside e e'' where
  sockets socket record'' hr := by
    obtain ⟨record', hr', hstands'⟩ := h'.sockets socket record'' hr
    obtain ⟨record, hr, hstands⟩ := h.sockets socket record' hr'
    exact ⟨record, hr, hstands'.isOpen.trans hstands.isOpen,
      hstands'.limiter.trans hstands.limiter, hstands'.fatal.trans hstands.fatal⟩
  socketCount := h'.socketCount.trans h.socketCount
  limiters := h'.limiters.trans h.limiters
  ready := h'.ready.trans h.ready
  timeline := h'.timeline.trans h.timeline
  journal := h'.journal.trans h.journal
  owners id pinger hp := by
    obtain ⟨pinger', hp', hsocket⟩ := h.owners id pinger hp
    obtain ⟨pinger'', hp'', hsocket'⟩ := h'.owners id pinger' hp'
    exact ⟨pinger'', hp'', hsocket'.trans hsocket⟩

/-- A task that ends a receive ends no send. -/
theorem isSend_of_listener {task : Task} (h : task.listener?.isSome) : task.isSend = false := by
  cases task <;> simp_all [Task.listener?, Task.isSend]

/-- **What goes on where datagrams come in is beside sending.** -/
theorem of_inward (h : Inward e e') : Beside e e' where
  sockets socket record' hr := by
    obtain ⟨record, hold, hf⟩ := h.sockets socket record' hr
    exact ⟨record, hold, hf.isOpen, hf.limiter, hf.fatal⟩
  socketCount := h.socketCount
  limiters := h.limiters
  ready := by
    obtain ⟨tasks, htasks, hl⟩ := h.ready
    have hnone : tasks.filter Task.isSend = [] :=
      List.filter_eq_nil_iff.2 fun task ht => by simp [isSend_of_listener (hl task ht)]
    rw [htasks, List.filter_append, hnone, List.append_nil]
  timeline := by rw [h.timeline]
  journal := by
    obtain ⟨lines, hlines⟩ := h.journal
    have hnone : (lines.map Event.log).filter Event.isTraffic = [] :=
      List.filter_eq_nil_iff.2 (by simp [Event.isTraffic])
    rw [hlines, List.filter_append, hnone, List.nil_append]
  owners id pinger hp := ⟨pinger, by rwa [h.pingers], rfl⟩

theorem post {task : Task} (ht : task.isSend = false) : Beside e (e.post task) :=
  { refl e with ready := by simp [Engine.post, ht] }

theorem schedule {time : Time} {item : Happening} (hi : item.isReady = false) :
    Beside e (e.schedule time item) :=
  { refl e with timeline := Aside.filter_insertAt hi e.timeline }

/-- A timer that is cancelled makes a task ready, but none that ends a send. -/
theorem cancelAlarm (alarm : Alarm) : Beside e (e.cancelAlarm alarm) := by
  unfold Engine.cancelAlarm
  split
  · refine { refl e with ready := by simp [Task.isSend], timeline := ?_ }
    rw [List.filter_filter]
    refine List.filter_congr fun entry _ => ?_
    by_cases hring : entry.2 = .ring alarm
    · simp [hring, Happening.isReady]
    · simp [hring]
  · exact refl e

theorem setAlarm (alarm : Alarm) (wait : Time) : Beside e (e.setAlarm alarm wait) :=
  (cancelAlarm alarm).trans (schedule rfl)

theorem record {event : Event} (h : event.isTraffic = false) : Beside e (e.record event) :=
  { refl e with journal := by simp [Engine.record, h] }

theorem updateSocket {socket : SocketId} {change : RawSocket → RawSocket}
    (hc : ∀ record, RawSocket.Stands record (change record)) :
    Beside e (e.updateSocket socket change) := by
  refine { refl e with sockets := ?_, socketCount := Array.size_modify }
  intro other record' hr
  simp only [Engine.updateSocket, Array.getElem?_modify] at hr
  split at hr
  · next heq =>
    subst heq
    obtain ⟨record, hold, rfl⟩ := Option.map_eq_some_iff.1 hr
    exact ⟨record, hold, hc record⟩
  · exact ⟨record', hr, rfl, rfl, rfl⟩

/-- To wait on a socket is nothing to its sends. -/
theorem receive (socket : SocketId) (client : ReceiveClient) (room : Nat) :
    Beside e (e.receive socket client room) := by
  unfold Engine.receive
  split
  · exact refl e
  · split
    · exact post rfl
    · split
      · refine trans (updateSocket fun _ => ?_) (post rfl)
        exact ⟨rfl, rfl, rfl⟩
      · exact updateSocket fun _ => ⟨rfl, rfl, rfl⟩

/-- A pinger keeps its socket. -/
theorem updatePinger (id : PingerId) (change : Pinger → Pinger)
    (hc : ∀ pinger, e.pingers[id]? = some pinger →
      (change pinger).socket = pinger.socket := by intros; rfl) :
    Beside e (e.updatePinger id change) := by
  refine { refl e with owners := fun other pinger hp => ?_ }
  simp only [Engine.updatePinger, Array.getElem?_modify]
  split
  · next heq =>
    subst heq
    exact ⟨change pinger, by rw [hp, Option.map_some], hc pinger hp⟩
  · exact ⟨pinger, hp, rfl⟩

/-- A pinger waits on its socket or at its mailbox. -/
theorem startReceive (id : PingerId) : Beside e (e.startReceive id) := by
  have hflagged : Beside e (e.updatePinger id fun pinger => { pinger with receiving := true }) :=
    updatePinger _ _
  unfold Engine.startReceive
  split
  · exact refl e
  · split
    · exact refl e
    · dsimp only
      split
      · exact hflagged.trans (of_inward (.askMail _ _))
      · exact hflagged.trans (receive _ _ _)

/-- To enter a call sends nothing yet; its request is submitted afterwards. -/
theorem enterCall (id : PingerId) (pinger : Pinger) (token : Token) (caller : Caller) :
    Beside e (e.enterCall id pinger token caller) := by
  have hasked : Beside e (e.noteAsked id pinger token caller) := { refl e with }
  let call : Call :=
    { token, queued := e.now, sent := e.now, timer := e.nextPing, caller }
  have hentered : Beside e ((e.noteAsked id pinger token caller).updatePinger id fun pinger =>
      { pinger with calls := call.insert pinger.calls }) := hasked.trans (updatePinger _ _)
  exact hentered.trans (schedule rfl)

theorem addPinger (destination : Address) (socket : SocketId) (mailbox : Option MailboxId) :
    Beside e (e.addPinger destination socket mailbox).1 := by
  refine { refl e with owners := fun id pinger hp => ⟨pinger, ?_, rfl⟩ }
  exact Array.getElem?_push_of_some hp _

/-- A registration has no socket of its own. -/
theorem register (id : HubId) (destination : Address) :
    Beside e (e.register id destination).1 := by
  have hboxed : Beside e (e.addMailbox 100).1 := { refl e with }
  unfold Engine.register
  split
  · exact refl e
  · split
    · exact refl e
    · split
      · exact refl e
      · exact ((hboxed.trans (of_inward (.enterRegistration _ _ _ _))).trans
          (of_inward (.startHub _))).trans (addPinger _ _ _)

/-- Stopping the service leaves sends alone: nothing is cancelled but the timer of the rounds. -/
theorem stopService : Beside e e.stopService := by
  have hflagged : Beside e (e.updateService fun service => { service with stopped := true }) :=
    { refl e with }
  have hsignal : ∀ e : Engine, Beside e e.cancelSignal := by
    intro e
    unfold Engine.cancelSignal
    split
    · exact { refl e with ready := by simp [Engine.post, Task.isSend] }
    · exact refl e
  have hstopped : ∀ e : Engine, Beside e e.stop := fun e => { refl e with }
  exact ((hflagged.trans (cancelAlarm _)).trans (hsignal _)).trans (hstopped _)

theorem targetAnswered (index : Nat) (code : ErrorCode) (result : PingResult) :
    Beside e (e.targetAnswered index code result) := by
  unfold Engine.targetAnswered
  split
  · exact refl e
  · next target _ =>
    have hwritten : Beside e ((e.updateService fun service =>
        service.count index code result).write [target.resultLine code result]) := { refl e with }
    refine hwritten.trans ?_
    unfold Engine.finishIfIdle
    split
    · exact refl _
    · split
      · exact stopService
      · exact refl _

/-- Whoever is told is told of a ping, not of a send. -/
theorem tell (number : PingId) (caller : Caller) (code : ErrorCode) (result : PingResult) :
    Beside e (e.tell number caller code result) := by
  let ending : Ending := { ping := number, time := e.now, code, result }
  have htold : Beside e { e with endings := ending :: e.endings } := { refl e with }
  unfold Engine.tell
  dsimp only
  split
  · exact htold.trans (targetAnswered _ _ _)
  · exact htold.trans (record rfl)

theorem signalled (code : ErrorCode) (number : Int) : Beside e (e.signalled code number) := by
  unfold Engine.signalled
  split
  · exact refl e
  · exact (of_inward (.logDated _ _)).trans stopService

end Beside

/-! ## 2. Rows -/

/-- The task ends a raw send or receive, or wakes a limiter, or a sender of a limiter is turned away
that sends nothing. -/
def Task.isApart : Task → Bool
  | .rang (.limiter _) code => code ≠ .aborted
  | .turnedAway (.datagram _ _ _ (.raw _)) => true
  | .turnedAway (.labelled _ _ _) => true
  | .sent (.raw _) _ _ => true
  | .received _ (.raw _) _ _ _ => true
  | .noReceive (.raw _) _ => true
  | .mail (.labelled _ _ _) _ _ => true
  | _ => false

namespace Engine

/-- One thing that is done about sends. -/
inductive Haul : Engine → Engine → Prop
  | beside {e e' : Engine} (h : Beside e e') : Haul e e'
  /-- The request of a call is submitted to the socket of its pinger. -/
  | submit {e : Engine} {id : PingerId} {pinger : Pinger} (hp : e.pingers[id]? = some pinger)
    (token : Token) (timer : TimerId) (packet : Bytes) (destination : Address) :
    Haul e (e.submit pinger.socket packet destination (.call id token timer))
  | closeSocket (e : Engine) (socket : SocketId) : Haul e (e.closeSocket socket)
  | openSocket (e : Engine) (settings : SocketSettings) : Haul e (e.openSocket settings).1

/-- One such thing after another. -/
inductive Hauls : Engine → Engine → Prop
  | nil (e : Engine) : Hauls e e
  | cons {e e' e'' : Engine} (head : Haul e e') (rest : Hauls e' e'') : Hauls e e''

namespace Hauls

theorem one (h : Haul e e') : Hauls e e' := .cons h (.nil _)

theorem beside (h : Beside e e') : Hauls e e' := one (.beside h)

theorem inward (h : Inward e e') : Hauls e e' := beside (.of_inward h)

theorem trans (h : Hauls e e') (h' : Hauls e' e'') : Hauls e e'' := by
  induction h with
  | nil => exact h'
  | cons head rest ih => exact .cons head (ih h')

theorem foldl {α : Type} {f : Engine → α → Engine} (hf : ∀ e a, Hauls e (f e a)) (l : List α)
    (e : Engine) : Hauls e (l.foldl f e) :=
  List.foldlRecOn l f (.nil e) fun next h a _ => h.trans (hf next a)

/-- **What holds of each thing holds of the row.** -/
theorem lift {R : Engine → Engine → Prop} (refl : ∀ e, R e e)
    (trans : ∀ {e e' e''}, R e e' → R e' e'' → R e e'')
    (single : ∀ {e e'}, Haul e e' → R e e') (h : Hauls e e') : R e e' := by
  induction h with
  | nil => exact refl _
  | cons head rest ih => exact trans (single head) ih

/-! ## 3. Calls -/

/-- A pinger that starts its receive keeps its socket. -/
theorem socket_startReceive (hp : e.pingers[id]? = some pinger) :
    ∃ pinger', (e.startReceive id).pingers[id]? = some pinger' ∧
      pinger'.socket = pinger.socket := by
  have hflagged : (e.updatePinger id fun pinger => { pinger with receiving := true }).pingers[id]?
      = some { pinger with receiving := true } := (pingers_updatePinger hp _ id).trans (if_pos rfl)
  simp only [startReceive, hp]
  split
  · exact ⟨pinger, hp, rfl⟩
  · split
    · exact ⟨{ pinger with receiving := true },
        by rw [(SameParts.askMail _ _).pingers, hflagged], rfl⟩
    · exact ⟨{ pinger with receiving := true },
        by rw [(SameParts.receive _ _ _).pingers, hflagged], rfl⟩

/-- **A ping is one haul of its own**, the request that is submitted last; a pinger that has begun
to wait still has the socket that it had. -/
theorem ping (id : PingerId) (sequence : UInt16) (caller : Caller) :
    Hauls e (e.ping id sequence caller) := by
  have hrefuse : ∀ pinger token fault, Hauls e (e.refuse id pinger token caller fault) := by
    intro pinger token fault
    have hasked : Beside e (e.noteAsked id pinger token caller) := { Beside.refl e with }
    exact beside (hasked.trans (.post rfl))
  unfold Engine.ping
  split
  · exact .nil e
  · next pinger hp =>
    dsimp only
    split
    · exact hrefuse _ _ _
    · split
      · exact hrefuse _ _ _
      · next packet _ _ =>
        let token : Token := { identifier := pinger.identifier, sequence }
        let started := (e.enterCall id pinger token caller).startReceive id
        have hstarted : Hauls e started :=
          (beside (.enterCall _ _ _ _)).trans (beside (.startReceive _))
        have hentered : (e.enterCall id pinger token caller).pingers[id]? = some { pinger with
            calls := Call.insert ⟨token, e.now, e.now, e.nextPing, caller⟩ pinger.calls } :=
          (pingers_updatePinger hp _ id).trans (if_pos rfl)
        obtain ⟨pinger', hp', hsocket⟩ := socket_startReceive hentered
        have hsubmit := one (.submit hp' token e.nextPing packet pinger.destination)
        rw [hsocket] at hsubmit
        exact hstarted.trans hsubmit

/-- A caller that is told may ask again, and this is a row too. -/
theorem answer (id : PingerId) (number : PingId) (caller : Caller) (code : ErrorCode)
    (result : PingResult) : Hauls e (e.answer id number caller code result) := by
  have htold : Hauls e (e.tell number caller code result) := beside (.tell _ _ _ _)
  unfold Engine.answer
  dsimp only
  split
  · split
    · exact htold.trans (ping _ _ _)
    · exact htold
  · exact htold

theorem updatePinger (id : PingerId) (change : Pinger → Pinger)
    (hc : ∀ pinger, e.pingers[id]? = some pinger →
      (change pinger).socket = pinger.socket := by intros; rfl) :
    Hauls e (e.updatePinger id change) := beside (.updatePinger id change hc)

/-- A call that ends may stop the receive of its pinger. -/
theorem complete (id : PingerId) (token : Token) (timer : TimerId) (code : ErrorCode) :
    Hauls e (e.complete id token timer code) := by
  unfold Engine.complete
  split
  · exact .nil e
  · next pinger call hcall =>
    let taken := (e.updatePinger id fun _ => pinger.without token).cancelAlarm (.call id token timer)
    -- the change names the pinger that was found, so what it keeps has to be looked up
    have hleft : Hauls e (e.updatePinger id fun _ => pinger.without token) := by
      refine updatePinger _ _ fun other hother => ?_
      obtain rfl := Option.some.inj ((callOf?_eq_some hcall).1.symm.trans hother)
      rfl
    have htaken : Hauls e taken := hleft.trans (beside (.cancelAlarm _))
    dsimp only
    split
    · exact (htaken.trans (inward (.endReceive _ _))).trans (answer _ _ _ _ _)
    · exact htaken.trans (answer _ _ _ _ _)

/-- The end of a call's send times it anew, or ends it. -/
theorem callSent (id : PingerId) (token : Token) (timer : TimerId) (code : ErrorCode) :
    Hauls e (e.callSent id token timer code) := by
  unfold Engine.callSent
  split
  · unfold Engine.refreshSent
    split
    · exact .nil e
    · exact updatePinger _ _
  · dsimp only
    split
    · split
      · exact complete _ _ _ _
      · exact (inward (.logAbout _ _ _)).trans (complete _ _ _ _)
    · exact complete _ _ _ _

/-- Every call is told on its own, so callers may ask again in between. -/
theorem failCalls (id : PingerId) (pinger : Pinger) (code : ErrorCode) :
    Hauls e (e.failCalls id pinger code) := by
  have hlogged : ∀ e : Engine, Hauls e (if pinger.calls.isEmpty || code == .aborted then e
      else e.logAbout pinger.destination .error ("receive failed: " ++ code.message)) := by
    intro e
    split
    · exact .nil e
    · exact inward (.logAbout _ _ _)
  unfold Engine.failCalls
  refine ((updatePinger _ _).trans (hlogged _)).trans (foldl (fun e call => ?_) _ _)
  exact (beside (.cancelAlarm _)).trans (answer _ _ _ _ _)

/-! ## 4. What was received -/

theorem pingerDatagram (id : PingerId) (pinger : Pinger) (received : Time) (source : Address)
    (data : Bytes) : Hauls e (e.pingerDatagram id pinger received source data) := by
  have hlogged : Hauls e (e.logMalformed source (decode pinger.destination.family data source)) :=
    inward (.logMalformed _ _)
  unfold Engine.pingerDatagram
  dsimp only
  split
  · exact hlogged.trans (beside (.startReceive _))
  · unfold Engine.succeed
    exact (((hlogged.trans (updatePinger _ _)).trans (beside (.startReceive _))).trans
      (beside (.cancelAlarm _))).trans (answer _ _ _ _ _)

/-- **Whatever a pinger is told of is a row.** -/
theorem pingerReceived (id : PingerId) (code : ErrorCode) (received : Time) (source : Address)
    (data : Bytes) : Hauls e (e.pingerReceived id code received source data) := by
  unfold Engine.pingerReceived
  split
  · exact .nil e
  · split
    · exact .nil e
    · dsimp only
      split
      · exact (updatePinger _ _).trans (pingerDatagram _ _ _ _ _)
      · split
        · exact (updatePinger _ _).trans (beside (.startReceive _))
        · exact (updatePinger _ _).trans (failCalls _ _ _)

/-- The end of a receive, unless somebody outside started it. -/
theorem receiveEnded {client : ReceiveClient} (hraw : ∀ tag, client ≠ .raw tag) (code : ErrorCode)
    (source : Address) (data : Bytes) : Hauls e (e.receiveEnded client code source data) := by
  cases client with
  | raw tag => exact absurd rfl (hraw tag)
  | pinger id => exact pingerReceived _ _ _ _ _
  | hub id => exact inward (.hubReceived _ _ _ _)

/-! ## 5. The service -/

theorem updateService (change : Service → Service) : Hauls e (e.updateService change) :=
  beside { Beside.refl e with }

theorem pingTarget (sequence : UInt16) (index : Nat) : Hauls e (e.pingTarget sequence index) := by
  unfold Engine.pingTarget
  split
  · exact .nil e
  · exact (updateService _).trans (ping _ _ _)

/-- **A round is a row**, with a request for each target. -/
theorem startRound : Hauls e e.startRound := by
  unfold Engine.startRound
  split
  · exact .nil e
  · split
    · exact .nil e
    · next service _ _ =>
      have hpinged : Hauls e ((List.range service.targets.size).foldl
          (Engine.pingTarget service.round.toUInt16) e) := foldl (fun _ _ => pingTarget _ _) _ _
      have hcounted := hpinged.trans (updateService fun own =>
        { own with round := service.round + 1 })
      refine hcounted.trans ?_
      dsimp only
      split
      · exact .nil _
      · exact beside (.setAlarm _ _)

theorem startService : Hauls e e.startService := by
  have hwaits : Hauls e { e with awaitsSignal := true } := beside { Beside.refl e with }
  exact (hwaits.trans (inward (.logDated _ _))).trans startRound

theorem endService : Hauls e e.endService := by
  have hwritten : ∀ lines, Hauls e (e.write lines) := fun _ => beside { Beside.refl e with }
  exact (hwritten _).trans (inward (.logDated _ _))

end Hauls

/-! ## 6. Tasks -/

/-- The engine after a socket has failed with the receive that a task ends, if one has. -/
def struck (e : Engine) : Task → Engine
  | .received socket _ code _ _ =>
    if code.isError ∧ code ≠ .aborted then e.failSocket socket code else e
  | _ => e

/-- **Whatever else a task does is such a row.** -/
theorem Hauls.perform {task : Task} (ht : task.isApart = false) :
    Hauls (e.struck task) (e.perform task) := by
  cases task with
  | rang alarm code =>
    simp only [struck, Engine.perform, Engine.rang]
    split
    · exact .nil e
    · next hcode =>
      split
      · exact complete _ _ _ _
      · simp [Task.isApart, hcode] at ht
      · exact startRound
  | turnedAway sender =>
    cases sender with
    | labelled limiter label again => cases ht
    | datagram socket packet destination client =>
      cases client with
      | raw tag => cases ht
      | call id token timer => exact callSent id token timer .aborted
  | sent client code count =>
    cases client with
    | raw tag => cases ht
    | call id token timer => exact callSent _ _ _ _
  | received socket client code source data =>
    have hraw : ∀ tag, client ≠ .raw tag := by
      rintro tag rfl
      cases ht
    simp only [struck, Engine.perform, Engine.socketReceived]
    by_cases hcode : code.isError
    · by_cases haborted : code = .aborted
      · simp only [haborted, ErrorCode.isError_aborted, ne_eq, not_true_eq_false, and_false,
          if_false, Bool.not_true, Bool.false_eq_true, if_true]
        exact receiveEnded hraw _ _ _
      · simp only [hcode, haborted, ne_eq, not_false_eq_true, and_self, if_true, Bool.not_true,
          Bool.false_eq_true, if_false]
        exact receiveEnded hraw _ _ _
    · simp only [hcode, Bool.not_false, if_true]
      exact receiveEnded hraw _ _ _
  | noReceive client code =>
    refine receiveEnded ?_ _ _ _
    rintro tag rfl
    cases ht
  | mail reader code letter =>
    cases reader with
    | labelled box label again => cases ht
    | pinger id =>
      simp only [struck, Engine.perform, Engine.mailArrived]
      split
      · exact .nil e
      · exact pingerReceived _ _ _ _ _
  | noPing id number caller code sequence => exact answer _ _ _ _ _
  | signalled code number => exact beside (.signalled _ _)

/-! ## 7. Parts -/

namespace Hauls

/-- A private pinger that goes closes its socket, and a registered one its mailbox. -/
theorem removePinger (id : PingerId) : Hauls e (e.removePinger id) := by
  unfold Engine.removePinger
  split
  · exact .nil e
  · dsimp only
    split
    · exact (updatePinger _ _).trans (inward (.closeMail _ _))
    · exact (updatePinger _ _).trans (one (.closeSocket _ _))

theorem sweep : Hauls e e.sweep := by
  have hreleased : ∀ released, Hauls e { e with released } :=
    fun _ => beside { Beside.refl e with }
  exact (hreleased _).trans (foldl (fun _ id => removePinger id) _ _)

theorem addPinger (destination : Address) (socket : SocketId) (mailbox : Option MailboxId) :
    Hauls e (e.addPinger destination socket mailbox).1 := beside (.addPinger _ _ _)

theorem openHub (settings : SocketSettings) : Hauls e (e.openHub settings).1 := by
  have hopened : Hauls e (e.openSocket settings).1 := one (.openSocket _ _)
  unfold Engine.openHub
  split
  · next hopen => rwa [hopen] at hopened
  · next opened socket hopen =>
    rw [hopen] at hopened
    have hadded : ∀ hubs, Hauls opened { opened with hubs } :=
      fun _ => beside { Beside.refl opened with }
    exact hopened.trans (hadded _)

/-- A private pinger opens a socket first, and is not made if that fails. -/
theorem createPinger (destination : Address) (settings : SocketSettings) :
    Hauls e (e.createPinger destination settings).1 := by
  have hopened : Hauls e (e.openSocket { settings with family := destination.family }).1 :=
    one (.openSocket _ _)
  unfold Engine.createPinger
  split
  · next hopen => rwa [hopen] at hopened
  · next hopen =>
    rw [hopen] at hopened
    exact hopened.trans (addPinger _ _ _)

theorem register (id : HubId) (destination : Address) :
    Hauls e (e.register id destination).1 := beside (.register id destination)

/-- The registrations of a hub are closed before its socket. -/
theorem closeHub (id : HubId) : Hauls e (e.closeHub id) := by
  unfold Engine.closeHub
  split
  · exact .nil e
  · exact (inward (.closeRegistrations _ _ _)).trans (one (.closeSocket _ _))

/-- **Everything done from outside is such a row.** -/
theorem outer (h : Outer e e') : Hauls e e' := by
  cases h with
  | openSocket settings => exact one (.openSocket _ _)
  | openHub settings => exact openHub settings
  | createPinger destination settings => exact createPinger destination settings
  | register id destination => exact register id destination
  | configure hp hg alike receiving =>
    refine updatePinger _ _ fun other hother => ?_
    obtain rfl := Option.some.inj (hp.symm.trans hother)
    exact alike.socket
  | ping hk sequence caller => exact ping _ _ _
  | closeSocket hraw => exact one (.closeSocket _ _)
  | closeHub id => exact closeHub id
  | releasePinger hk ht =>
    have hreleased : ∀ released, Hauls e { e with released } :=
      fun _ => beside { Beside.refl e with }
    exact (hreleased _).trans sweep
  | cancelSocket hraw => exact inward (.endReceive _ _)
  | deliver source data => exact inward (.deliver _ _)
  | schedule time source data => exact beside (.schedule rfl)
  | failReceives family errno only => exact inward (.failReceives _ _ _)
  | logLevel level => exact beside { Beside.refl e with }
  | logAbout address severity message => exact inward (.logAbout _ _ _)
  | serve service => exact beside { Beside.refl e with }

theorem outers (h : Outers e e') : Hauls e e' := h.lift .nil .trans fun _ => outer

end Hauls

end Engine

end IcmpEcho
