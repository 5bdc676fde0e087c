/-
# Chores

Most of what an engine does neither begins a round nor asks for a ping, and tells nobody: it meters
and hands over requests, receives datagrams, closes what is no longer needed, writes its log.
`Chore e e'` lists the single things of this kind, and `Chores` are a row of them.  Every function
that does no more than that is gone through once, here.

A relation between engines then has to be shown for the single chores only (`Chores.lift`).  What
they have in common: **no timer but that of a limiter is set**, no task becomes ready that begins a
round, brings a signal or refuses a ping, and a pinger keeps its identifier and its timeout.
-/
import IcmpEcho.Proofs.Inward

namespace IcmpEcho

variable {e e' e'' : Engine} {id : PingerId}

/-! ## 1. Single chores -/

/-- The task begins a round, or brings a signal. -/
def Task.isCue : Task → Bool
  | .rang .round code => code ≠ .aborted
  | .signalled code _ => !code.isError
  | _ => false

/-- A task that begins a round or brings a signal becomes ready with the item. -/
def Happening.isCue : Happening → Bool
  | .ring .round => true
  | .ready task => task.isCue
  | .signal _ => true
  | _ => false

/-- One chore. -/
inductive Chore : Engine → Engine → Prop
  | inward {e e' : Engine} (h : Inward e e') : Chore e e'
  | post {task : Task} (e : Engine) (hc : task.isCue = false) (hr : task.refusal? = none) :
    Chore e (e.post task)
  /-- A datagram is on its way. -/
  | deliver (e : Engine) (time : Time) (source : Address) (data : Bytes) :
    Chore e (e.schedule time (.deliver source data))
  /-- A send is to end later. -/
  | later (e : Engine) (time : Time) (client : SendClient) (code : ErrorCode) (count : Nat) :
    Chore e (e.schedule time (.ready (.sent client code count)))
  | cancel {alarm : Alarm} (e : Engine) (ha : alarm ≠ .round) : Chore e (e.cancelAlarm alarm)
  /-- A limiter goes to sleep. -/
  | sleep (e : Engine) (limiter : LimiterId) (wait : Time) :
    Chore e (e.ringAfter wait (.limiter limiter))
  /-- Sockets, limiters, mailboxes and hubs change, and what is seen and waited for. -/
  | parts (e : Engine) (journal : List Event) (sendCount : Nat) (logLevel : Int)
    (sockets : Array RawSocket) (limiters : Array (Option (Rate.Limiter Sender)))
    (mailboxes : Array (Mailbox Letter Reader)) (hubs : Array Hub) (released : List PingerId)
    (awaitsSignal : Bool) :
    Chore e { e with
      journal, sendCount, logLevel, sockets, limiters, mailboxes, hubs, released, awaitsSignal }
  /-- A pinger keeps its identifier and its timeout. -/
  | pinger {e : Engine} {id : PingerId} {change : Pinger → Pinger}
    (identifier : ∀ pinger, e.pingers[id]? = some pinger →
      (change pinger).identifier = pinger.identifier)
    (timeout : ∀ pinger, e.pingers[id]? = some pinger →
      (change pinger).timeout = pinger.timeout) : Chore e (e.updatePinger id change)
  | addPinger (e : Engine) (destination : Address) (socket : SocketId)
    (mailbox : Option MailboxId) : Chore e (e.addPinger destination socket mailbox).1

/-- One chore after another. -/
inductive Chores : Engine → Engine → Prop
  | nil (e : Engine) : Chores e e
  | cons {e e' e'' : Engine} (head : Chore e e') (rest : Chores e' e'') : Chores e e''

namespace Chores

theorem one (h : Chore e e') : Chores e e' := .cons h (.nil _)

theorem inward (h : Inward e e') : Chores e e' := one (.inward h)

/-- Two rows in one. -/
theorem trans (h : Chores e e') (h' : Chores e' e'') : Chores e e'' := by
  induction h with
  | nil => exact h'
  | cons head _ ih => exact .cons head (ih h')

theorem foldl {α : Type} {f : Engine → α → Engine} (hf : ∀ e a, Chores e (f e a)) (l : List α)
    (e : Engine) : Chores e (l.foldl f e) :=
  List.foldlRecOn l f (nil e) fun next h a _ => h.trans (hf next a)

/-- **What holds of every single chore holds of the row.** -/
theorem lift {R : Engine → Engine → Prop} (refl : ∀ e, R e e)
    (trans : ∀ {e e' e''}, R e e' → R e' e'' → R e e'')
    (single : ∀ {e e'}, Chore e e' → R e e') (h : Chores e e') : R e e' := by
  induction h with
  | nil => exact refl _
  | cons head _ ih => exact trans (single head) ih

/-! ## 2. Queues and parts -/

theorem post {task : Task} (hc : task.isCue = false) (hr : task.refusal? = none) :
    Chores e (e.post task) := one (.post e hc hr)

theorem cancelAlarm {alarm : Alarm} (ha : alarm ≠ .round) : Chores e (e.cancelAlarm alarm) :=
  one (.cancel e ha)

/-- The timer of a call is not that of a round. -/
theorem cancelCall (id : PingerId) (token : Token) (timer : TimerId) :
    Chores e (e.cancelAlarm (.call id token timer)) := cancelAlarm fun h => nomatch h

/-- A limiter is put to sleep, or sleeps longer. -/
theorem setAlarm (limiter : LimiterId) (wait : Time) :
    Chores e (e.setAlarm (.limiter limiter) wait) := by
  have hcancelled : Chores e (e.cancelAlarm (.limiter limiter)) := cancelAlarm (by simp)
  exact hcancelled.trans (one (.sleep _ limiter wait))

theorem record (event : Event) : Chores e (e.record event) := one (.parts e _ _ _ _ _ _ _ _ _)

theorem noteSend (socket : SocketId) (packet : Bytes) (destination : Address) :
    Chores e (e.noteSend socket packet destination) := one (.parts e _ _ _ _ _ _ _ _ _)

theorem setLimiter (limiter : LimiterId) (value : Rate.Limiter Sender) :
    Chores e (e.setLimiter limiter value) := one (.parts e _ _ _ _ _ _ _ _ _)

theorem updateSocket (socket : SocketId) (change : RawSocket → RawSocket) :
    Chores e (e.updateSocket socket change) := one (.parts e _ _ _ _ _ _ _ _ _)

/-- A pinger changes in something else than its identifier and its timeout. -/
theorem updatePinger (id : PingerId) {change : Pinger → Pinger}
    (identifier : ∀ pinger, (change pinger).identifier = pinger.identifier)
    (timeout : ∀ pinger, (change pinger).timeout = pinger.timeout) :
    Chores e (e.updatePinger id change) :=
  one (.pinger (fun _ _ => identifier _) fun _ _ => timeout _)

/-! ## 3. Sending -/

theorem scheduleAnswer (host : Host) (family : Family) (packet : Bytes) :
    Chores e (e.scheduleAnswer host family packet) := by
  unfold Engine.scheduleAnswer
  split
  · exact nil e
  · exact foldl (fun _ _ => one (.deliver _ _ _ _)) _ e

theorem completeSend (client : SendClient) (code : ErrorCode) (count : Nat) :
    Chores e (e.completeSend client code count) := by
  unfold Engine.completeSend
  split
  · exact post rfl rfl
  · exact one (.later _ _ _ _ _)

theorem transmit (socket : SocketId) (packet : Bytes) (destination : Address)
    (client : SendClient) : Chores e (e.transmit socket packet destination client) := by
  have hnoted : Chores e (e.noteSend socket packet destination) := noteSend _ _ _
  unfold Engine.transmit
  dsimp only
  split
  · exact hnoted.trans (completeSend _ _ _)
  · split
    · exact hnoted.trans (completeSend _ _ _)
    · exact (hnoted.trans (scheduleAnswer _ _ _)).trans (completeSend _ _ _)

/-- A datagram is handed over, and the end of its send is due. -/
theorem launch (socket : SocketId) (packet : Bytes) (destination : Address)
    (client : SendClient) : Chores e (e.launch socket packet destination client) := by
  unfold Engine.launch
  dsimp only
  split
  · exact post rfl rfl
  · exact transmit _ _ _ _

theorem acquireLabelled (limiter : LimiterId) :
    ∀ (again : Nat) (e : Engine) (label : String),
      Chores e (e.acquireLabelled limiter label again) := by
  intro again
  induction again with
  | zero =>
    intro e label
    unfold Engine.acquireLabelled
    split
    · exact nil e
    · dsimp only
      split
      · exact setLimiter _ _
      · exact (setLimiter _ _).trans (setAlarm _ _)
      · exact (setLimiter _ _).trans (record _)
  | succ again ih =>
    intro e label
    unfold Engine.acquireLabelled
    split
    · exact nil e
    · dsimp only
      split
      · exact setLimiter _ _
      · exact (setLimiter _ _).trans (setAlarm _ _)
      · exact ((setLimiter _ _).trans (record _)).trans (ih _ _)

theorem answerLabelled (limiter : LimiterId) (label : String) (again : Nat) (code : ErrorCode) :
    Chores e (e.answerLabelled limiter label again code) := by
  have hrecord : Chores e (e.record (.acquired e.now label code)) := record _
  unfold Engine.answerLabelled
  dsimp only
  split
  · exact hrecord
  · exact hrecord.trans (acquireLabelled _ _ _ _)

/-- **A request goes at once, waits for its limiter, or is turned away.** -/
theorem submit (socket : SocketId) (packet : Bytes) (destination : Address)
    (client : SendClient) : Chores e (e.submit socket packet destination client) := by
  unfold Engine.submit
  split
  · exact nil e
  · split
    · exact post rfl rfl
    · split
      · exact nil e
      · dsimp only
        split
        · exact setLimiter _ _
        · exact (setLimiter _ _).trans (setAlarm _ _)
        · exact (setLimiter _ _).trans (launch _ _ _ _)

theorem letGo (sender : Sender) : Chores e (e.letGo sender) := by
  cases sender with
  | datagram socket packet destination client => exact launch _ _ _ _
  | labelled limiter label again => exact answerLabelled _ _ _ _

/-- A limiter wakes and lets some of its senders go; then it sleeps again. -/
theorem wakeLimiter (limiter : LimiterId) : Chores e (e.wakeLimiter limiter) := by
  unfold Engine.wakeLimiter
  split
  · exact nil e
  · dsimp only
    refine Chores.trans ?_ (foldl (fun e sender => letGo sender) _ _)
    split
    · exact setLimiter _ _
    · exact (setLimiter _ _).trans (setAlarm _ _)

/-- All senders of a limiter are turned away. -/
theorem cancelLimiter (limiter : LimiterId) : Chores e (e.cancelLimiter limiter) := by
  unfold Engine.cancelLimiter
  split
  · exact nil e
  · exact ((cancelAlarm (by simp)).trans (setLimiter _ _)).trans
      (foldl (fun _ _ => post rfl rfl) _ _)

/-! ## 4. Sockets -/

/-- A socket fails, and says so in the log. -/
theorem failSocket (socket : SocketId) (code : ErrorCode) :
    Chores e (e.failSocket socket code) := by
  unfold Engine.failSocket
  split
  · exact nil e
  · exact (updateSocket _ _).trans (inward (.logDated _ _))

theorem receive (socket : SocketId) (client : ReceiveClient) (room : Nat) :
    Chores e (e.receive socket client room) := by
  unfold Engine.receive
  split
  · exact nil e
  · split
    · exact post rfl rfl
    · split
      · exact (updateSocket _ _).trans (post rfl rfl)
      · exact updateSocket _ _

/-- **A socket is closed**, with its limiter and its receive. -/
theorem closeSocket (socket : SocketId) : Chores e (e.closeSocket socket) := by
  unfold Engine.closeSocket
  split
  · exact nil e
  · next record _ =>
    have hfailed : Chores e (if record.fatal.isError then e
        else e.updateSocket socket fun record => { record with fatal := .aborted }) := by
      split
      · exact nil e
      · exact updateSocket _ _
    exact ((hfailed.trans (cancelLimiter _)).trans (inward (.endReceive _ _))).trans
      (updateSocket _ _)

theorem setUp (socket : SocketId) :
    ∀ (steps : List (SetupStage × SetupStep)) {e : Engine}, Chores e (e.setUp socket steps).1
  | [], _ => nil _
  | (stage, step) :: rest, e => by
    unfold Engine.setUp
    split
    · exact nil e
    · exact (record _).trans (setUp socket rest)

/-- A socket is opened and set up, or is left unopened. -/
theorem openSocket (settings : SocketSettings) : Chores e (e.openSocket settings).1 := by
  have hpushed : Chores e
      { e with
        sockets := e.sockets.push { family := settings.family, limiter := e.limiters.size }
        limiters := e.limiters.push none } := one (.parts e _ _ _ _ _ _ _ _ _)
  have hopened := hpushed.trans (setUp e.sockets.size [(.opening, .opened settings.family)])
  unfold Engine.openSocket
  dsimp only
  split
  · next hsetup =>
    rw [hsetup] at hopened
    exact hopened
  · next opened hsetup =>
    rw [hsetup] at hopened
    split
    · exact hopened
    · have hready := hopened.trans (setUp e.sockets.size settings.steps)
      split
      · next hsteps =>
        rw [hsteps] at hready
        exact hready
      · next ready hsteps =>
        rw [hsteps] at hready
        exact ((hready.trans (setLimiter _ _)).trans (updateSocket _ _)).trans
          (inward (.logDated _ _))

/-! ## 5. Mailboxes, hubs and pingers -/

theorem answerReader (box : MailboxId) (label : String) (again : Nat) (code : ErrorCode)
    (letter : Letter) : Chores e (e.answerReader box label again code letter) := by
  have hrecord : Chores e (e.record (.mail label code letter.time letter.packet)) := record _
  unfold Engine.answerReader
  dsimp only
  split
  · exact hrecord
  · exact hrecord.trans (inward (.askMail _ _))

/-- A pinger begins to wait. -/
theorem startReceive (id : PingerId) : Chores e (e.startReceive id) := by
  have hflagged : Chores e (e.updatePinger id fun pinger => { pinger with receiving := true }) :=
    updatePinger id (fun _ => rfl) fun _ => rfl
  unfold Engine.startReceive
  split
  · exact nil e
  · split
    · exact nil e
    · dsimp only
      split
      · exact hflagged.trans (inward (.askMail _ _))
      · exact hflagged.trans (receive _ _ _)

theorem refreshSent (id : PingerId) (token : Token) (timer : TimerId) :
    Chores e (e.refreshSent id token timer) := by
  unfold Engine.refreshSent
  split
  · exact nil e
  · exact updatePinger id (fun _ => rfl) fun _ => rfl

/-- A pinger goes, with its socket or its mailbox. -/
theorem removePinger (id : PingerId) : Chores e (e.removePinger id) := by
  have hgone : Chores e (e.updatePinger id fun pinger => { pinger with gone := true }) :=
    updatePinger id (fun _ => rfl) fun _ => rfl
  unfold Engine.removePinger
  split
  · exact nil e
  · dsimp only
    split
    · exact hgone.trans (inward (.closeMail _ _))
    · exact hgone.trans (closeSocket _)

theorem sweep : Chores e e.sweep := by
  have hreleased : ∀ released, Chores e { e with released } := fun _ =>
    one (.parts e _ _ _ _ _ _ _ _ _)
  exact (hreleased _).trans (foldl (fun _ _ => removePinger _) _ _)

theorem addPinger (destination : Address) (socket : SocketId) (mailbox : Option MailboxId) :
    Chores e (e.addPinger destination socket mailbox).1 := one (.addPinger e _ _ _)

theorem openHub (settings : SocketSettings) : Chores e (e.openHub settings).1 := by
  have hopened : Chores e (e.openSocket settings).1 := openSocket settings
  unfold Engine.openHub
  split
  · next hopen => rwa [hopen] at hopened
  · next opened socket hopen =>
    rw [hopen] at hopened
    exact hopened.trans (one (.parts opened _ _ _ _ _ _ _ _ _))

theorem createPinger (destination : Address) (settings : SocketSettings) :
    Chores e (e.createPinger destination settings).1 := by
  have hopened : Chores e (e.openSocket { settings with family := destination.family }).1 :=
    openSocket _
  unfold Engine.createPinger
  split
  · next hopen => rwa [hopen] at hopened
  · next hopen =>
    rw [hopen] at hopened
    exact hopened.trans (addPinger _ _ _)

/-- **A registration** adds a mailbox and a pinger. -/
theorem register (id : HubId) (destination : Address) :
    Chores e (e.register id destination).1 := by
  have hboxed : Chores e (e.addMailbox 100).1 := one (.parts e _ _ _ _ _ _ _ _ _)
  unfold Engine.register
  split
  · exact nil e
  · split
    · exact nil e
    · split
      · exact nil e
      · exact ((hboxed.trans (inward (.enterRegistration _ _ _ _))).trans
          (inward (.startHub _))).trans (addPinger _ _ _)

end Chores

end IcmpEcho
