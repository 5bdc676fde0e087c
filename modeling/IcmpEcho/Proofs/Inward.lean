/-
# What goes on where datagrams come in

Sockets take datagrams and hand them to receives, hubs offer them to mailboxes, and mailboxes are
closed.  None of this sends, sets a timer, tells a caller or counts for the service: `Inward e e'`
says that `e'` differs from `e` in sockets, mailboxes and hubs only, and that

* the tasks it made ready end receives, and come after those that were ready;
* the journal shows lines of the log, and nothing else that is new;
* **no pinger waits at a socket that did not wait there**, and no socket fails.

Starting the receive of a pinger is not among this.  Neither are failing a socket and closing it;
closing also turns away what the limiter of the socket holds.
-/
import IcmpEcho.Proofs.Ledger

namespace IcmpEcho

variable {e e' e'' : Engine} {socket : SocketId} {box : MailboxId} {id : HubId}

/-! ## 1. The relation -/

/-- `b` is a later state of socket `a`; it still sends through the same limiter, and no pinger has
begun to wait. -/
structure RawSocket.Follows (a b : RawSocket) : Prop where
  family : b.family = a.family
  isOpen : b.isOpen = a.isOpen
  limiter : b.limiter = a.limiter
  fatal : b.fatal = a.fatal
  waits : ∀ id, b.receiver.map Prod.fst = some (.pinger id) →
    a.receiver.map Prod.fst = some (.pinger id)

/-- `e'` comes from `e` by what sockets, mailboxes and hubs do with what comes in. -/
structure Inward (e e' : Engine) : Prop where
  network : e'.network = e.network
  now : e'.now = e.now
  stopped : e'.stopped = e.stopped
  timeline : e'.timeline = e.timeline
  limiters : e'.limiters = e.limiters
  pingers : e'.pingers = e.pingers
  nextPing : e'.nextPing = e.nextPing
  pings : e'.pings = e.pings
  endings : e'.endings = e.endings
  nextIdentifier : e'.nextIdentifier = e.nextIdentifier
  released : e'.released = e.released
  service : e'.service = e.service
  awaitsSignal : e'.awaitsSignal = e.awaitsSignal
  output : e'.output = e.output
  ready : ∃ tasks, e'.ready = e.ready ++ tasks ∧ ∀ task ∈ tasks, task.listener?.isSome
  journal : ∃ lines : List String, e'.journal = lines.map Event.log ++ e.journal
  sockets : ∀ (socket : SocketId) (record' : RawSocket), e'.sockets[socket]? = some record' →
    ∃ record, e.sockets[socket]? = some record ∧ record.Follows record'
  socketCount : e'.sockets.size = e.sockets.size
  boxCount : e'.mailboxes.size = e.mailboxes.size
  hubCount : e'.hubs.size = e.hubs.size

/-- A socket follows itself. -/
theorem RawSocket.Follows.refl (record : RawSocket) : record.Follows record :=
  ⟨rfl, rfl, rfl, rfl, fun _ h => h⟩

theorem RawSocket.Follows.trans {a b c : RawSocket} (h : a.Follows b) (h' : b.Follows c) :
    a.Follows c where
  family := h'.family.trans h.family
  isOpen := h'.isOpen.trans h.isOpen
  limiter := h'.limiter.trans h.limiter
  fatal := h'.fatal.trans h.fatal
  waits id hw := h.waits id (h'.waits id hw)

namespace Inward

theorem refl (e : Engine) : Inward e e where
  network := rfl
  now := rfl
  stopped := rfl
  timeline := rfl
  limiters := rfl
  pingers := rfl
  nextPing := rfl
  pings := rfl
  endings := rfl
  nextIdentifier := rfl
  released := rfl
  service := rfl
  awaitsSignal := rfl
  output := rfl
  ready := ⟨[], by simp⟩
  journal := ⟨[], rfl⟩
  sockets _ record h := ⟨record, h, .refl record⟩
  socketCount := rfl
  boxCount := rfl
  hubCount := rfl

theorem trans (h : Inward e e') (h' : Inward e' e'') : Inward e e'' where
  network := h'.network.trans h.network
  now := h'.now.trans h.now
  stopped := h'.stopped.trans h.stopped
  timeline := h'.timeline.trans h.timeline
  limiters := h'.limiters.trans h.limiters
  pingers := h'.pingers.trans h.pingers
  nextPing := h'.nextPing.trans h.nextPing
  pings := h'.pings.trans h.pings
  endings := h'.endings.trans h.endings
  nextIdentifier := h'.nextIdentifier.trans h.nextIdentifier
  released := h'.released.trans h.released
  service := h'.service.trans h.service
  awaitsSignal := h'.awaitsSignal.trans h.awaitsSignal
  output := h'.output.trans h.output
  ready := by
    obtain ⟨tasks, htasks, hl⟩ := h.ready
    obtain ⟨tasks', htasks', hl'⟩ := h'.ready
    refine ⟨tasks ++ tasks', by rw [htasks', htasks, List.append_assoc], fun task ht => ?_⟩
    rcases List.mem_append.1 ht with ht | ht
    · exact hl task ht
    · exact hl' task ht
  journal := by
    obtain ⟨lines, hlines⟩ := h.journal
    obtain ⟨lines', hlines'⟩ := h'.journal
    exact ⟨lines' ++ lines, by rw [hlines', hlines, List.map_append, List.append_assoc]⟩
  sockets socket record'' hr := by
    obtain ⟨record', hr', hf'⟩ := h'.sockets socket record'' hr
    obtain ⟨record, hr, hf⟩ := h.sockets socket record' hr'
    exact ⟨record, hr, hf.trans hf'⟩
  socketCount := h'.socketCount.trans h.socketCount
  boxCount := h'.boxCount.trans h.boxCount
  hubCount := h'.hubCount.trans h.hubCount

theorem foldl {α : Type} {f : Engine → α → Engine} (hf : ∀ e a, Inward e (f e a)) (l : List α)
    (e : Engine) : Inward e (l.foldl f e) :=
  List.foldlRecOn (motive := Inward e) l f (refl e) fun next h a _ => h.trans (hf next a)

/-- **No pinger begins to wait at a socket.** -/
theorem waits (h : Inward e e') {pinger : PingerId}
    (hw : e'.waiter? (.socket socket) = some (.pinger pinger)) :
    e.waiter? (.socket socket) = some (.pinger pinger) := by
  cases hr : e'.sockets[socket]? with
  | none => simp [Engine.waiter?, hr] at hw
  | some record' =>
    obtain ⟨record, hold, hf⟩ := h.sockets socket record' hr
    rw [Engine.waiter?_socket hr] at hw
    rw [Engine.waiter?_socket hold]
    exact hf.waits pinger hw

/-! ## 2. Parts -/

/-- The end of a receive becomes ready. -/
theorem post {task : Task} (hl : task.listener?.isSome) : Inward e (e.post task) :=
  { refl e with ready := ⟨[task], rfl, by simpa using hl⟩ }

theorem updateSocket {change : RawSocket → RawSocket}
    (hc : ∀ record, e.sockets[socket]? = some record → record.Follows (change record)) :
    Inward e (e.updateSocket socket change) := by
  refine { refl e with sockets := ?_, socketCount := Array.size_modify }
  intro other record' hr
  simp only [Engine.updateSocket, Array.getElem?_modify] at hr
  split at hr
  · next heq =>
    subst heq
    obtain ⟨record, hold, rfl⟩ := Option.map_eq_some_iff.1 hr
    exact ⟨record, hold, hc record hold⟩
  · exact ⟨record', hr, .refl _⟩

theorem setMailbox (box : MailboxId) (value : Mailbox Letter Reader) :
    Inward e (e.setMailbox box value) :=
  { refl e with boxCount := Array.size_modify }

/-- Hubs may change in any way. -/
theorem updateHub (id : HubId) (change : Hub → Hub) : Inward e (e.updateHub id change) :=
  { refl e with hubCount := Array.size_modify }

theorem log (severity : Severity) (message : String) : Inward e (e.log severity message) := by
  have hline : Inward e (e.record (.log message)) := { refl e with journal := ⟨[message], rfl⟩ }
  unfold Engine.log
  split
  · exact refl e
  · dsimp only
    split
    · exact hline
    · exact hline.trans { refl _ with }

theorem logDated (severity : Severity) (message : String) :
    Inward e (e.logDated severity message) := by
  unfold Engine.logDated
  split
  · exact refl e
  · exact log _ _

theorem logAbout (address : Address) (severity : Severity) (message : String) :
    Inward e (e.logAbout address severity message) := by
  unfold Engine.logAbout
  split
  · exact refl e
  · exact logDated _ _

theorem logMalformed (source : Address) (decoded : Decoded) :
    Inward e (e.logMalformed source decoded) := by
  unfold Engine.logMalformed
  split
  · exact logAbout _ _ _
  · exact refl e

/-! ## 3. Sockets -/

/-- **A receive that is no pinger's is started.** -/
theorem receive {client : ReceiveClient} (hc : ∀ pinger, client ≠ .pinger pinger) (room : Nat) :
    Inward e (e.receive socket client room) := by
  unfold Engine.receive
  split
  · exact refl e
  · split
    · exact post rfl
    · split
      · refine (updateSocket fun _ _ => ?_).trans (post rfl)
        exact ⟨rfl, rfl, rfl, rfl, fun _ h => h⟩
      · refine updateSocket fun _ _ => ⟨rfl, rfl, rfl, rfl, fun pinger h => ?_⟩
        exact absurd (Option.some.inj h) (hc pinger)

/-- A receive ends, if one waits. -/
theorem endReceive (socket : SocketId) (code : ErrorCode) :
    Inward e (e.endReceive socket code) := by
  unfold Engine.endReceive
  split
  · refine (updateSocket fun _ _ => ?_).trans (post rfl)
    exact ⟨rfl, rfl, rfl, rfl, fun _ h => nomatch h⟩
  · exact refl e

/-- A datagram comes to one socket: to the receive that waits there, or into its backlog. -/
theorem deliverTo (source : Address) (data : Bytes) (socket : SocketId) :
    Inward e (e.deliverTo source data socket) := by
  unfold Engine.deliverTo
  split
  · exact refl e
  · split
    · exact refl e
    · split
      · refine (updateSocket fun _ _ => ?_).trans (post rfl)
        exact ⟨rfl, rfl, rfl, rfl, fun _ h => nomatch h⟩
      · exact updateSocket fun _ _ => ⟨rfl, rfl, rfl, rfl, fun _ h => h⟩

/-- **A datagram comes in** at every socket of its family. -/
theorem deliver (source : Address) (data : Bytes) : Inward e (e.deliver source data) := by
  have harrived : Inward e { e with arrivals := (source, data) :: e.arrivals } := { refl e with }
  exact harrived.trans (foldl (fun _ socket => deliverTo source data socket) _ _)

theorem failReceives (family : Family) (errno : Int) (only : Option SocketId) :
    Inward e (e.failReceives family errno only) := by
  refine foldl (fun e socket => ?_) _ e
  split
  · exact refl e
  · split
    · exact endReceive _ _
    · exact refl e

/-! ## 4. Mailboxes and hubs -/

/-- An offer that finds a reader wakes it. -/
theorem offerMail (box : MailboxId) (letter : Letter) : Inward e (e.offerMail box letter).1 := by
  unfold Engine.offerMail
  split
  · exact refl e
  · dsimp only
    split
    · exact (setMailbox _ _).trans (post rfl)
    · exact setMailbox _ _
    · exact setMailbox _ _

theorem askMail (box : MailboxId) (reader : Reader) : Inward e (e.askMail box reader) := by
  unfold Engine.askMail
  split
  · exact refl e
  · dsimp only
    split
    · exact (setMailbox _ _).trans (post rfl)
    · exact (setMailbox _ _).trans (post rfl)
    · exact setMailbox _ _

/-- A mailbox is closed, and its reader told by a task. -/
theorem closeMail (box : MailboxId) (reason : ErrorCode) : Inward e (e.closeMail box reason) := by
  unfold Engine.closeMail
  split
  · exact refl e
  · dsimp only
    split
    · exact (setMailbox _ _).trans (post rfl)
    · exact setMailbox _ _

/-- All mailboxes of a hub are closed. -/
theorem closeRegistrations (id : HubId) (hub : Hub) (reason : ErrorCode) :
    Inward e (e.closeRegistrations id hub reason) :=
  (updateHub _ _).trans (foldl (fun _ _ => closeMail _ _) _ _)

theorem receiveForHub (id : HubId) (hub : Hub) : Inward e (e.receiveForHub id hub) :=
  receive (by simp) _

/-- A hub starts to receive, or closes its registrations if its socket has failed. -/
theorem startHub (id : HubId) : Inward e (e.startHub id) := by
  unfold Engine.startHub
  split
  · exact refl e
  · dsimp only
    split
    · exact closeRegistrations _ _ _
    · split
      · exact refl e
      · exact ((updateHub _ _).trans (logDated _ _)).trans (receiveForHub _ _)

theorem failHub (id : HubId) (hub : Hub) (code : ErrorCode) :
    Inward e (e.failHub id hub code) := by
  have hclosed : Inward e ((e.updateHub id fun hub =>
      { hub with running := false }).closeRegistrations id hub code) :=
    (updateHub _ _).trans (closeRegistrations _ _ _)
  unfold Engine.failHub
  dsimp only
  split
  · exact hclosed
  · exact hclosed.trans (logDated _ _)

/-- A hub gives up a mailbox that is full or closed, and stops or goes on. -/
theorem endRegistration (id : HubId) (hub : Hub) (source : Address) (box : MailboxId) :
    Inward e (e.endRegistration id hub source box) := by
  have hparted : ∀ change, Inward e
      (((e.closeMail box PingFault.registrationClosed.code).updateHub id change).logAbout source
        .info "delivery failed, registration removed") :=
    fun _ => ((closeMail _ _).trans (updateHub _ _)).trans (logAbout _ _ _)
  unfold Engine.endRegistration
  dsimp only
  split
  · exact (hparted _).trans (logDated _ _)
  · exact (hparted _).trans (receiveForHub _ _)

/-- **A hub that gets something stays inward.** -/
theorem hubReceived (id : HubId) (code : ErrorCode) (source : Address) (data : Bytes) :
    Inward e (e.hubReceived id code source data) := by
  unfold Engine.hubReceived
  split
  · exact refl e
  · split
    · exact failHub _ _ _
    · split
      · exact receiveForHub _ _
      · next box hbox =>
        have hoffered : Inward e (e.offerMail box { time := e.now, packet := data }).1 :=
          offerMail _ _
        split
        · next hoffer =>
          rw [hoffer] at hoffered
          exact hoffered.trans (receiveForHub _ _)
        · next hoffer =>
          rw [hoffer] at hoffered
          exact hoffered.trans (endRegistration _ _ _ _)

theorem enterRegistration (id : HubId) (hub : Hub) (destination : Address) (box : MailboxId) :
    Inward e (e.enterRegistration id hub destination box) := by
  unfold Engine.enterRegistration
  dsimp only
  split
  · exact updateHub _ _
  · exact ((updateHub _ _).trans (closeMail _ _)).trans (logAbout _ _ _)

end Inward

/-- What happens by itself reaches pingers through tasks only. -/
theorem Engine.pingers_happen (item : Happening) : (e.happen item).pingers = e.pingers := by
  cases item with
  | deliver source data => exact (Inward.deliver _ _).pingers
  | signal number =>
    unfold Engine.happen
    dsimp only
    split <;> rfl
  | _ => rfl

end IcmpEcho
