/-
# Times and codes in order

A call carries the time at which its ping was asked for and the time at which its request left; its
timer is set for a time of its own; and whatever ends it brings a code.  An engine is `Punctual`
since a time when all of these are in order:

* the clock does not stand before that time;
* no request left before its ping was asked for, and none leaves later than now;
* no timer of a call is set for a time before the one to which its ping wanted to wait, and none
  has rung before it (`Engine.Due`);
* no task but the timer of a call brings the code of a timeout, because no socket and no mailbox
  ever fails with it.

**Whatever an engine does keeps it punctual**, as long as no timer rings before its time and the
clock is not turned back.  Each function is gone through once: here those of sending, of sockets and
of mailboxes, in `PunctualTasks` those that deal with pings.
-/
import IcmpEcho.Proofs.Growing

namespace IcmpEcho

/-! ## 1. What is in order -/

/-- The code does not say that a reply was waited for in vain. -/
def ErrorCode.Plain (code : ErrorCode) : Prop := code ≠ PingFault.timeout.code

theorem ErrorCode.Plain.system (value : Int) : (ErrorCode.system value).Plain := by
  intro h
  cases h

theorem ErrorCode.Plain.fault {fault : PingFault} (h : fault ≠ .timeout) : fault.code.Plain := by
  cases fault with
  | timeout => exact absurd rfl h
  | _ => exact fun heq => nomatch heq

namespace Engine

/-- The timer of a ping may ring at this time: the reply was waited for as long as was asked, or
until the end of the clock. -/
def Due (e : Engine) (timer : TimerId) (time : Time) : Prop :=
  timer < e.nextPing ∧
    ∀ ping ∈ e.pings, ping.number = timer → min (ping.asked + ping.timeout) endOfTime ≤ time

/-- A task comes no earlier than it should, with a code that it may bring. -/
def Fair (e : Engine) : Task → Prop
  | .rang (.call _ _ timer) code => code ≠ .aborted → e.Due timer e.now
  | .sent _ code _ => code.Plain
  | .received _ _ code _ _ => code.Plain
  | .noReceive _ code => code.Plain
  | .mail _ code _ => code.Plain
  | .noPing _ _ _ code _ => code.Plain
  | _ => True

/-- An item stands at no earlier time than it should.  Of tasks only the ends of sends are put
off. -/
def OnTime (e : Engine) (time : Time) : Happening → Prop
  | .ring (.call _ _ timer) => e.Due timer time
  | .ready (.sent _ code _) => code.Plain
  | .ready _ => False
  | _ => True

/-- **Times and codes are in order**, since a time that is past. -/
structure Punctual (start : Time) (e : Engine) : Prop where
  since : start ≤ e.now
  calls : ∀ (id : PingerId) (pinger : Pinger), e.pingers[id]? = some pinger →
    ∀ call ∈ pinger.calls, call.queued ≤ call.sent ∧ call.sent ≤ e.now
  pings : ∀ ping ∈ e.pings, ping.number < e.nextPing
  timeline : ∀ entry ∈ e.timeline, e.OnTime entry.1 entry.2
  ready : ∀ task ∈ e.ready, e.Fair task
  sockets : ∀ (socket : SocketId) (record : RawSocket), e.sockets[socket]? = some record →
    record.fatal.Plain
  boxes : ∀ (box : MailboxId) (value : Mailbox Letter Reader), e.mailboxes[box]? = some value →
    value.reason.Plain

namespace Punctual

variable {start : Time} {e : Engine}

/-- What a socket has failed of is plain, also if there is no such socket. -/
theorem fatalOf (h : Punctual start e) (socket : SocketId) : (e.fatalOf socket).Plain := by
  unfold Engine.fatalOf
  split
  · next record hrecord => exact h.sockets socket record hrecord
  · exact .system 125

theorem foldl {α : Type} {f : Engine → α → Engine}
    (hf : ∀ e a, Punctual start e → Punctual start (f e a))
    (l : List α) (h : Punctual start e) : Punctual start (l.foldl f e) :=
  List.foldlRecOn (motive := Punctual start) l f h fun next h a _ => hf next a h

/-! ## 2. Queues and timeline -/

/-- A fair task becomes ready. -/
theorem post (h : Punctual start e) {task : Task} (ht : e.Fair task) :
    Punctual start (e.post task) := by
  refine { h with ready := ?_ }
  intro other hother
  rcases List.mem_append.1 hother with hold | hnew
  · exact h.ready other hold
  · obtain rfl := List.mem_singleton.1 hnew
    exact ht

/-- An item is put on the timeline at a time that is not too early for it. -/
theorem schedule (h : Punctual start e) {time : Time} {item : Happening} (hi : e.OnTime time item) :
    Punctual start (e.schedule time item) := by
  refine { h with timeline := ?_ }
  intro entry hentry
  rcases mem_insertAt.1 hentry with rfl | hold
  · exact hi
  · exact h.timeline entry hold

/-- A timer that is cancelled tells that it was, so its task is fair whenever it comes. -/
theorem cancelAlarm (h : Punctual start e) (alarm : Alarm) :
    Punctual start (e.cancelAlarm alarm) := by
  unfold Engine.cancelAlarm
  split
  · have hoff : Punctual start
        { e with timeline := e.timeline.filter fun entry => entry.2 ≠ .ring alarm } := by
      refine { h with timeline := ?_ }
      intro entry hentry
      exact h.timeline entry (List.mem_filter.1 hentry).1
    refine hoff.post ?_
    cases alarm with
    | call id token timer => exact fun hne => absurd rfl hne
    | limiter limiter => trivial
    | round => trivial
  · exact h

/-- A timer of a call is set for a time at which its ping has waited long enough. -/
theorem ringAfter (h : Punctual start e) {wait : Time} {alarm : Alarm}
    (ha : e.OnTime (min (e.now + wait) endOfTime) (.ring alarm)) :
    Punctual start (e.ringAfter wait alarm) := h.schedule ha

/-- Limiters may be woken at any time. -/
theorem setLimiterAlarm (h : Punctual start e) (limiter : LimiterId) (wait : Time) :
    Punctual start (e.setAlarm (.limiter limiter) wait) := (h.cancelAlarm _).ringAfter trivial

/-- So may the service. -/
theorem setRoundAlarm (h : Punctual start e) (wait : Time) :
    Punctual start (e.setAlarm .round wait) :=
  (h.cancelAlarm _).ringAfter trivial

/-! ## 3. What is seen and logged -/

theorem record (h : Punctual start e) (event : Event) :
    Punctual start (e.record event) := { h with }

theorem log (h : Punctual start e) (severity : Severity) (message : String) :
    Punctual start (e.log severity message) := by
  unfold Engine.log
  split
  · exact h
  · dsimp only
    split
    · exact h.record _
    · exact { h with }

theorem logDated (h : Punctual start e) (severity : Severity) (message : String) :
    Punctual start (e.logDated severity message) := by
  unfold Engine.logDated
  split
  · exact h
  · exact h.log _ _

theorem logAbout (h : Punctual start e) (address : Address) (severity : Severity)
    (message : String) :
    Punctual start (e.logAbout address severity message) := by
  unfold Engine.logAbout
  split
  · exact h
  · exact h.logDated _ _

theorem logMalformed (h : Punctual start e) (source : Address) (decoded : Decoded) :
    Punctual start (e.logMalformed source decoded) := by
  unfold Engine.logMalformed
  split
  · exact h.logAbout _ _ _
  · exact h

/-! ## 4. Sending -/

theorem setLimiter (h : Punctual start e) (limiter : LimiterId) (value : Rate.Limiter Sender) :
    Punctual start (e.setLimiter limiter value) := { h with }

theorem scheduleAnswer (h : Punctual start e) (host : Host) (family : Family) (packet : Bytes) :
    Punctual start (e.scheduleAnswer host family packet) := by
  unfold Engine.scheduleAnswer
  split
  · exact h
  · refine foldl ?_ _ h
    intro e datagram h
    exact h.schedule trivial

/-- The end of a send is told at once or put off, with the code of the system. -/
theorem completeSend (h : Punctual start e) (client : SendClient) {code : ErrorCode}
    (hcode : code.Plain) (count : Nat) : Punctual start (e.completeSend client code count) := by
  unfold Engine.completeSend
  split
  · exact h.post hcode
  · exact h.schedule hcode

theorem transmit (h : Punctual start e) (socket : SocketId) (packet : Bytes) (destination : Address)
    (client : SendClient) : Punctual start (e.transmit socket packet destination client) := by
  have hnoted : Punctual start (e.noteSend socket packet destination) := { h with }
  unfold Engine.transmit
  dsimp only
  split
  · exact hnoted.completeSend _ (.system _) _
  · split
    · exact hnoted.completeSend _ (.system 0) _
    · exact (hnoted.scheduleAnswer _ _ _).completeSend _ (.system 0) _

theorem launch (h : Punctual start e) (socket : SocketId) (packet : Bytes) (destination : Address)
    (client : SendClient) : Punctual start (e.launch socket packet destination client) := by
  unfold Engine.launch
  dsimp only
  split
  · exact h.post (h.fatalOf socket)
  · exact h.transmit _ _ _ _

theorem acquireLabelled (limiter : LimiterId) (again : Nat) :
    ∀ {e : Engine} (_ : Punctual start e) (label : String),
      Punctual start (e.acquireLabelled limiter label again) := by
  induction again with
  | zero =>
    intro e h label
    unfold Engine.acquireLabelled
    split
    · exact h
    · dsimp only
      split
      · exact h.setLimiter _ _
      · exact (h.setLimiter _ _).setLimiterAlarm _ _
      · exact (h.setLimiter _ _).record _
  | succ again ih =>
    intro e h label
    unfold Engine.acquireLabelled
    split
    · exact h
    · dsimp only
      split
      · exact h.setLimiter _ _
      · exact (h.setLimiter _ _).setLimiterAlarm _ _
      · exact ih ((h.setLimiter _ _).record _) _

theorem answerLabelled (h : Punctual start e) (limiter : LimiterId) (label : String) (again : Nat)
    (code : ErrorCode) : Punctual start (e.answerLabelled limiter label again code) := by
  unfold Engine.answerLabelled
  dsimp only
  split
  · exact h.record _
  · exact acquireLabelled _ _ (h.record _) _

theorem submit (h : Punctual start e) (socket : SocketId) (packet : Bytes) (destination : Address)
    (client : SendClient) : Punctual start (e.submit socket packet destination client) := by
  unfold Engine.submit
  split
  · exact h
  · next record hrecord =>
    split
    · exact h.post (h.sockets socket record hrecord)
    · split
      · exact h
      · dsimp only
        split
        · exact h.setLimiter _ _
        · exact (h.setLimiter _ _).setLimiterAlarm _ _
        · exact (h.setLimiter _ _).launch _ _ _ _

theorem letGo (h : Punctual start e) (sender : Sender) : Punctual start (e.letGo sender) := by
  cases sender with
  | datagram socket packet destination client => exact h.launch _ _ _ _
  | labelled limiter label again => exact h.answerLabelled _ _ _ _

theorem wakeLimiter (h : Punctual start e) (limiter : LimiterId) :
    Punctual start (e.wakeLimiter limiter) := by
  unfold Engine.wakeLimiter
  split
  · exact h
  · refine foldl (fun _ sender h => h.letGo sender) _ ?_
    split
    · exact h.setLimiter _ _
    · exact (h.setLimiter _ _).setLimiterAlarm _ _

theorem cancelLimiter (h : Punctual start e) (limiter : LimiterId) :
    Punctual start (e.cancelLimiter limiter) := by
  unfold Engine.cancelLimiter
  split
  · exact h
  · refine foldl ?_ _ ((h.cancelAlarm _).setLimiter _ _)
    intro e sender h
    exact h.post trivial

/-! ## 5. Sockets -/

/-- A socket changes, and what it has failed of stays plain. -/
theorem modifySocket (h : Punctual start e) (socket : SocketId) {change : RawSocket → RawSocket}
    (hc : ∀ record, record.fatal.Plain → (change record).fatal.Plain) :
    Punctual start (e.updateSocket socket change) := by
  refine { h with sockets := ?_ }
  intro other record hrecord
  simp only [Engine.updateSocket, Array.getElem?_modify] at hrecord
  split at hrecord
  · obtain ⟨old, hold, rfl⟩ := Option.map_eq_some_iff.1 hrecord
    exact hc old (h.sockets other old (by simpa using hold))
  · exact h.sockets other record hrecord

/-- A socket that changes without failing. -/
theorem updateSocket (h : Punctual start e) (socket : SocketId) {change : RawSocket → RawSocket}
    (hc : ∀ record, (change record).fatal = record.fatal) :
    Punctual start (e.updateSocket socket change) := by
  refine h.modifySocket socket ?_
  intro record hplain
  rw [hc]
  exact hplain

theorem setUp (socket : SocketId) (steps : List (SetupStage × SetupStep)) :
    ∀ {e : Engine}, Punctual start e → Punctual start (e.setUp socket steps).1 := by
  induction steps with
  | nil =>
    intro e h
    exact h
  | cons step rest ih =>
    intro e h
    unfold Engine.setUp
    split
    · exact h
    · exact ih (h.record _)

theorem openSocket (h : Punctual start e) (settings : SocketSettings) :
    Punctual start (e.openSocket settings).1 := by
  have hpush : Punctual start
      { e with
        sockets := e.sockets.push { family := settings.family, limiter := e.limiters.size }
        limiters := e.limiters.push none } := by
    refine { h with sockets := ?_ }
    intro socket record hrecord
    rcases Array.getElem?_push_cases e.sockets _ socket with hsame | ⟨-, hnew⟩
    · exact h.sockets socket record (hsame ▸ hrecord)
    · obtain rfl := Option.some.inj (hnew.symm.trans hrecord)
      exact .system 0
  have hopened := setUp e.sockets.size [(.opening, .opened settings.family)] hpush
  unfold Engine.openSocket
  dsimp only
  split
  · next hsetup =>
    rw [hsetup] at hopened
    exact hopened
  · next opened hsetup =>
    rw [hsetup] at hopened
    split
    · exact hopened
    · have hready := setUp e.sockets.size settings.steps hopened
      split
      · next hsteps =>
        rw [hsteps] at hready
        exact hready
      · next ready hsteps =>
        rw [hsteps] at hready
        refine Punctual.logDated (Punctual.updateSocket (hready.setLimiter _ _) _ ?_) _ _
        intro record
        rfl

theorem receive (h : Punctual start e) (socket : SocketId) (client : ReceiveClient) (room : Nat) :
    Punctual start (e.receive socket client room) := by
  unfold Engine.receive
  split
  · exact h
  · next record hrecord =>
    split
    · exact h.post (h.sockets socket record hrecord)
    · split
      · refine Punctual.post (Punctual.updateSocket h _ ?_) ?_
        · exact fun _ => rfl
        · exact .system 0
      · exact h.updateSocket _ fun _ => rfl

/-- A receive ends with the code that it is given. -/
theorem endReceive (h : Punctual start e) (socket : SocketId) {code : ErrorCode}
    (hcode : code.Plain) :
    Punctual start (e.endReceive socket code) := by
  unfold Engine.endReceive
  split
  · refine Punctual.post (Punctual.updateSocket h _ ?_) ?_
    · exact fun _ => rfl
    · exact hcode
  · exact h

theorem deliverTo (h : Punctual start e) (source : Address) (data : Bytes) (socket : SocketId) :
    Punctual start (e.deliverTo source data socket) := by
  unfold Engine.deliverTo
  split
  · exact h
  · split
    · exact h
    · split
      · refine Punctual.post (Punctual.updateSocket h _ ?_) ?_
        · exact fun _ => rfl
        · exact .system 0
      · exact h.updateSocket _ fun _ => rfl

theorem deliver (h : Punctual start e) (source : Address) (data : Bytes) :
    Punctual start (e.deliver source data) :=
  foldl (fun _ socket h => h.deliverTo source data socket) _ { h with }

theorem failReceives (h : Punctual start e) (family : Family) (errno : Int) (only : Option SocketId) :
    Punctual start (e.failReceives family errno only) := by
  refine foldl ?_ _ h
  intro e socket h
  split
  · exact h
  · split
    · exact h.endReceive _ (.system errno)
    · exact h

/-- **A socket fails of what its receive failed of.** -/
theorem failSocket (h : Punctual start e) (socket : SocketId) {code : ErrorCode}
    (hcode : code.Plain) :
    Punctual start (e.failSocket socket code) := by
  unfold Engine.failSocket
  split
  · exact h
  · exact (h.modifySocket _ fun _ _ => hcode).logDated _ _

theorem cancelSocket (h : Punctual start e) (socket : SocketId) :
    Punctual start (e.cancelSocket socket) :=
  h.endReceive _ (.system 125)

/-- A socket that is closed was aborted, and so are those who wait there. -/
theorem closeSocket (h : Punctual start e) (socket : SocketId) :
    Punctual start (e.closeSocket socket) := by
  unfold Engine.closeSocket
  split
  · exact h
  · next record hrecord =>
    have hfailed : Punctual start (if record.fatal.isError then e
        else e.updateSocket socket fun record => { record with fatal := .aborted }) := by
      split
      · exact h
      · exact h.modifySocket _ fun _ _ => .system 125
    exact ((hfailed.cancelLimiter _).endReceive _ (.system 125)).updateSocket _
      fun _ => rfl

/-! ## 6. Mailboxes -/

theorem addMailbox (h : Punctual start e) (capacity : Nat) :
    Punctual start (e.addMailbox capacity).1 := by
  refine { h with boxes := ?_ }
  intro box value hvalue
  rcases Array.getElem?_push_cases e.mailboxes { capacity } box with hsame | ⟨-, hnew⟩
  · exact h.boxes box value (hsame ▸ hvalue)
  · obtain rfl := Option.some.inj (hnew.symm.trans hvalue)
    exact .system 0

/-- A mailbox changes, and its reason stays plain. -/
theorem setMailbox (h : Punctual start e) (box : MailboxId) {value : Mailbox Letter Reader}
    (hvalue : value.reason.Plain) : Punctual start (e.setMailbox box value) := by
  refine { h with boxes := ?_ }
  intro other value' hvalue'
  simp only [Engine.setMailbox, Array.getElem?_modify] at hvalue'
  split at hvalue'
  · obtain ⟨_, -, rfl⟩ := Option.map_eq_some_iff.1 hvalue'
    exact hvalue
  · exact h.boxes other value' hvalue'

theorem offerMail (h : Punctual start e) (box : MailboxId) (letter : Letter) :
    Punctual start (e.offerMail box letter).1 := by
  unfold Engine.offerMail
  split
  · exact h
  · next value hvalue =>
    have hplain := h.boxes box value hvalue
    rcases value.offer_cases letter with ⟨-, hoffer⟩ | ⟨-, reader, -, hoffer⟩ | ⟨-, -, -, hoffer⟩
    · rw [hoffer]
      exact h.setMailbox _ hplain
    · rw [hoffer]
      refine Punctual.post (Punctual.setMailbox h _ ?_) ?_
      · exact hplain
      · exact .system 0
    · rw [hoffer]
      exact h.setMailbox _ hplain

/-- A reader that asks too late is told the reason of the mailbox. -/
theorem askMail (h : Punctual start e) (box : MailboxId) (reader : Reader) :
    Punctual start (e.askMail box reader) := by
  unfold Engine.askMail
  split
  · exact h
  · next value hvalue =>
    have hplain := h.boxes box value hvalue
    rcases value.receive_cases reader with ⟨letter, rest, -, hreceipt⟩ | ⟨-, -, hreceipt⟩ |
      ⟨-, -, hreceipt⟩
    · rw [hreceipt]
      refine Punctual.post (Punctual.setMailbox h _ ?_) ?_
      · exact hplain
      · exact .system 0
    · rw [hreceipt]
      refine Punctual.post (Punctual.setMailbox h _ ?_) ?_
      · exact hplain
      · exact hplain
    · rw [hreceipt]
      exact h.setMailbox _ hplain

/-- **A mailbox is closed by the reason that its reader is told.** -/
theorem closeMail (h : Punctual start e) (box : MailboxId) {reason : ErrorCode}
    (hreason : reason.Plain) :
    Punctual start (e.closeMail box reason) := by
  unfold Engine.closeMail
  split
  · exact h
  · next value hvalue =>
    have hplain := h.boxes box value hvalue
    rcases value.close_cases reason with ⟨-, hclose⟩ | ⟨-, hclose⟩
    · rw [hclose]
      exact h.setMailbox _ hplain
    · rw [hclose]
      dsimp only
      split
      · refine (h.setMailbox _ hreason).post ?_
        exact hreason
      · exact h.setMailbox _ hreason

theorem answerReader (h : Punctual start e) (box : MailboxId) (label : String) (again : Nat)
    (code : ErrorCode) (letter : Letter) :
    Punctual start (e.answerReader box label again code letter) := by
  unfold Engine.answerReader
  dsimp only
  split
  · exact h.record _
  · exact (h.record _).askMail _ _

end Punctual

end Engine

end IcmpEcho
