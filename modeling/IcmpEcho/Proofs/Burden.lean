/-
# How much work is left

A task that is performed may make others ready: a call that ends lets its caller ping again, a
closed socket turns its senders away, a letter that is read lets the next be asked for.  All of
this comes to an end by itself, in whatever order tasks are taken, because **every task lowers the
burden of the engine** (`Session.burden_lt`).

The burden weighs what can become a task without anything from outside: ready tasks, calls with
what their callers have yet to ask for, receives that wait, queued datagrams and letters, senders
that are held.  Timers weigh only as much as being told that they were cancelled: for one to ring,
time has to pass.  The weights are chosen along the functions of the engine: `Costs cost e e'` says
that `e'` comes from `e` and is heavier by at most `cost`, and a ping, which enters a call, sets a
timer, starts a receive and submits a request, costs 6 and what its caller goes on to ask for.
-/
import IcmpEcho.Proofs.SocketLife

namespace IcmpEcho

/-! ## 1. Weights -/

/-- A caller has the pings to come, each of which costs 6. -/
def Caller.weight : Caller → Nat
  | .scripted _ again => 6 * again.length
  | .target _ => 0

/-- To end a call takes its caller and, on an own socket, a receive that is given up. -/
def Call.weight (call : Call) : Nat := call.caller.weight + 1

namespace Pinger

def weight (pinger : Pinger) : Nat := (pinger.calls.map Call.weight).sum

end Pinger

/-- What a timer costs when it rings. -/
def Alarm.weight (targets : Nat) : Alarm → Nat
  | .call _ _ _ => 1
  | .limiter _ => 2
  | .round => 6 * targets + 2

/-- What can come of a task. -/
def Task.weight (targets : Nat) : Task → Nat
  | .rang alarm code => if code = .aborted then 1 else alarm.weight targets
  | .turnedAway _ => 1
  | .sent _ _ _ => 1
  | .received _ _ code _ _ => if code.isError then 2 else 6
  | .noReceive _ _ => 2
  | .mail _ code _ => if code.isError then 2 else 3
  | .noPing _ _ caller _ _ => caller.weight + 1
  | .signalled _ _ => 1

/-- A timer may be cancelled; nothing else on the timeline becomes a task before time passes. -/
def Happening.weight : Happening → Nat
  | .ring _ => 1
  | _ => 0

def RawSocket.weight (record : RawSocket) : Nat :=
  6 * record.backlog.length + record.receiver.isSome.toNat

def Mailbox.weight (value : Mailbox Letter Reader) : Nat :=
  3 * value.queue.length + 2 * value.receiver.isSome.toNat

/-- The senders that a limiter holds, each of which is told once. -/
def heldWeight (slot : Option (Rate.Limiter Sender)) : Nat :=
  ((slot.map Rate.Limiter.held).getD []).length

/-- The weights of all parts. -/
def weights {α : Type} (weight : α → Nat) (parts : Array α) : Nat := (parts.toList.map weight).sum

/-- When one part is changed, the sum changes by as much. -/
theorem weights_modify {α : Type} (weight : α → Nat) {parts : Array α} {i : Nat} {old : α}
    (h : parts[i]? = some old) (change : α → α) :
    weights weight (parts.modify i change) + weight old
      = weights weight parts + weight (change old) := by
  have hlist : ∀ (l : List α) (i : Nat), l[i]? = some old →
      ((l.modify i change).map weight).sum + weight old
        = (l.map weight).sum + weight (change old) := by
    intro l
    induction l with
    | nil => simp
    | cons head rest ih =>
      intro i h
      cases i with
      | zero =>
        obtain rfl := Option.some.inj h
        simp only [List.modify_zero_cons, List.map_cons, List.sum_cons]
        omega
      | succ i =>
        have hrest := ih i h
        simp only [List.modify_succ_cons, List.map_cons, List.sum_cons]
        omega
  simpa only [weights, Array.toList_modify] using hlist parts.toList i (by simpa using h)

theorem weights_modify_of_none {α : Type} (weight : α → Nat) {parts : Array α} {i : Nat}
    (h : parts[i]? = none) (change : α → α) :
    weights weight (parts.modify i change) = weights weight parts := by
  have hsame : parts.modify i change = parts := by
    refine Array.ext_getElem? fun j => ?_
    rw [Array.getElem?_modify]
    split
    · next heq => rw [← heq, h, Option.map_none]
    · rfl
  rw [hsame]

/-- What is left out by a filter has its weight taken off. -/
theorem sum_filter_le {α : Type} (weight : α → Nat) (keeps : α → Bool) {a : α}
    (ha : keeps a = false) : ∀ {l : List α}, a ∈ l → ((l.filter keeps).map weight).sum + weight a ≤ (l.map weight).sum
  | head :: rest, hmem => by
    have hrest : ((rest.filter keeps).map weight).sum ≤ (rest.map weight).sum :=
      (List.filter_sublist.map weight).sum_le_sum fun _ _ => Nat.zero_le _
    simp only [List.map_cons, List.sum_cons]
    rcases List.mem_cons.1 hmem with rfl | hmem
    · rw [List.filter_cons_of_neg (by simp [ha])]
      omega
    · have ih := sum_filter_le weight keeps ha hmem
      rw [List.filter_cons]
      split
      · simp only [List.map_cons, List.sum_cons]
        omega
      · omega

namespace Engine

/-- The number of targets of the service. -/
def targetCount (e : Engine) : Nat := (e.service.map fun service => service.targets.size).getD 0

/-- **The burden of an engine.** -/
def burden (e : Engine) : Nat :=
  (e.ready.map (Task.weight e.targetCount)).sum
    + (e.timeline.map fun entry => entry.2.weight).sum
    + weights RawSocket.weight e.sockets + weights Mailbox.weight e.mailboxes
    + weights heldWeight e.limiters + weights Pinger.weight e.pingers
    + e.awaitsSignal.toNat + e.released.length

end Engine

/-- `e'` comes from `e` and is heavier by at most `cost`. -/
structure Costs (cost : Int) (e e' : Engine) : Prop where
  targets : e'.targetCount = e.targetCount
  burden : (e'.burden : Int) ≤ e.burden + cost

namespace Costs

variable {e e' e'' : Engine} {cost cost' : Int} {id : PingerId} {k : SocketId}

theorem trans (h : Costs cost e e') (h' : Costs cost' e' e'') : Costs (cost + cost') e e'' where
  targets := h'.targets.trans h.targets
  burden := by
    have h := h.burden
    have h' := h'.burden
    omega

theorem mono (h : Costs cost e e') (hle : cost ≤ cost') : Costs cost' e e' where
  targets := h.targets
  burden := by
    have h := h.burden
    omega

/-- One thing after another, at what both cost together. -/
theorem after {total : Int} (h : Costs cost e e') (h' : Costs cost' e' e'')
    (hle : cost + cost' ≤ total) : Costs total e e'' :=
  (h.trans h').mono hle

theorem refl (e : Engine) : Costs 0 e e := ⟨rfl, by omega⟩

theorem foldl {α : Type} {f : Engine → α → Engine} (weight : α → Nat) :
    ∀ (l : List α), (∀ a ∈ l, ∀ e, Costs (weight a) e (f e a)) → ∀ e,
      Costs ((l.map weight).sum : Nat) e (l.foldl f e)
  | [], _, e => .refl e
  | head :: rest, hf, e => by
    have hrest := foldl weight rest (fun a ha => hf a (List.mem_cons_of_mem _ ha)) (f e head)
    refine (hf head List.mem_cons_self e).after hrest ?_
    simp

/-! ## 2. Parts and queues -/

theorem post (task : Task) : Costs (task.weight e.targetCount) e (e.post task) where
  targets := rfl
  burden := by
    simp only [Engine.burden, Engine.post, Engine.targetCount, List.map_append, List.map_singleton,
      List.sum_append, List.sum_singleton]
    omega

theorem schedule (time : Time) (item : Happening) :
    Costs item.weight e (e.schedule time item) where
  targets := rfl
  burden := by
    have hsum : ((Engine.insertAt time item e.timeline).map fun entry => entry.2.weight).sum
        = item.weight + (e.timeline.map fun entry => entry.2.weight).sum :=
      ((Engine.insertAt_perm time item e.timeline).map _).sum_eq.trans (by simp)
    simp only [Engine.burden, Engine.schedule, Engine.targetCount, hsum]
    omega

theorem updateSocket {record : RawSocket} (h : e.sockets[k]? = some record)
    {change : RawSocket → RawSocket} (hle : ((change record).weight : Int) ≤ record.weight + cost) :
    Costs cost e (e.updateSocket k change) where
  targets := rfl
  burden := by
    have hsum := weights_modify RawSocket.weight h change
    simp only [Engine.burden, Engine.updateSocket, Engine.targetCount]
    omega

theorem updateEach {change : RawSocket → RawSocket}
    (hle : ∀ record, (change record).weight ≤ record.weight) :
    Costs 0 e (e.updateSocket k change) := by
  cases h : e.sockets[k]? with
  | some record => exact updateSocket h (by have := hle record; omega)
  | none =>
    refine ⟨rfl, ?_⟩
    simp only [Engine.burden, Engine.updateSocket, Engine.targetCount,
      weights_modify_of_none RawSocket.weight h]
    omega

theorem updatePinger {pinger : Pinger} (h : e.pingers[id]? = some pinger)
    {change : Pinger → Pinger} (hle : ((change pinger).weight : Int) ≤ pinger.weight + cost) :
    Costs cost e (e.updatePinger id change) where
  targets := rfl
  burden := by
    have hsum := weights_modify Pinger.weight h change
    simp only [Engine.burden, Engine.updatePinger, Engine.targetCount]
    omega

theorem setMailbox {box : MailboxId} {old value : Mailbox Letter Reader}
    (h : e.mailboxes[box]? = some old)
    (hle : (Mailbox.weight value : Int) ≤ Mailbox.weight old + cost) :
    Costs cost e (e.setMailbox box value) where
  targets := rfl
  burden := by
    have hsum := weights_modify Mailbox.weight h fun _ => value
    simp only [Engine.burden, Engine.setMailbox, Engine.targetCount]
    omega

theorem setLimiter {limiter : LimiterId} {old value : Rate.Limiter Sender}
    (h : e.limiter? limiter = some old)
    (hle : (value.held.length : Int) ≤ old.held.length + cost) :
    Costs cost e (e.setLimiter limiter value) where
  targets := rfl
  burden := by
    have hslot : e.limiters[limiter]? = some (some old) := Option.join_eq_some_iff.1 h
    have hsum := weights_modify heldWeight hslot fun _ => some value
    simp only [heldWeight, Option.map_some, Option.getD_some] at hsum
    simp only [Engine.burden, Engine.setLimiter, Engine.targetCount]
    omega

/-- What nobody weighs. -/
theorem of_same (h : e'.targetCount = e.targetCount) (ready : e'.ready = e.ready)
    (timeline : e'.timeline = e.timeline) (sockets : e'.sockets = e.sockets)
    (mailboxes : e'.mailboxes = e.mailboxes) (limiters : e'.limiters = e.limiters)
    (pingers : e'.pingers = e.pingers) (awaits : e'.awaitsSignal = e.awaitsSignal)
    (released : e'.released = e.released) : Costs 0 e e' where
  targets := h
  burden := by
    simp only [Engine.burden, h, ready, timeline, sockets, mailboxes, limiters, pingers, awaits,
      released]
    omega

theorem record (event : Event) : Costs 0 e (e.record event) :=
  of_same rfl rfl rfl rfl rfl rfl rfl rfl rfl

theorem log (severity : Severity) (message : String) : Costs 0 e (e.log severity message) := by
  unfold Engine.log
  split
  · exact refl e
  · dsimp only
    split
    · exact record _
    · exact of_same rfl rfl rfl rfl rfl rfl rfl rfl rfl

theorem logDated (severity : Severity) (message : String) :
    Costs 0 e (e.logDated severity message) := by
  unfold Engine.logDated
  split
  · exact refl e
  · exact log _ _

theorem logAbout (address : Address) (severity : Severity) (message : String) :
    Costs 0 e (e.logAbout address severity message) := by
  unfold Engine.logAbout
  split
  · exact refl e
  · exact logDated _ _

theorem logMalformed (source : Address) (decoded : Decoded) :
    Costs 0 e (e.logMalformed source decoded) := by
  unfold Engine.logMalformed
  split
  · exact logAbout _ _ _
  · exact refl e

theorem updateHub (hub : HubId) (change : Hub → Hub) : Costs 0 e (e.updateHub hub change) :=
  of_same rfl rfl rfl rfl rfl rfl rfl rfl rfl

theorem updateService (change : Service → Service)
    (h : ∀ service, (change service).targets.size = service.targets.size) :
    Costs 0 e (e.updateService change) := by
  refine of_same ?_ rfl rfl rfl rfl rfl rfl rfl rfl
  simp only [Engine.targetCount, Engine.updateService, Option.map_map]
  cases e.service with
  | none => rfl
  | some service => exact h service

/-- A timer that is cancelled is off the timeline before it is told so. -/
theorem cancelAlarm (alarm : Alarm) : Costs 0 e (e.cancelAlarm alarm) := by
  unfold Engine.cancelAlarm
  split
  · next hset =>
    obtain ⟨entry, hmem, hring⟩ := List.any_eq_true.1 hset
    have hring : entry.2 = .ring alarm := by simpa using hring
    have hless := sum_filter_le (fun entry : Time × Happening => entry.2.weight)
      (fun entry => decide (entry.2 ≠ .ring alarm)) (by simp [hring]) hmem
    refine ⟨rfl, ?_⟩
    have hring : entry.2.weight = 1 := by rw [hring]; rfl
    rw [hring] at hless
    simp only [Engine.burden, Engine.targetCount, List.map_append, List.map_singleton,
      List.sum_append, List.sum_singleton, Task.weight, if_true]
    omega
  · exact refl e

theorem ringAfter (wait : Time) (alarm : Alarm) : Costs 1 e (e.ringAfter wait alarm) :=
  (schedule (min (e.now + wait) endOfTime) (.ring alarm) : Costs _ e _)

theorem setAlarm (alarm : Alarm) (wait : Time) : Costs 1 e (e.setAlarm alarm wait) :=
  (cancelAlarm alarm).after (ringAfter wait alarm) (by omega)

/-! ## 3. Sending -/

theorem completeSend (client : SendClient) (code : ErrorCode) (count : Nat) :
    Costs 1 e (e.completeSend client code count) := by
  unfold Engine.completeSend
  split
  · exact post (.sent client code count)
  · exact (schedule _ (.ready (.sent client code count))).mono (by simp [Happening.weight])

theorem scheduleAnswer (host : Host) (family : Family) (packet : Bytes) :
    Costs 0 e (e.scheduleAnswer host family packet) := by
  unfold Engine.scheduleAnswer
  split
  · exact refl e
  · exact List.foldlRecOn _ _ (refl e) fun next h datagram _ =>
      h.after (schedule _ (.deliver host.source datagram)) (by simp [Happening.weight])

theorem launch (socket : SocketId) (packet : Bytes) (destination : Address) (client : SendClient) :
    Costs 1 e (e.launch socket packet destination client) := by
  unfold Engine.launch
  dsimp only
  split
  · exact post (.sent client (e.fatalOf socket) 0)
  · have hnoted : Costs 0 e (e.noteSend socket packet destination) := { refl e with }
    unfold Engine.transmit
    dsimp only
    split
    · exact hnoted.after (completeSend _ _ _) (by omega)
    · split
      · exact hnoted.after (completeSend _ _ _) (by omega)
      · exact (hnoted.trans (scheduleAnswer _ _ _)).after (completeSend _ _ _) (by omega)

/-- A sender that asks goes, or is one more that is held. -/
theorem length_acquire (value : Rate.Limiter Sender) (now : Time) (sender : Sender) :
    (value.acquire Engine.rounding now sender).1.held.length
        + (if (value.acquire Engine.rounding now sender).2 = .go then 1 else 0)
      = value.held.length + 1 := by
  unfold Rate.Limiter.acquire
  split
  · simp [Rate.Limiter.held]
    omega
  · next hsleeper =>
    have hnone : value.sleeper = none := by simpa using hsleeper
    dsimp only
    split
    · simp [Rate.Limiter.held]
    · simp [Rate.Limiter.held, hnone]

theorem submit (socket : SocketId) (packet : Bytes) (destination : Address) (client : SendClient) :
    Costs 2 e (e.submit socket packet destination client) := by
  unfold Engine.submit
  split
  · exact (refl e).mono (by decide)
  · next record _ =>
    split
    · exact (post (.sent client record.fatal 0)).mono (by simp [Task.weight])
    · split
      · exact (refl e).mono (by decide)
      · next value hvalue =>
        have hlength := length_acquire value e.now (.datagram socket packet destination client)
        cases hacquire : value.acquire Engine.rounding e.now
            (.datagram socket packet destination client) with
        | mk after admission =>
          simp only [hacquire] at hlength ⊢
          cases admission with
          | queue =>
            rw [if_neg (by simp)] at hlength
            exact setLimiter hvalue (by omega)
          | sleep wait =>
            rw [if_neg (by simp)] at hlength
            have hset : Costs 1 e (e.setLimiter record.limiter after) := setLimiter hvalue (by omega)
            exact hset.trans (setAlarm _ _)
          | go =>
            rw [if_pos rfl] at hlength
            have hset : Costs 0 e (e.setLimiter record.limiter after) := setLimiter hvalue (by omega)
            exact hset.after (launch _ _ _ _) (by omega)

/-- Every sender that is let go was held. -/
theorem wakeLimiter {limiter : LimiterId}
    (hsenders : ∀ sender ∈ e.heldIn limiter,
      ∃ k packet destination client, sender = .datagram k packet destination client) :
    Costs 1 e (e.wakeLimiter limiter) := by
  unfold Engine.wakeLimiter
  split
  · exact (refl e).mono (by decide)
  · next value hvalue =>
    rw [Engine.heldIn_of_some hvalue] at hsenders
    let wake := value.wake Engine.rounding e.now
    have hheld : wake.released ++ wake.limiter.held = value.held := by
      cases hsleeper : value.sleeper with
      | none => simp only [wake, Rate.Limiter.wake, hsleeper, List.nil_append]
      | some sleeper => exact value.wake_held Engine.rounding e.now (by simp [hsleeper])
    have hlength : wake.released.length + wake.limiter.held.length = value.held.length := by
      rw [← hheld, List.length_append]
    have hset : Costs (-wake.released.length) e (e.setLimiter limiter wake.limiter) :=
      setLimiter hvalue (by omega)
    have hgo : ∀ e : Engine, Costs wake.released.length e (wake.released.foldl Engine.letGo e) := by
      intro e
      refine (foldl (fun _ => 1) wake.released (fun sender hsender e => ?_) e).mono (by simp)
      obtain ⟨k, packet, destination, client, rfl⟩ :=
        hsenders sender (hheld ▸ List.mem_append_left _ hsender)
      exact launch _ _ _ _
    -- the limiter is put back, and a timer set for the next sleeper if there is one
    refine Costs.after (?_ : Costs (1 - wake.released.length) e _) (hgo _) (by omega)
    split
    · exact hset.mono (by omega)
    · exact hset.after (setAlarm _ _) (by omega)

theorem cancelLimiter (limiter : LimiterId) : Costs 0 e (e.cancelLimiter limiter) := by
  unfold Engine.cancelLimiter
  split
  · exact refl e
  · next value hvalue =>
    have hstill : (e.cancelAlarm (.limiter limiter)).limiter? limiter = some value := by
      rw [← hvalue]
      unfold Engine.cancelAlarm
      split <;> rfl
    have hgiven : Costs (-value.held.length) (e.cancelAlarm (.limiter limiter))
        ((e.cancelAlarm (.limiter limiter)).setLimiter limiter value.cancel.1) :=
      setLimiter hstill (by simp [Rate.Limiter.cancel, Rate.Limiter.held])
    have hset := (cancelAlarm (.limiter limiter)).trans hgiven
    have hturned : ∀ e : Engine, Costs value.held.length e
        (value.held.foldl (fun e sender => e.post (.turnedAway sender)) e) := fun e =>
      (foldl (fun _ => 1) value.held (fun sender _ e => post (.turnedAway sender)) e).mono (by simp)
    exact hset.after (hturned _) (by omega)

/-! ## 4. Receiving -/

/-- A receive on a failed socket is refused, which costs one more. -/
theorem receive (socket : SocketId) (client : ReceiveClient) (room : Nat) :
    Costs (1 + (e.fatalOf socket).isError.toNat) e (e.receive socket client room) := by
  unfold Engine.receive
  split
  · exact (refl e).mono (by omega)
  · next record hrecord =>
    simp only [Engine.fatalOf, hrecord]
    split
    · next hfailed =>
      rw [hfailed]
      exact post (.noReceive client record.fatal)
    · split
      · next datagram rest hbacklog =>
        have htaken : Costs (-6) e
            (e.updateSocket socket fun record => { record with backlog := rest }) :=
          updateSocket hrecord (by simp [RawSocket.weight, hbacklog]; omega)
        exact htaken.after (post (Engine.receipt socket client room datagram))
          (by simp [Engine.receipt, Task.weight]; omega)
      · exact updateSocket hrecord (by simp [RawSocket.weight]; omega)

/-- A receive that is given up is told so. -/
theorem cancelSocket (socket : SocketId) : Costs 1 e (e.cancelSocket socket) := by
  unfold Engine.cancelSocket Engine.endReceive
  split
  · next family isOpen fatal limiter backlog client room hrecord =>
    have hended : Costs (-1) e
        (e.updateSocket socket fun record => { record with receiver := none }) :=
      updateSocket hrecord (by simp [RawSocket.weight])
    exact hended.after (post (.received socket client .aborted .any [])) (by simp [Task.weight])
  · exact (refl e).mono (by decide)

theorem fail (socket : SocketId) (code : ErrorCode) :
    Costs 0 e (e.updateSocket socket fun record => { record with fatal := code }) :=
  updateEach fun _ => Nat.le_refl _

theorem failSocket (socket : SocketId) (code : ErrorCode) :
    Costs 0 e (e.failSocket socket code) := by
  unfold Engine.failSocket
  split
  · exact refl e
  · exact (fail _ _).trans (logDated _ _)

theorem closeSocket (socket : SocketId) : Costs 1 e (e.closeSocket socket) := by
  unfold Engine.closeSocket
  split
  · exact (refl e).mono (by decide)
  · next record _ =>
    have hfailed : ∀ works : Bool, Costs 0 e (if works then e
        else e.updateSocket socket fun record => { record with fatal := .aborted }) := by
      intro works
      cases works with
      | true => exact refl e
      | false => exact fail _ _
    have hshut : ∀ e : Engine, Costs 0 e
        (e.updateSocket socket fun record => { record with isOpen := false, backlog := [] }) :=
      fun e => updateEach fun record => by simp [RawSocket.weight]
    exact (((hfailed record.fatal.isError).trans (cancelLimiter _)).trans
      (cancelSocket _)).after (hshut _) (by omega)

/-! ## 5. Mailboxes and hubs -/

theorem askMail (box : MailboxId) (reader : Reader) : Costs 2 e (e.askMail box reader) := by
  unfold Engine.askMail
  split
  · exact (refl e).mono (by decide)
  · next old hold =>
    rcases old.receive_cases reader with
      ⟨letter, rest, hqueue, hrec⟩ | ⟨-, hclosed, hrec⟩ | ⟨-, -, hrec⟩ <;> simp only [hrec]
    · have htaken : Costs (-3) e (e.setMailbox box { old with queue := rest }) :=
        setMailbox hold (by simp [Mailbox.weight, hqueue]; omega)
      exact htaken.after (post (.mail reader .success letter)) (by simp [Task.weight])
    · have hkept : Costs 0 e (e.setMailbox box old) := setMailbox hold (by omega)
      have hreason : old.reason.isError = true := hclosed
      exact hkept.after (post (.mail reader old.reason {})) (by simp [Task.weight, hreason])
    · exact setMailbox hold (by simp [Mailbox.weight])

theorem offerMail (box : MailboxId) (letter : Letter) : Costs 3 e (e.offerMail box letter).1 := by
  unfold Engine.offerMail
  split
  · exact (refl e).mono (by decide)
  · next old hold =>
    rcases old.offer_cases letter with
      ⟨-, ho⟩ | ⟨-, reader, hreader, ho⟩ | ⟨-, -, -, ho⟩ <;> simp only [ho]
    · exact setMailbox hold (by omega)
    · have htaken : Costs (-2) e (e.setMailbox box { old with receiver := none }) :=
        setMailbox hold (by simp [Mailbox.weight, hreader])
      exact htaken.after (post (.mail reader .success letter)) (by simp [Task.weight])
    · exact setMailbox hold (by simp [Mailbox.weight]; omega)

/-- The receiver that waits at a mailbox is told when it is closed. -/
theorem closeMail (box : MailboxId) {reason : ErrorCode} (hr : reason.isError) :
    Costs 0 e (e.closeMail box reason) := by
  unfold Engine.closeMail
  split
  · exact refl e
  · next old hold =>
    rcases old.close_cases reason with ⟨-, hclose⟩ | ⟨-, hclose⟩ <;> simp only [hclose]
    · exact setMailbox hold (by omega)
    · cases hreceiver : old.receiver with
      | some reader =>
        have hclosed : Costs (-2) e (e.setMailbox box { old with reason, receiver := none }) :=
          setMailbox hold (by simp [Mailbox.weight, hreceiver])
        exact hclosed.after (post (.mail reader reason {})) (by simp [Task.weight, hr])
      | none => exact setMailbox hold (by simp [Mailbox.weight, hreceiver])

theorem closeRegistrations (hub : HubId) (old : Hub) {reason : ErrorCode} (hr : reason.isError) :
    Costs 0 e (e.closeRegistrations hub old reason) :=
  (updateHub _ _).after (foldl (fun _ => 0) _ (fun _ _ _ => closeMail _ hr) _) (by simp)

theorem receiveForHub (hub : HubId) (old : Hub) : Costs 2 e (e.receiveForHub hub old) :=
  (receive _ _ _).mono (by cases (e.fatalOf old.socket).isError <;> decide)

theorem failHub (hub : HubId) (old : Hub) {code : ErrorCode} (hcode : code.isError) :
    Costs 0 e (e.failHub hub old code) := by
  have hclosed := (updateHub (e := e) hub fun hub => { hub with running := false }).trans
    (closeRegistrations hub old hcode)
  unfold Engine.failHub
  split
  · exact hclosed
  · exact hclosed.trans (logDated _ _)

theorem endRegistration (hub : HubId) (old : Hub) (source : Address) (box : MailboxId) :
    Costs 2 e (e.endRegistration hub old source box) := by
  unfold Engine.endRegistration
  dsimp only
  have hclosed : Costs 0 e (e.closeMail box PingFault.registrationClosed.code) := closeMail box rfl
  have hended := fun left : List (Address × MailboxId) =>
    (hclosed.trans (updateHub hub fun hub => { hub with registry := left, running := !left.isEmpty })).trans
      (logAbout source .info "delivery failed, registration removed")
  split
  · exact (hended _).after (logDated _ _) (by omega)
  · exact (hended _).after (receiveForHub _ _) (by omega)

theorem hubReceived (hub : HubId) (code : ErrorCode) (source : Address) (data : Bytes) :
    Costs (if code.isError then 0 else 5) e (e.hubReceived hub code source data) := by
  unfold Engine.hubReceived
  cases hcode : code.isError with
  | true =>
    rw [if_pos rfl]
    split
    · exact refl e
    · exact failHub _ _ hcode
  | false =>
    rw [if_neg (by simp)]
    split
    · exact (refl e).mono (by decide)
    · next old _ =>
      rw [if_neg (by simp)]
      split
      · exact (receiveForHub _ _).mono (by decide)
      · next box _ =>
        have hoffered := offerMail (e := e) box { time := e.now, packet := data }
        cases hoffer : e.offerMail box { time := e.now, packet := data } with
        | mk offered taken =>
          rw [hoffer] at hoffered
          cases taken with
          | true => exact hoffered.trans (receiveForHub _ _)
          | false => exact hoffered.trans (endRegistration _ _ _ _)

/-! ## 6. Pinging -/

/-- A pinger that starts its receive. -/
theorem startReceive (id : PingerId) : Costs 2 e (e.startReceive id) := by
  unfold Engine.startReceive
  split
  · exact (refl e).mono (by decide)
  · next pinger hp =>
    split
    · exact (refl e).mono (by decide)
    · have hbusy : Costs 0 e (e.updatePinger id fun pinger => { pinger with receiving := true }) :=
        updatePinger hp (by simp [Pinger.weight])
      dsimp only
      split
      · exact hbusy.after (askMail _ _) (by decide)
      · exact hbusy.after (receive _ _ _) (by
          cases (Engine.fatalOf _ pinger.socket).isError <;> decide)

/-- On an own socket that works it costs less than what a receive that was given up leaves. -/
theorem startOwnReceive {pinger : Pinger} (hp : e.pingers[id]? = some pinger)
    (hown : pinger.mailbox = none) (hworks : (e.fatalOf pinger.socket).isError = false) :
    Costs 1 e (e.startReceive id) := by
  unfold Engine.startReceive
  simp only [hp, hown]
  split
  · exact (refl e).mono (by decide)
  · have hbusy : Costs 0 e (e.updatePinger id fun pinger => { pinger with receiving := true }) :=
      updatePinger hp (by simp [Pinger.weight])
    have hstill : ((e.updatePinger id fun pinger => { pinger with receiving := true }).fatalOf
        pinger.socket).isError = false := hworks
    refine hbusy.after (receive _ _ _) ?_
    rw [hstill]
    decide

theorem noteAsked (id : PingerId) (pinger : Pinger) (token : Token) (caller : Caller) :
    Costs 0 e (e.noteAsked id pinger token caller) :=
  of_same rfl rfl rfl rfl rfl rfl rfl rfl rfl

theorem enterCall {pinger : Pinger} (hp : e.pingers[id]? = some pinger) (token : Token)
    (caller : Caller) : Costs (caller.weight + 2) e (e.enterCall id pinger token caller) := by
  unfold Engine.enterCall
  let call : Call :=
    { token, queued := e.now, sent := e.now, timer := e.nextPing, caller }
  have hweight : Pinger.weight { pinger with calls := call.insert pinger.calls }
      = call.weight + pinger.weight := ((call.insert_perm pinger.calls).map _).sum_eq.trans (by
        simp [Pinger.weight])
  have hentered : Costs (caller.weight + 1) (e.noteAsked id pinger token caller)
      ((e.noteAsked id pinger token caller).updatePinger id fun pinger =>
        { pinger with calls := call.insert pinger.calls }) :=
    updatePinger (show (e.noteAsked id pinger token caller).pingers[id]? = some pinger from hp) (by
      rw [hweight]
      simp only [Call.weight, call]
      omega)
  exact ((noteAsked id pinger token caller).trans hentered).after (ringAfter _ _) (by omega)

/-- **A ping costs 6**, and what its caller goes on to ask for. -/
theorem ping (id : PingerId) (sequence : UInt16) (caller : Caller) :
    Costs (caller.weight + 6) e (e.ping id sequence caller) := by
  unfold Engine.ping
  split
  · exact (refl e).mono (by omega)
  · next pinger hp =>
    have hrefused : ∀ (token : Token) (fault : PingFault), Costs (caller.weight + 6) e
        (e.refuse id pinger token caller fault) := fun token fault =>
      (noteAsked id pinger token caller).after (post _) (by simp [Task.weight])
    dsimp only
    split
    · exact hrefused _ _
    · split
      · exact hrefused _ _
      · exact ((enterCall hp _ _).trans (startReceive _)).after (submit _ _ _ _) (by omega)

/-! ## 7. The service -/

theorem write (lines : List String) : Costs 0 e (e.write lines) :=
  of_same rfl rfl rfl rfl rfl rfl rfl rfl rfl

theorem cancelSignal : Costs 0 e e.cancelSignal := by
  unfold Engine.cancelSignal
  split
  · next hwaits =>
    have hcalm : Costs (-1) e { e with awaitsSignal := false } := by
      refine ⟨rfl, ?_⟩
      simp only [Engine.burden, Engine.targetCount, hwaits, Bool.toNat_true, Bool.toNat_false]
      omega
    exact hcalm.after (post (.signalled .aborted 0)) (by simp [Task.weight])
  · exact refl e

theorem stopService : Costs 0 e e.stopService :=
  (((updateService (fun service => { service with stopped := true }) fun _ => rfl).trans
    (cancelAlarm .round)).trans cancelSignal).after (of_same rfl rfl rfl rfl rfl rfl rfl rfl rfl)
      (by decide)

theorem targetAnswered (index : Nat) (code : ErrorCode) (result : PingResult) :
    Costs 0 e (e.targetAnswered index code result) := by
  unfold Engine.targetAnswered
  split
  · exact refl e
  · next target _ =>
    have hcounted : Costs 0 e ((e.updateService fun service =>
        service.count index code result).write [target.resultLine code result]) :=
      (updateService _ fun service => by
        simp only [Service.count]
        split <;> simp).trans (write _)
    unfold Engine.finishIfIdle
    split
    · exact hcounted
    · split
      · exact hcounted.trans stopService
      · exact hcounted

theorem pingTarget (sequence : UInt16) (index : Nat) :
    Costs 6 e (Engine.pingTarget sequence e index) := by
  unfold Engine.pingTarget
  split
  · exact (refl e).mono (by decide)
  · exact (updateService _ fun service => by simp).after (ping _ _ _) (by simp [Caller.weight])

/-- A round pings every target, and sets the timer for the next. -/
theorem startRound : Costs (6 * e.targetCount + 1) e e.startRound := by
  unfold Engine.startRound
  split
  · exact (refl e).mono (by omega)
  · next service hservice =>
    have hcount : e.targetCount = service.targets.size := by simp [Engine.targetCount, hservice]
    have hpinged := foldl (fun _ => 6) (List.range service.targets.size)
      (fun index _ e => pingTarget (e := e) service.round.toUInt16 index) e
    have hbegun := hpinged.trans
      (updateService (fun old => { old with round := service.round + 1 }) fun _ => rfl)
    have hsum : ((List.range service.targets.size).map fun _ => 6).sum = 6 * e.targetCount := by
      simp [hcount, Nat.mul_comm]
    rw [hsum] at hbegun
    dsimp only
    split
    · exact (refl e).mono (by omega)
    · split
      · exact hbegun.mono (by omega)
      · exact hbegun.after (setAlarm _ _) (by omega)

/-! ## 8. How pings end -/

theorem tell (number : PingId) (caller : Caller) (code : ErrorCode) (result : PingResult) :
    Costs 0 e (e.tell number caller code result) := by
  unfold Engine.tell
  have htold : ∀ endings, Costs 0 e { e with endings } := fun _ =>
    of_same rfl rfl rfl rfl rfl rfl rfl rfl rfl
  cases caller with
  | target index => exact (htold _).trans (targetAnswered _ _ _)
  | scripted tag again => exact (htold _).trans (record _)

/-- A caller that is told pings once more, for one ping less to come. -/
theorem answer (id : PingerId) (number : PingId) (caller : Caller) (code : ErrorCode)
    (result : PingResult) : Costs caller.weight e (e.answer id number caller code result) := by
  unfold Engine.answer
  have htold := tell (e := e) number caller code result
  split
  · next tag next rest =>
    dsimp only
    split
    · refine htold.after (ping id next (.scripted (tag ++ "'") rest)) ?_
      simp only [Caller.weight, List.length_cons]
      omega
    · exact htold.mono (by omega)
  · exact htold.mono (by omega)

/-- A call that is taken off the list takes its weight along. -/
theorem without {pinger : Pinger} (hp : e.pingers[id]? = some pinger) {token : Token} {call : Call}
    (hcall : pinger.call? token = some call) (change : Pinger → Pinger)
    (hchange : (change pinger).calls = (pinger.without token).calls) :
    Costs (-(call.weight : Int)) e (e.updatePinger id change) := by
  refine updatePinger hp ?_
  have hless := sum_filter_le Call.weight (fun call => decide (call.token ≠ token))
    (by simp [Pinger.token_of_call? hcall]) (List.mem_of_find?_eq_some hcall)
  rw [Pinger.weight, hchange]
  simp only [Pinger.without, Pinger.weight]
  omega

/-- A call that ends makes room for the receive that is given up with it. -/
theorem complete (id : PingerId) (token : Token) (timer : TimerId) (code : ErrorCode) :
    Costs 0 e (e.complete id token timer code) := by
  unfold Engine.complete
  split
  · exact refl e
  · next pinger call hcall =>
    obtain ⟨hp, hcall, -⟩ := Engine.callOf?_eq_some hcall
    have htaken := (without hp hcall (fun _ => pinger.without token) rfl).trans
      (cancelAlarm (.call id token timer))
    have hcancelled : ∀ lonely : Bool, Costs (1 - call.weight) e
        (if lonely then ((e.updatePinger id fun _ => pinger.without token).cancelAlarm
            (.call id token timer)).cancelSocket (pinger.without token).socket
          else (e.updatePinger id fun _ => pinger.without token).cancelAlarm
            (.call id token timer)) := by
      intro lonely
      cases lonely with
      | true => exact htaken.after (cancelSocket _) (by omega)
      | false => exact htaken.mono (by omega)
    refine (hcancelled _).after (answer _ _ _ _ _) ?_
    simp only [Call.weight]
    omega

theorem callSent (id : PingerId) (token : Token) (timer : TimerId) (code : ErrorCode) :
    Costs 0 e (e.callSent id token timer code) := by
  unfold Engine.callSent
  split
  · unfold Engine.refreshSent
    split
    · exact refl e
    · next found hcall =>
      obtain ⟨pinger, call⟩ := found
      obtain ⟨hp, -, -⟩ := Engine.callOf?_eq_some hcall
      refine updatePinger hp ?_
      have hsame : (pinger.calls.map fun call =>
          if call.token = token then { call with sent := e.now } else call).map Call.weight
            = pinger.calls.map Call.weight := by
        rw [List.map_map]
        refine List.map_congr_left fun call _ => ?_
        simp only [Function.comp_apply]
        split <;> rfl
      simp only [Pinger.weight, hsame]
      omega
  · -- a failure is logged, unless the send was given up
    refine Costs.trans (?_ : Costs 0 e _) (complete _ _ _ _)
    split
    · split
      · exact refl e
      · exact logAbout _ _ _
    · exact refl e

theorem failCall (id : PingerId) (code : ErrorCode) (call : Call) :
    Costs call.caller.weight e (Engine.failCall id code e call) :=
  (cancelAlarm _).after (answer _ _ _ _ _) (by omega)

/-- The calls of a pinger, which end together, weigh what their callers ask for next. -/
theorem failCalls {pinger old : Pinger} (hp : e.pingers[id]? = some old)
    (hcalls : old.calls = pinger.calls) (code : ErrorCode) :
    Costs 0 e (e.failCalls id pinger code) := by
  unfold Engine.failCalls
  dsimp only
  have htaken : Costs (-pinger.weight) e
      (e.updatePinger id fun pinger => { pinger with calls := [] }) :=
    updatePinger hp (by simp [Pinger.weight, hcalls])
  have hlogged : ∀ quiet : Bool, Costs (-pinger.weight) e
      (if quiet then e.updatePinger id fun pinger => { pinger with calls := [] }
        else (e.updatePinger id fun pinger => { pinger with calls := [] }).logAbout
          pinger.destination .error ("receive failed: " ++ code.message)) := by
    intro quiet
    cases quiet with
    | true => exact htaken
    | false => exact htaken.after (logAbout _ _ _) (by omega)
  have hfailed := fun e : Engine => foldl (fun call : Call => call.caller.weight) pinger.calls
    (fun call _ e => failCall (e := e) id code call) e
  have hless : (pinger.calls.map fun call => call.caller.weight).sum ≤ pinger.weight :=
    List.sum_le_sum fun call _ => Nat.le_succ _
  exact (hlogged _).after (hfailed _) (by omega)

/-! ## 9. What was received -/

theorem pingerDatagram {pinger old : Pinger} (hp : e.pingers[id]? = some old)
    (hcalls : old.calls = pinger.calls) (received : Time) (source : Address) (data : Bytes) :
    Costs 2 e (e.pingerDatagram id pinger received source data) := by
  unfold Engine.pingerDatagram
  dsimp only
  have hlogged := logMalformed (e := e) source (decode pinger.destination.family data source)
  split
  · exact hlogged.trans (startReceive _)
  · next call reply hmatch =>
    obtain ⟨-, -, hcall⟩ := Engine.matched?_eq_some_iff.1 hmatch
    have htoken := Pinger.token_of_call? hcall
    have hstill : (e.logMalformed source (decode pinger.destination.family data source)).pingers[id]?
        = some old := by
      rw [(Aside.logMalformed _ _).pingers]
      exact hp
    have hcall : old.call? call.token = some call := by
      rw [Pinger.call?, hcalls, htoken]
      exact hcall
    have htaken := without hstill hcall (fun pinger => pinger.without call.token) rfl
    refine (hlogged.trans htaken).after
      (((startReceive _).trans (cancelAlarm _)).trans (answer _ _ _ _ _)) ?_
    simp only [Call.weight]
    omega

/-- What a pinger does with the end of a receive costs less than the end weighs. -/
theorem pingerReceived (id : PingerId) (code : ErrorCode) (received : Time) (source : Address)
    (data : Bytes) :
    Costs (if code.isError then 1 else 2) e (e.pingerReceived id code received source data) := by
  have hfree : Costs (if code.isError then 1 else 2) e e :=
    (refl e).mono (by split <;> decide)
  cases hp : e.pingers[id]? with
  | none =>
    simp only [Engine.pingerReceived, hp]
    exact hfree
  | some pinger =>
    let idle : Engine := e.updatePinger id fun pinger => { pinger with receiving := false }
    have hidle : Costs 0 e idle := updatePinger hp (by simp [Pinger.weight])
    have hp' : idle.pingers[id]? = some { pinger with receiving := false } := by
      simp [idle, Engine.updatePinger, Array.getElem?_modify, hp]
    cases hg : pinger.gone with
    | true =>
      simp only [Engine.pingerReceived, hp, hg, if_true]
      exact hfree
    | false =>
      cases hcode : code.isError with
      | false =>
        simp only [Engine.pingerReceived, hp, hg, hcode, Bool.not_false, Bool.false_eq_true, if_true,
          if_false]
        exact hidle.after (pingerDatagram hp' rfl _ _ _) (by decide)
      | true =>
        simp only [Engine.pingerReceived, hp, hg, hcode, Bool.not_true, Bool.false_eq_true, if_true,
          if_false]
        split
        · next hgave =>
          simp only [Bool.and_eq_true, Bool.not_eq_true', Pinger.isMultiplexed,
            Option.isSome_eq_false_iff, Option.isNone_iff_eq_none] at hgave
          exact hidle.after (startOwnReceive hp' hgave.1.2 hgave.2) (by decide)
        · exact hidle.after (failCalls hp' rfl _) (by decide)

/-! ## 10. Tasks -/

theorem sendEnded (client : SendClient) (code : ErrorCode) (count : Nat) :
    Costs 0 e (e.sendEnded client code count) := by
  unfold Engine.sendEnded
  split
  · exact record _
  · exact callSent _ _ _ _

/-- What the end of a receive weighs. -/
theorem receiveEnded (client : ReceiveClient) (code : ErrorCode) (source : Address) (data : Bytes) :
    Costs (if code.isError then 1 else 5) e (e.receiveEnded client code source data) := by
  have hle : ∀ {a b : Int}, a ≤ 1 → b ≤ 5 →
      (if code.isError then a else b) ≤ if code.isError then 1 else 5 := by
    intro a b ha hb
    split
    · exact ha
    · exact hb
  cases client with
  | raw tag =>
    refine (record _).mono ?_
    split <;> decide
  | pinger id => exact (pingerReceived _ _ _ _ _).mono (hle (by decide) (by decide))
  | hub id => exact (hubReceived _ _ _ _).mono (hle (by decide) (by decide))

/-- **A task costs less than it weighs.** -/
theorem perform {task : Task} (hproper : e.Proper task) (hplain : task.isPlain)
    (hsenders : ∀ limiter, ∀ sender ∈ e.heldIn limiter,
      ∃ k packet destination client, sender = .datagram k packet destination client) :
    Costs (task.weight e.targetCount - 1) e (e.perform task) := by
  cases task with
  | rang alarm code =>
    simp only [Engine.perform, Engine.rang, Task.weight]
    split
    · exact refl e
    · cases alarm with
      | call id token timer => exact complete _ _ _ _
      | limiter limiter => exact wakeLimiter (hsenders limiter)
      | round => exact startRound.mono (by simp [Alarm.weight])
  | turnedAway sender =>
    cases sender with
    | datagram k packet destination client => exact sendEnded _ _ _
    | labelled limiter label again => cases hplain
  | sent client code count => exact sendEnded _ _ _
  | received socket client code source data =>
    simp only [Engine.perform, Engine.socketReceived, Task.weight]
    cases hcode : code.isError with
    | false => exact (receiveEnded client code source data).mono (by simp [hcode])
    | true =>
      have hfailed : Costs 0 e (if code = .aborted then e else e.failSocket socket code) := by
        split
        · exact refl e
        · exact failSocket _ _
      exact hfailed.after (receiveEnded client code .any []) (by simp [hcode])
  | noReceive client code =>
    exact (receiveEnded client code .any []).mono (by simp [hproper.1, Task.weight])
  | mail reader code letter =>
    simp only [Engine.perform, Engine.mailArrived, Task.weight]
    cases reader with
    | labelled box label again =>
      obtain ⟨box, hfits⟩ := hproper
      exact hfits.elim
    | pinger id =>
      cases hp : e.pingers[id]? with
      | none =>
        simp only [hp]
        refine (refl e).mono ?_
        split <;> decide
      | some pinger =>
        simp only [hp]
        refine (pingerReceived id code letter.time pinger.destination letter.packet).mono ?_
        split <;> decide
  | noPing id number caller code sequence =>
    exact (answer _ _ _ _ _).mono (by simp [Task.weight])
  | signalled code number =>
    simp only [Engine.perform, Engine.signalled]
    split
    · exact refl e
    · exact (logDated _ _).trans stopService

theorem removePinger (id : PingerId) : Costs 1 e (e.removePinger id) := by
  unfold Engine.removePinger
  split
  · exact (refl e).mono (by decide)
  · next pinger hp =>
    have hgone : Costs 0 e (e.updatePinger id fun pinger => { pinger with gone := true }) :=
      updatePinger hp (by simp [Pinger.weight])
    dsimp only
    split
    · exact hgone.after (closeMail _ rfl) (by decide)
    · exact hgone.after (closeSocket _) (by decide)

/-- To remove a released pinger costs what it weighs. -/
theorem sweep : Costs 0 e e.sweep := by
  unfold Engine.sweep
  have hsplit := List.length_eq_length_filter_add (l := e.released) e.holds
  have hset : Costs (-(e.released.partition e.holds).2.length) e
      { e with released := (e.released.partition e.holds).1 } := by
    refine ⟨rfl, ?_⟩
    simp only [Engine.burden, Engine.targetCount, List.partition_eq_filter_filter]
    simp only [Function.comp_def] at hsplit ⊢
    omega
  have hremoved := foldl (fun _ => 1) (e.released.partition e.holds).2
    (fun id _ e => removePinger (e := e) id)
  exact hset.after (hremoved _) (by simp)

end Costs

namespace Session

variable {s s' : Session}

/-- **Every task lowers the burden**, whichever is taken. -/
theorem burden_lt {task : Task} (h : Does s (.task task) s') (hs : s.Sound) (hm : s.Stocked) :
    s'.engine.burden < s.engine.burden := by
  cases h with
  | @task front back task hready =>
    let rest : Engine := { s.engine with ready := front ++ back }
    have hmem : task ∈ s.engine.ready := hready ▸ List.mem_append_right _ List.mem_cons_self
    have htaken : rest.burden + task.weight s.engine.targetCount = s.engine.burden := by
      simp only [rest, Engine.burden, Engine.targetCount, hready, List.map_append, List.map_cons,
        List.sum_append, List.sum_cons]
      omega
    have hproper : rest.Proper task := by
      have hproper := hs.engine.wired.tasks task hmem
      cases task <;> exact hproper
    have hperformed := Costs.perform hproper (hm.metered.ready task hmem) fun limiter sender hsender => by
      obtain ⟨packet, destination, client, heq⟩ := hm.metered.senders limiter sender hsender
      exact ⟨limiter, packet, destination, client, heq⟩
    have hdone := (hperformed.trans .sweep).burden
    have htargets : rest.targetCount = s.engine.targetCount := rfl
    rw [htargets] at hdone
    show ((rest.perform task).sweep).burden < _
    omega

/-- **Tasks come to an end**: so many of them make as many steps at most, in any order. -/
theorem Run.length_le_burden {past : List (Session × Deed)} (h : Run s past s')
    (htasks : ∀ entry ∈ past, ∃ task, entry.2 = .task task) (hs : s.Sound) (hm : s.Stocked) :
    past.length + s'.engine.burden ≤ s.engine.burden := by
  induction h with
  | nil s => simp
  | @cons s s' s'' deed past head rest ih =>
    obtain ⟨task, rfl⟩ := htasks _ List.mem_cons_self
    have hless := burden_lt head hs hm
    have hrest := ih (fun entry hentry => htasks entry (List.mem_cons_of_mem _ hentry))
      (head.leads hs).sound (head.stocked hs hm)
    simp only [List.length_cons]
    omega

/-- **What is ready, and what it makes ready, can be worked off.** -/
theorem exists_drained (s : Session) (hs : s.Sound) (hm : s.Stocked) : ∃ past s', Run s past s' ∧
    (∀ entry ∈ past, ∃ task, entry.2 = .task task) ∧ s'.engine.ready = [] := by
  cases hready : s.engine.ready with
  | nil => exact ⟨[], s, .nil s, by simp, hready⟩
  | cons task rest =>
    have htask : Does s (.task task) { s with
        engine := ({ s.engine with ready := rest }.perform task).sweep } :=
      @Does.task s [] rest task (by rw [hready, List.nil_append])
    have hless := burden_lt htask hs hm
    obtain ⟨past, s', hrun, htasks, hdrained⟩ :=
      exists_drained _ (htask.leads hs).sound (htask.stocked hs hm)
    refine ⟨_, s', .cons htask hrun, fun entry hentry => ?_, hdrained⟩
    rcases List.mem_cons.1 hentry with rfl | hentry
    · exact ⟨task, rfl⟩
    · exact htasks entry hentry
termination_by s.engine.burden

end Session

end IcmpEcho
