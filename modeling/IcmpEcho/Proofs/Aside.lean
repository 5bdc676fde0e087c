/-
# What goes on beside the calls and the receives

Most of what an engine does leaves its calls, its receives and its mailboxes alone: it logs, meters
and hands over requests, counts for the service, sets the round timer.  `Aside e e'` says that `e'`
comes from `e` in this way.

* A task is `core` when it ends a call, a refused ping or a receive, and an item of the timeline is
  `core` when it becomes such a task.  Going aside adds and takes away only what is not core.
* The endings that can be seen in the journal (`Event.done?`) stay as they are.
* The service keeps the pingers of its targets.

`Aside` is reflexive and transitive, so each function is gone through once, and every invariant
about calls and receives has to be carried along `Aside` only once.
-/
import Mathlib.Data.List.Basic
import IcmpEcho.Session

namespace IcmpEcho

/-- What stays of a queue, or of a timeline, when one entry is taken. -/
theorem sublist_of_taken {α : Type} {entries front back : List α} {entry : α}
    (h : entries = front ++ entry :: back) : (front ++ back).Sublist entries :=
  h ▸ (List.sublist_cons_self entry back).append_left front

/-! ## 1. Core tasks -/

/-- The task ends a call, a refused ping or a receive. -/
def Task.isCore : Task → Bool
  | .rang (.call _ _ _) code => code ≠ .aborted
  | .noPing _ _ _ _ _ => true
  | .received _ _ _ _ _ => true
  | .noReceive _ _ => true
  | .mail _ _ _ => true
  | _ => false

/-- The item becomes a core task. -/
def Happening.isCore : Happening → Bool
  | .ring (.call _ _ _) => true
  | .ready task => task.isCore
  | _ => false

/-- The alarm belongs to a call. -/
def Alarm.isCall : Alarm → Bool
  | .call _ _ _ => true
  | _ => false

/-- What an event says about the end of a ping. -/
def Event.done? : Event → Option (Time × String × ErrorCode × PingResult)
  | .done time tag code result => some (time, tag, code, result)
  | _ => none

/-- The pingers of the service's targets. -/
def Engine.targetPingers (e : Engine) : List PingerId :=
  (e.service.map fun service => service.targets.toList.map Target.pinger).getD []

/-! ## 2. The relation -/

/-- `e'` differs from `e` at most in what calls and receives do not depend on. -/
structure Aside (e e' : Engine) : Prop where
  nextPing : e'.nextPing = e.nextPing
  pings : e'.pings = e.pings
  endings : e'.endings = e.endings
  sockets : e'.sockets = e.sockets
  mailboxes : e'.mailboxes = e.mailboxes
  pingers : e'.pingers = e.pingers
  hubs : e'.hubs = e.hubs
  arrivals : e'.arrivals = e.arrivals
  released : e'.released = e.released
  targets : e'.targetPingers = e.targetPingers
  ready : e'.ready.filter Task.isCore = e.ready.filter Task.isCore
  timeline : e'.timeline.filter (fun entry => entry.2.isCore)
    = e.timeline.filter (fun entry => entry.2.isCore)
  journal : e'.journal.filterMap Event.done? = e.journal.filterMap Event.done?

namespace Aside

variable {e e' e'' : Engine}

theorem refl (e : Engine) : Aside e e :=
  ⟨rfl, rfl, rfl, rfl, rfl, rfl, rfl, rfl, rfl, rfl, rfl, rfl, rfl⟩

/-- What is done aside twice is done aside. -/
theorem trans (h : Aside e e') (h' : Aside e' e'') : Aside e e'' where
  nextPing := h'.nextPing.trans h.nextPing
  pings := h'.pings.trans h.pings
  endings := h'.endings.trans h.endings
  sockets := h'.sockets.trans h.sockets
  mailboxes := h'.mailboxes.trans h.mailboxes
  pingers := h'.pingers.trans h.pingers
  hubs := h'.hubs.trans h.hubs
  arrivals := h'.arrivals.trans h.arrivals
  released := h'.released.trans h.released
  targets := h'.targets.trans h.targets
  ready := h'.ready.trans h.ready
  timeline := h'.timeline.trans h.timeline
  journal := h'.journal.trans h.journal

/-- A fold of functions that go aside goes aside. -/
theorem foldl {α : Type} {f : Engine → α → Engine} (hf : ∀ e a, Aside e (f e a)) :
    ∀ (l : List α) (e : Engine), Aside e (l.foldl f e)
  | [], e => refl e
  | a :: l, e => (hf e a).trans (foldl hf l (f e a))

/-! ## 3. Queues and timeline -/

/-- A task becomes ready that nobody waits for. -/
theorem post {task : Task} (hc : task.isCore = false) : Aside e (e.post task) :=
  { refl e with ready := by simp [Engine.post, hc] }

/-- Putting in an item that is not counted leaves those that are as they were. -/
theorem filter_insertAt {p : Time × Happening → Bool} {time : Time} {item : Happening}
    (hp : p (time, item) = false) :
    ∀ timeline : List (Time × Happening),
      (Engine.insertAt time item timeline).filter p = timeline.filter p
  | [] => by simp [Engine.insertAt, hp]
  | head :: rest => by
    simp only [Engine.insertAt]
    split
    · rw [List.filter_cons, List.filter_cons, filter_insertAt hp rest]
    · rw [List.filter_cons_of_neg (by simp [hp])]

theorem schedule {time : Time} {item : Happening} (hc : item.isCore = false) :
    Aside e (e.schedule time item) :=
  { refl e with timeline := filter_insertAt hc e.timeline }

theorem isCore_ring (alarm : Alarm) : (Happening.ring alarm).isCore = alarm.isCall := by
  cases alarm <;> rfl

theorem ringAfter {wait : Time} {alarm : Alarm} (ha : alarm.isCall = false) :
    Aside e (e.ringAfter wait alarm) :=
  schedule (by rw [isCore_ring, ha])

/-- A timer that is not that of a call is cancelled. -/
theorem cancelAlarm {alarm : Alarm} (ha : alarm.isCall = false) :
    Aside e (e.cancelAlarm alarm) := by
  unfold Engine.cancelAlarm
  split
  · refine { refl e with ready := ?_, timeline := ?_ }
    · have : (Task.rang alarm .aborted).isCore = false := by cases alarm <;> rfl
      simp [this]
    · rw [List.filter_filter]
      refine List.filter_congr fun entry _ => ?_
      by_cases hring : entry.2 = .ring alarm
      · simp [hring, isCore_ring, ha]
      · simp [hring]
  · exact refl e

theorem setAlarm {wait : Time} {alarm : Alarm} (ha : alarm.isCall = false) :
    Aside e (e.setAlarm alarm wait) :=
  (cancelAlarm ha).trans (ringAfter ha)

theorem clock (now : Time) : Aside e { e with now } := { refl e with }

/-! ## 4. What is seen and logged -/

/-- Something is seen that tells nobody. -/
theorem record {event : Event} (hd : event.done? = none) : Aside e (e.record event) :=
  { refl e with journal := by simp [Engine.record, hd] }

theorem append (name text : String) : Aside e (e.append name text) := { refl e with }

theorem log (severity : Severity) (message : String) : Aside e (e.log severity message) := by
  unfold Engine.log
  split
  · exact refl e
  · have hrec : Aside e (e.record (.log message)) := record rfl
    simp only []
    split
    · exact hrec
    · exact hrec.trans (append _ _)

theorem logDated (severity : Severity) (message : String) :
    Aside e (e.logDated severity message) := by
  unfold Engine.logDated
  split
  · exact refl e
  · exact log _ _

theorem logAbout (address : Address) (severity : Severity) (message : String) :
    Aside e (e.logAbout address severity message) := by
  unfold Engine.logAbout
  split
  · exact refl e
  · exact logDated _ _

theorem logMalformed (source : Address) (decoded : Decoded) :
    Aside e (e.logMalformed source decoded) := by
  unfold Engine.logMalformed
  split
  · exact logAbout _ _ _
  · exact refl e

/-! ## 5. Sending -/

/-- A limiter may change in any way. -/
theorem setLimiter (limiter : LimiterId) (value : Rate.Limiter Sender) :
    Aside e (e.setLimiter limiter value) := { refl e with }

theorem scheduleAnswer (host : Host) (family : Family) (packet : Bytes) :
    Aside e (e.scheduleAnswer host family packet) := by
  unfold Engine.scheduleAnswer
  split
  · exact refl e
  · exact foldl (fun _ _ => schedule rfl) _ e

theorem completeSend (client : SendClient) (code : ErrorCode) (count : Nat) :
    Aside e (e.completeSend client code count) := by
  unfold Engine.completeSend
  split
  · exact post rfl
  · exact schedule rfl

theorem noteSend (socket : SocketId) (packet : Bytes) (destination : Address) :
    Aside e (e.noteSend socket packet destination) := by
  have hrecord : Aside e (e.record (.send e.now socket destination packet)) := record rfl
  exact { hrecord with }

theorem transmit (socket : SocketId) (packet : Bytes) (destination : Address)
    (client : SendClient) : Aside e (e.transmit socket packet destination client) := by
  have hnoted : Aside e (e.noteSend socket packet destination) := noteSend _ _ _
  unfold Engine.transmit
  simp only []
  split
  · exact hnoted.trans (completeSend _ _ _)
  · split
    · exact hnoted.trans (completeSend _ _ _)
    · exact (hnoted.trans (scheduleAnswer _ _ _)).trans (completeSend _ _ _)

theorem launch (socket : SocketId) (packet : Bytes) (destination : Address)
    (client : SendClient) : Aside e (e.launch socket packet destination client) := by
  unfold Engine.launch
  simp only []
  split
  · exact post rfl
  · exact transmit _ _ _ _

theorem acquireLabelled (limiter : LimiterId) :
    ∀ (again : Nat) (e : Engine) (label : String),
      Aside e (e.acquireLabelled limiter label again) := by
  intro again
  induction again with
  | zero =>
    intro e label
    unfold Engine.acquireLabelled
    split
    · exact refl e
    · simp only []
      split
      · exact setLimiter _ _
      · exact (setLimiter _ _).trans (setAlarm rfl)
      · exact (setLimiter _ _).trans (record rfl)
  | succ again ih =>
    intro e label
    unfold Engine.acquireLabelled
    split
    · exact refl e
    · simp only []
      split
      · exact setLimiter _ _
      · exact (setLimiter _ _).trans (setAlarm rfl)
      · exact ((setLimiter _ _).trans (record rfl)).trans (ih _ _)

theorem answerLabelled (limiter : LimiterId) (label : String) (again : Nat) (code : ErrorCode) :
    Aside e (e.answerLabelled limiter label again code) := by
  have hrec : Aside e (e.record (.acquired e.now label code)) := record rfl
  unfold Engine.answerLabelled
  simp only []
  split
  · exact hrec
  · exact hrec.trans (acquireLabelled _ _ _ _)

/-- **To submit a request is aside**: whoever asked learns of it when the send ends. -/
theorem submit (socket : SocketId) (packet : Bytes) (destination : Address)
    (client : SendClient) : Aside e (e.submit socket packet destination client) := by
  unfold Engine.submit
  split
  · exact refl e
  · split
    · exact post rfl
    · split
      · exact refl e
      · simp only []
        split
        · exact setLimiter _ _
        · exact (setLimiter _ _).trans (setAlarm rfl)
        · exact (setLimiter _ _).trans (launch _ _ _ _)

theorem letGo (sender : Sender) : Aside e (e.letGo sender) := by
  cases sender with
  | datagram socket packet destination client => exact launch _ _ _ _
  | labelled limiter label again => exact answerLabelled _ _ _ _

theorem wakeLimiter (limiter : LimiterId) : Aside e (e.wakeLimiter limiter) := by
  unfold Engine.wakeLimiter
  split
  · exact refl e
  · simp only []
    refine Aside.trans ?_ (foldl (fun e sender => letGo sender) _ _)
    split
    · exact setLimiter _ _
    · exact (setLimiter _ _).trans (setAlarm rfl)

/-- Senders are turned away by tasks of their own. -/
theorem cancelLimiter (limiter : LimiterId) : Aside e (e.cancelLimiter limiter) := by
  unfold Engine.cancelLimiter
  split
  · exact refl e
  · exact ((cancelAlarm rfl).trans (setLimiter _ _)).trans (foldl (fun _ _ => post rfl) _ _)

/-! ## 6. The service -/

theorem updateService {change : Service → Service}
    (hc : ∀ service, (change service).targets.toList.map Target.pinger
      = service.targets.toList.map Target.pinger) : Aside e (e.updateService change) := by
  refine { refl e with targets := ?_ }
  cases hs : e.service with
  | none => simp [Engine.targetPingers, Engine.updateService, hs]
  | some service => simp [Engine.targetPingers, Engine.updateService, hs, hc]

theorem write (lines : List String) : Aside e (e.write lines) := { refl e with }

theorem stop : Aside e e.stop := { refl e with }

theorem awaitsSignal (value : Bool) : Aside e { e with awaitsSignal := value } := { refl e with }

theorem cancelSignal : Aside e e.cancelSignal := by
  unfold Engine.cancelSignal
  split
  · exact (awaitsSignal false).trans (post rfl)
  · exact refl e

theorem stopService : Aside e e.stopService := by
  have hflag : Aside e (e.updateService fun service => { service with stopped := true }) :=
    updateService fun _ => rfl
  exact ((hflag.trans (cancelAlarm rfl)).trans cancelSignal).trans stop

theorem finishIfIdle : Aside e e.finishIfIdle := by
  unfold Engine.finishIfIdle
  split
  · exact refl e
  · split
    · exact stopService
    · exact refl e

/-- Changing one target but not its pinger keeps the pingers of the targets. -/
theorem map_pinger_modify {change : Target → Target}
    (hc : ∀ target, (change target).pinger = target.pinger) (targets : Array Target)
    (index : Nat) :
    (targets.modify index change).toList.map Target.pinger
      = targets.toList.map Target.pinger := by
  refine List.ext_getElem? fun i => ?_
  rw [Array.toList_modify, List.getElem?_map, List.getElem?_map, List.getElem?_modify]
  cases targets.toList[i]? with
  | none => rfl
  | some target =>
    simp only [Option.map_eq_map, Option.map_some, Option.some.injEq]
    split
    · exact hc target
    · rfl

/-- **What the service does when it is told is aside.** -/
theorem targetAnswered (index : Nat) (code : ErrorCode) (result : PingResult) :
    Aside e (e.targetAnswered index code result) := by
  unfold Engine.targetAnswered
  split
  · exact refl e
  · refine ((updateService fun service => ?_).trans (write _)).trans finishIfIdle
    unfold Service.count
    split
    · rfl
    · have hcount : ∀ target : Target, (target.count result.roundTrip).pinger = target.pinger :=
        fun _ => rfl
      exact map_pinger_modify hcount _ _

theorem endService : Aside e e.endService := (write _).trans (logDated _ _)

theorem signalled (code : ErrorCode) (number : Int) : Aside e (e.signalled code number) := by
  unfold Engine.signalled
  split
  · exact refl e
  · exact (logDated _ _).trans stopService

end Aside

end IcmpEcho
