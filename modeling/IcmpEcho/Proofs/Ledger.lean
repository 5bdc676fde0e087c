/-
# The ledger of pings

Every ping that is asked for gets a number and is written down (`Engine.pings`); every caller that
is told something is written down too (`Engine.endings`).  `Ledger hand e` says that between the
two nothing gets lost and nothing happens twice:

* **each ping is in exactly one place**: told, in the hand of the running handler, among the calls
  of its pinger, or refused by a task that is ready (`Ledger.once`);
* a call and a refusal are about the ping whose number they carry, and so is what the caller is
  told;
* the tokens of a pinger's calls are distinct;
* the endings of pings with scripted callers are what the journal shows, in the same order
  (`Ledger.seen`).

`hand` are the pings whose calls the running handler has taken and not yet told.

The second half states what each act on calls does to the ledger: asking, refusing, taking calls off
a pinger, telling.  Everything else leaves the calls alone (`SameCalls`).
-/
import IcmpEcho.Proofs.Receives

namespace IcmpEcho

/-! ## 1. Where a ping is -/

/-- The ping that a task refuses. -/
def Task.refusal? : Task → Option PingId
  | .noPing _ ping _ _ _ => some ping
  | _ => none

/-- The alarm that rings with a task. -/
def Task.rings? : Task → Option Alarm
  | .rang alarm code => if code = .aborted then none else some alarm
  | _ => none

/-- The task ends a call by its timer, or refuses a ping. -/
def Task.isCall (task : Task) : Bool :=
  task.refusal?.isSome || (task.rings?.any Alarm.isCall)

/-- The item is the timer of a call. -/
def Happening.isCall : Happening → Bool
  | .ring alarm => alarm.isCall
  | _ => false

namespace Engine

/-- The ping of a number. -/
def ping? (e : Engine) (number : PingId) : Option Ping :=
  e.pings.find? fun ping => ping.number = number

/-- The calls of a pinger. -/
def callsOf (e : Engine) (id : PingerId) : List Call :=
  (e.pingers[id]?.map Pinger.calls).getD []

/-- How often the caller of a ping was told something. -/
def told (e : Engine) (number : PingId) : Nat :=
  e.endings.countP fun ending => ending.ping = number

/-- How many calls of a pinger carry a number. -/
def entered (e : Engine) (id : PingerId) (number : PingId) : Nat :=
  (e.callsOf id).countP fun call => call.timer = number

/-- How many ready tasks refuse a ping. -/
def refused (e : Engine) (number : PingId) : Nat :=
  e.ready.countP fun task => task.refusal? = some number

/-- What the journal shows of an ending. -/
def doneOf (e : Engine) (ending : Ending) : Option (Time × String × ErrorCode × PingResult) :=
  match e.ping? ending.ping with
  | some ping =>
    match ping.caller with
    | .scripted tag _ => some (ending.time, tag, ending.code, ending.result)
    | .target _ => none
  | none => none

end Engine

/-- The call is the one that a ping of pinger `id` was entered as. -/
structure Call.Records (call : Call) (id : PingerId) (ping : Ping) : Prop where
  pinger : ping.pinger = id
  token : ping.token = call.token
  caller : ping.caller = call.caller
  asked : ping.asked = call.queued

/-- **Every ping is in one place.** -/
structure Ledger (hand : List PingId) (e : Engine) : Prop where
  known : ∀ number, (e.ping? number).isSome ↔ number < e.nextPing
  entered : ∀ id, ∀ call ∈ e.callsOf id,
    ∃ ping, e.ping? call.timer = some ping ∧ call.Records id ping
  refused : ∀ id number caller code sequence,
    .noPing id number caller code sequence ∈ e.ready →
    ∃ ping, e.ping? number = some ping ∧ ping.pinger = id ∧ ping.token.sequence = sequence ∧
      ping.caller = caller ∧
      (code = PingFault.packetTooLarge.code ∨ code = PingFault.sequenceInFlight.code)
  ended : ∀ ending ∈ e.endings,
    ∃ ping, e.ping? ending.ping = some ping ∧ ending.result.sequence = ping.token.sequence
  held : ∀ number ∈ hand, number < e.nextPing
  once : ∀ number ping, e.ping? number = some ping →
    e.told number + hand.count number + e.entered ping.pinger number + e.refused number = 1
  tokens : ∀ id, ((e.callsOf id).map Call.token).Nodup
  seen : e.journal.filterMap Event.done? = e.endings.filterMap e.doneOf

/-! ## 2. What leaves the calls alone -/

/-- `e'` has the calls of `e`, and the same pings, endings, timers of calls and refusals. -/
structure SameCalls (e e' : Engine) : Prop where
  nextPing : e'.nextPing = e.nextPing
  pings : e'.pings = e.pings
  endings : e'.endings = e.endings
  calls : ∀ id, e'.callsOf id = e.callsOf id
  ready : e'.ready.filter Task.isCall = e.ready.filter Task.isCall
  timeline : e'.timeline.filter (fun entry => entry.2.isCall)
    = e.timeline.filter (fun entry => entry.2.isCall)
  journal : e'.journal.filterMap Event.done? = e.journal.filterMap Event.done?

section Filters

variable {α : Type} {p q : α → Bool} {l l' : List α}

/-- What `p` counts is determined by what `q` keeps, when `p` implies `q`. -/
theorem countP_eq_of_filter_eq (h : l'.filter q = l.filter q) (hpq : ∀ a, p a → q a) :
    l'.countP p = l.countP p := by
  have hcount : ∀ l : List α, (l.filter q).countP p = l.countP p := fun l => by
    rw [List.countP_filter]
    refine List.countP_congr fun a _ => ?_
    simpa using fun hp => hpq a hp
  rw [← hcount l', h, hcount]

/-- What satisfies `p` is determined by what `q` keeps, when `p` implies `q`. -/
theorem mem_of_filter_eq (h : l'.filter q = l.filter q) {a : α} (ha : a ∈ l') (hq : q a) :
    a ∈ l :=
  (List.mem_filter.1 (h ▸ List.mem_filter.2 ⟨ha, hq⟩)).1

theorem filter_eq_of_filter_eq (h : l'.filter q = l.filter q) (hpq : ∀ a, p a → q a) :
    l'.filter p = l.filter p := by
  have hfilter : ∀ l : List α, (l.filter q).filter p = l.filter p := fun l => by
    rw [List.filter_filter]
    refine List.filter_congr fun a _ => ?_
    by_cases hp : p a
    · simp [hp, hpq a hp]
    · simp [hp]
  rw [← hfilter l', h, hfilter]

end Filters

theorem Task.isCore_of_isCall {task : Task} (h : task.isCall) : task.isCore := by
  cases task with
  | rang alarm code =>
    cases alarm <;> by_cases hc : code = .aborted <;>
      simp_all [Task.isCall, Task.refusal?, Task.rings?, Task.isCore, Alarm.isCall]
  | noPing => rfl
  | _ => simp [Task.isCall, Task.refusal?, Task.rings?] at h

theorem Happening.isCore_of_isCall {item : Happening} (h : item.isCall) : item.isCore := by
  cases item with
  | ring alarm => rwa [Aside.isCore_ring]
  | _ => simp [Happening.isCall] at h

theorem Task.isCall_of_refusal {task : Task} {number : PingId}
    (h : task.refusal? = some number) : task.isCall := by
  simp [Task.isCall, h]

theorem Task.isCall_of_listener {task : Task} {client : ReceiveClient}
    (h : task.listener? = some client) : task.isCall = false := by
  cases task <;> simp_all [Task.listener?, Task.isCall, Task.refusal?, Task.rings?]

namespace SameCalls

variable {e e' e'' : Engine}

theorem refl (e : Engine) : SameCalls e e := ⟨rfl, rfl, rfl, fun _ => rfl, rfl, rfl, rfl⟩

theorem of_aside (h : Aside e e') : SameCalls e e' where
  nextPing := h.nextPing
  pings := h.pings
  endings := h.endings
  calls id := by rw [Engine.callsOf, Engine.callsOf, h.pingers]
  ready := filter_eq_of_filter_eq h.ready fun _ => Task.isCore_of_isCall
  timeline := filter_eq_of_filter_eq h.timeline fun _ => Happening.isCore_of_isCall
  journal := h.journal

/-- Parts that are the same have the same calls, if no task of a call becomes ready. -/
theorem of_sameParts (h : SameParts e e')
    (hr : e'.ready.filter Task.isCall = e.ready.filter Task.isCall) : SameCalls e e' where
  nextPing := h.nextPing
  pings := h.pings
  endings := h.endings
  calls id := by rw [Engine.callsOf, Engine.callsOf, h.pingers]
  ready := hr
  timeline := by rw [h.timeline]
  journal := by rw [h.journal]

theorem of_starts {client : ReceiveClient} (h : Starts client e e') : SameCalls e e' := by
  cases h with
  | waits port same fits waiter ready => exact of_sameParts same (by rw [ready])
  | posts task same listener proper waiter ready =>
    refine of_sameParts same ?_
    rw [ready, List.filter_append,
      List.filter_cons_of_neg (by simp [Task.isCall_of_listener listener]), List.filter_nil,
      List.append_nil]

theorem of_passes (h : Passes e e') : SameCalls e e' := by
  cases h with
  | stays same waiter ready => exact of_sameParts same (by rw [ready])
  | posts port client task same listener proper was waiter ready =>
    refine of_sameParts same ?_
    rw [ready, List.filter_append,
      List.filter_cons_of_neg (by simp [Task.isCall_of_listener listener]), List.filter_nil,
      List.append_nil]

/-- A change of a pinger that is not about its calls leaves all calls alone. -/
theorem updatePinger {id : PingerId} {change : Pinger → Pinger}
    (hc : ∀ pinger, (change pinger).calls = pinger.calls) :
    SameCalls e (e.updatePinger id change) := by
  refine { refl e with calls := fun other => ?_ }
  simp only [Engine.callsOf, Engine.updatePinger, Array.getElem?_modify]
  split
  · cases e.pingers[other]? with
    | none => rfl
    | some pinger => simp [hc]
  · rfl

theorem updateHub (id : HubId) (change : Hub → Hub) : SameCalls e (e.updateHub id change) :=
  { refl e with }

theorem updateSocket (socket : SocketId) (change : RawSocket → RawSocket) :
    SameCalls e (e.updateSocket socket change) :=
  { refl e with }

theorem trans (h : SameCalls e e') (h' : SameCalls e' e'') : SameCalls e e'' where
  nextPing := h'.nextPing.trans h.nextPing
  pings := h'.pings.trans h.pings
  endings := h'.endings.trans h.endings
  calls id := (h'.calls id).trans (h.calls id)
  ready := h'.ready.trans h.ready
  timeline := h'.timeline.trans h.timeline
  journal := h'.journal.trans h.journal

theorem post {task : Task} (ht : task.isCall = false) : SameCalls e (e.post task) :=
  { refl e with
    ready := by
      rw [Engine.post, List.filter_append, List.filter_cons_of_neg (by simp [ht]),
        List.filter_nil, List.append_nil] }

theorem receive (socket : SocketId) (client : ReceiveClient) (room : Nat) :
    SameCalls e (e.receive socket client room) := by
  unfold Engine.receive
  split
  · exact refl e
  · split
    · exact post rfl
    · split
      · exact (updateSocket _ _).trans (post rfl)
      · exact updateSocket _ _

theorem askMail (box : MailboxId) (reader : Reader) : SameCalls e (e.askMail box reader) := by
  have hset : ∀ value, SameCalls e (e.setMailbox box value) := fun _ => { refl e with }
  unfold Engine.askMail
  split
  · exact refl e
  · simp only []
    split
    · exact (hset _).trans (post rfl)
    · exact (hset _).trans (post rfl)
    · exact hset _

/-- A pinger that starts to listen has the calls that it had. -/
theorem startReceive (id : PingerId) : SameCalls e (e.startReceive id) := by
  unfold Engine.startReceive
  split
  · exact refl e
  · split
    · exact refl e
    · have hflag : SameCalls e (e.updatePinger id fun pinger =>
          { pinger with receiving := true }) := .updatePinger fun _ => rfl
      simp only []
      split
      · exact hflag.trans (askMail _ _)
      · exact hflag.trans (receive _ _ _)

/-- Nobody is refused by what leaves the calls alone. -/
theorem refused (h : SameCalls e e') (number : PingId) : e'.refused number = e.refused number :=
  countP_eq_of_filter_eq h.ready fun _ ht => Task.isCall_of_refusal (of_decide_eq_true ht)

end SameCalls

/-- The ledger depends on nothing but the calls. -/
theorem Ledger.same {hand : List PingId} {e e' : Engine} (hl : Ledger hand e)
    (h : SameCalls e e') : Ledger hand e' := by
  have hping : ∀ number, e'.ping? number = e.ping? number := fun number => by
    rw [Engine.ping?, Engine.ping?, h.pings]
  have hdone : e'.doneOf = e.doneOf := by
    funext ending
    simp only [Engine.doneOf, hping]
  have htold : ∀ number, e'.told number = e.told number := fun number => by
    rw [Engine.told, Engine.told, h.endings]
  have hentered : ∀ id number, e'.entered id number = e.entered id number := fun id number => by
    rw [Engine.entered, Engine.entered, h.calls]
  exact {
    known := fun number => by rw [hping, h.nextPing]; exact hl.known number
    entered := fun id call hcall => by rw [hping]; exact hl.entered id call (by rwa [← h.calls])
    refused := fun id number caller code sequence ht => by
      rw [hping]
      exact hl.refused _ _ _ _ _ (mem_of_filter_eq h.ready ht (Task.isCall_of_refusal rfl))
    ended := fun ending he => by rw [hping]; exact hl.ended ending (by rwa [← h.endings])
    held := fun number hn => by rw [h.nextPing]; exact hl.held number hn
    once := fun number ping hp => by
      rw [htold, hentered, h.refused]
      exact hl.once number ping (by rwa [← hping])
    tokens := fun id => by rw [h.calls]; exact hl.tokens id
    seen := by rw [h.journal, h.endings, hdone]; exact hl.seen }

end IcmpEcho
