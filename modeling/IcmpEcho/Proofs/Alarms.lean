/-
# The timers of calls

`Armed late e`: each call has its own timer, and that timer is set, or has rung and not been told,
exactly once (`Armed.rings`).  The alarm `late` is the one whose ringing is being handled; it still
counts.

A timer carries the number of its ping, and numbers are not used twice (`Armed.fresh`).  So a timer
that rings late finds no call, never another one.
-/
import IcmpEcho.Proofs.Accounting

namespace IcmpEcho

variable {e e' : Engine} {late : Option Alarm} {alarm : Alarm} {id : PingerId} {pinger : Pinger}

/-! ## 1. Timers that are set or have rung -/

namespace Engine

/-- How often a timer is set, or has rung and not been told. -/
def armed (e : Engine) (alarm : Alarm) : Nat :=
  e.ready.countP (fun task => task.rings? = some alarm)
    + e.timeline.countP (fun entry => entry.2 = .ring alarm)

theorem armed_eq_zero_iff : e.armed alarm = 0 ↔
    (∀ task ∈ e.ready, task.rings? ≠ some alarm) ∧ ∀ entry ∈ e.timeline, entry.2 ≠ .ring alarm := by
  simp [armed, List.countP_eq_zero]

theorem armed_post_of_ne {task : Task} (h : task.rings? ≠ some alarm) :
    (e.post task).armed alarm = e.armed alarm := by
  simp [armed, post, List.countP_append, h]

theorem armed_ringAfter (wait : Time) (other : Alarm) :
    (e.ringAfter wait other).armed alarm = e.armed alarm + if other = alarm then 1 else 0 := by
  have hcount := (insertAt_perm (min (e.now + wait) endOfTime) (.ring other) e.timeline).countP_eq
    fun entry => entry.2 = .ring alarm
  simp only [armed, ringAfter, schedule]
  rw [hcount, List.countP_cons]
  simp only [decide_eq_true_eq, Happening.ring.injEq]
  omega

/-- Cancelling one timer leaves the others. -/
theorem armed_cancelAlarm_of_ne {other : Alarm} (h : other ≠ alarm) :
    (e.cancelAlarm other).armed alarm = e.armed alarm := by
  unfold cancelAlarm
  split
  · have hkeep : (e.timeline.filter fun entry => entry.2 ≠ .ring other).countP
        (fun entry => entry.2 = .ring alarm)
        = e.timeline.countP fun entry => entry.2 = .ring alarm := by
      rw [List.countP_filter]
      refine List.countP_congr fun entry _ => ?_
      constructor
      · intro hboth
        exact (Bool.and_eq_true_iff.1 hboth).1
      · intro hring
        have hring : entry.2 = .ring alarm := of_decide_eq_true hring
        simp [hring, Ne.symm h]
    simp only [armed, List.countP_append, hkeep]
    simp [Task.rings?]
  · rfl

theorem armed_cancelAlarm_le (other : Alarm) :
    (e.cancelAlarm other).armed alarm ≤ e.armed alarm := by
  by_cases h : other = alarm
  · subst h
    unfold cancelAlarm
    split
    · have hle : (e.timeline.filter fun entry => entry.2 ≠ .ring other).countP
          (fun entry => entry.2 = .ring other) ≤ e.timeline.countP fun entry => entry.2 = .ring other :=
        List.Sublist.countP_le List.filter_sublist
      simp only [armed, List.countP_append]
      simp only [Task.rings?, List.countP_cons, List.countP_nil, if_true, reduceCtorEq, decide_false,
        Bool.false_eq_true, if_false]
      omega
    · exact Nat.le_refl _
  · exact Nat.le_of_eq (armed_cancelAlarm_of_ne h)

end Engine

theorem Task.isCall_of_rings {task : Task} (h : task.rings? = some alarm)
    (ha : alarm.isCall) : task.isCall := by
  simp [Task.isCall, h, ha]

/-- The timers of calls depend on nothing but the calls. -/
theorem SameCalls.armed (h : SameCalls e e') (ha : alarm.isCall) :
    e'.armed alarm = e.armed alarm := by
  rw [Engine.armed, Engine.armed]
  congr 1
  · exact countP_eq_of_filter_eq h.ready fun task ht =>
      Task.isCall_of_rings (of_decide_eq_true ht) ha
  · refine countP_eq_of_filter_eq h.timeline fun entry he => ?_
    have he : entry.2 = .ring alarm := of_decide_eq_true he
    simpa [he, Happening.isCall] using ha

/-! ## 2. One timer for each call -/

/-- **Each call has its timer.** -/
structure Armed (late : Option Alarm) (e : Engine) : Prop where
  rings : ∀ id, ∀ call ∈ e.callsOf id,
    e.armed (.call id call.token call.timer)
      + (if late = some (.call id call.token call.timer) then 1 else 0) = 1
  fresh : ∀ id token timer,
    0 < e.armed (.call id token timer) + (if late = some (.call id token timer) then 1 else 0) →
    timer < e.nextPing

namespace Armed

/-- No call comes in, and those that stay keep their timers. -/
theorem fewer (ha : Armed late e)
    (calls : ∀ id, ∀ call ∈ e'.callsOf id, ∃ old ∈ e.callsOf id,
      old.token = call.token ∧ old.timer = call.timer)
    (keep : ∀ id, ∀ call ∈ e'.callsOf id,
      e'.armed (.call id call.token call.timer) = e.armed (.call id call.token call.timer))
    (fewer : ∀ id token timer, e'.armed (.call id token timer) ≤ e.armed (.call id token timer))
    (next : e.nextPing ≤ e'.nextPing) : Armed late e' where
  rings id call hcall := by
    obtain ⟨old, hold, htoken, htimer⟩ := calls id call hcall
    rw [keep id call hcall, ← htoken, ← htimer]
    exact ha.rings id old hold
  fresh id token timer hpos := by
    have hle := fewer id token timer
    exact Nat.lt_of_lt_of_le (ha.fresh id token timer (by omega)) next

theorem same (ha : Armed late e) (h : SameCalls e e') : Armed late e' :=
  ha.fewer (fun id call hcall => ⟨call, by rwa [← h.calls], rfl, rfl⟩) (fun _ _ _ => h.armed rfl)
    (fun _ _ _ => Nat.le_of_eq (h.armed rfl))
    (Nat.le_of_eq h.nextPing.symm)

/-- Calls that a pinger loses lose their claim on their timers. -/
theorem updatePinger (ha : Armed late e) (hp : e.pingers[id]? = some pinger)
    {change : Pinger → Pinger}
    (hc : ∀ call ∈ (change pinger).calls, ∃ old ∈ pinger.calls,
      old.token = call.token ∧ old.timer = call.timer) :
    Armed late (e.updatePinger id change) := by
  refine ha.fewer (fun other call hcall => ?_) (fun _ _ _ => rfl) (fun _ _ _ => Nat.le_refl _)
    (Nat.le_refl _)
  rw [Engine.callsOf_updatePinger hp] at hcall
  split at hcall
  · next hother =>
    rw [hother, Engine.callsOf_eq hp]
    exact hc call hcall
  · exact ⟨call, hcall, rfl, rfl⟩

/-- **The timer of a ping that has no call any more can be cancelled.** -/
theorem cancelAlarm (ha : Armed late e) {token : Token} {timer : TimerId}
    (hno : ∀ id, ∀ call ∈ e.callsOf id, call.timer ≠ timer) :
    Armed late (e.cancelAlarm (.call id token timer)) := by
  have hcalls : ∀ other, (e.cancelAlarm (.call id token timer)).callsOf other = e.callsOf other := by
    intro other
    unfold Engine.cancelAlarm
    split <;> rfl
  have hnext : (e.cancelAlarm (.call id token timer)).nextPing = e.nextPing := by
    unfold Engine.cancelAlarm
    split <;> rfl
  refine ha.fewer (fun other call hcall => ⟨call, by rwa [← hcalls], rfl, rfl⟩)
    (fun other call hcall => Engine.armed_cancelAlarm_of_ne ?_)
    (fun _ _ _ => Engine.armed_cancelAlarm_le _) (Nat.le_of_eq hnext.symm)
  rintro heq
  rw [hcalls] at hcall
  injection heq with _ _ htimer
  exact hno other call hcall htimer.symm

/-- **A call that is entered sets its timer.** -/
theorem enterCall (ha : Armed late e) (hp : e.pingers[id]? = some pinger) (token : Token)
    (caller : Caller) : Armed late (e.enterCall id pinger token caller) := by
  have harmed : ∀ alarm, (e.enterCall id pinger token caller).armed alarm
      = e.armed alarm + if Alarm.call id token e.nextPing = alarm then 1 else 0 := fun alarm =>
    Engine.armed_ringAfter _ _
  have hold : ∀ (other : PingerId) (t : Token),
      e.armed (.call other t e.nextPing)
        + (if late = some (.call other t e.nextPing) then 1 else 0) = 0 := by
    intro other t
    have := mt (ha.fresh other t e.nextPing) (Nat.lt_irrefl _)
    omega
  constructor
  · intro other call hcall
    have hcall : call ∈ ((e.noteAsked id pinger token caller).updatePinger id fun pinger =>
        { pinger with calls := Call.insert _ pinger.calls }).callsOf other := hcall
    rw [Engine.callsOf_updatePinger (e := e.noteAsked id pinger token caller) hp] at hcall
    rw [harmed]
    have hprior : call ∈ e.callsOf other → Alarm.call id token e.nextPing
        ≠ .call other call.token call.timer := by
      rintro hmem heq
      injection heq with hid htoken htimer
      have hone := ha.rings other call hmem
      have hzero := hold other call.token
      rw [← htimer] at hone
      omega
    have hcases : call ∈ e.callsOf other ∨
        (other = id ∧ call.token = token ∧ call.timer = e.nextPing) := by
      split at hcall
      · next hother =>
        rcases Call.mem_insert.1 hcall with rfl | hcall
        · exact .inr ⟨hother, rfl, rfl⟩
        · rw [hother, Engine.callsOf_eq hp]
          exact .inl hcall
      · exact .inl hcall
    rcases hcases with hmem | ⟨rfl, htoken, htimer⟩
    · rw [if_neg (hprior hmem), Nat.add_zero]
      exact ha.rings other call hmem
    · have hzero := hold other token
      rw [htoken, htimer, if_pos rfl]
      omega
  · intro other t timer hpos
    rw [harmed] at hpos
    have hnext : (e.enterCall id pinger token caller).nextPing = e.nextPing + 1 := rfl
    rw [hnext]
    by_cases heq : Alarm.call id token e.nextPing = .call other t timer
    · injection heq with _ _ htimer
      rw [← htimer]
      exact Nat.lt_succ_self _
    · rw [if_neg heq, Nat.add_zero] at hpos
      exact Nat.lt_succ_of_lt (ha.fresh other t timer hpos)

/-- Refusing a ping is nothing to any call. -/
theorem refuse (ha : Armed late e) (id : PingerId) (pinger : Pinger) (token : Token)
    (caller : Caller) (fault : PingFault) : Armed late (e.refuse id pinger token caller fault) :=
  have harmed : ∀ alarm, (e.refuse id pinger token caller fault).armed alarm = e.armed alarm :=
    fun _ => Engine.armed_post_of_ne (e := e.noteAsked id pinger token caller) (by simp [Task.rings?])
  ha.fewer (fun _ call hcall => ⟨call, hcall, rfl, rfl⟩) (fun _ _ _ => harmed _)
    (fun _ _ _ => Nat.le_of_eq (harmed _)) (Nat.le_succ _)

/-- When the call of a late alarm is gone, nothing is late any more. -/
theorem settle (ha : Armed (some alarm) e)
    (hno : ∀ id, ∀ call ∈ e.callsOf id, alarm ≠ .call id call.token call.timer) : Armed none e where
  rings id call hcall := by
    have hone := ha.rings id call hcall
    rw [if_neg (by simpa using hno id call hcall)] at hone
    simpa using hone
  fresh id token timer hpos := ha.fresh id token timer (by simp at hpos; omega)

/-- **A task that is taken up takes its alarm with it.** -/
theorem consume (ha : Armed none e) {front back : List Task} {task : Task}
    (hr : e.ready = front ++ task :: back) :
    Armed task.rings? { e with ready := front ++ back } := by
  have harmed : ∀ alarm, Engine.armed { e with ready := front ++ back } alarm
      + (if task.rings? = some alarm then 1 else 0) = e.armed alarm := by
    intro alarm
    simp only [Engine.armed, hr, List.countP_append, List.countP_cons, decide_eq_true_eq]
    omega
  constructor
  · intro id call hcall
    rw [harmed]
    simpa using ha.rings id call hcall
  · intro id token timer hpos
    rw [harmed] at hpos
    exact ha.fresh id token timer (by simpa using hpos)

end Armed

end IcmpEcho
