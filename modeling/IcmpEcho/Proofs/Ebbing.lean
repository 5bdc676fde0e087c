/-
# Timers that go

A round sets timers: those of its calls, and the one for the next round.  Between two rounds these
timers only go.  `Ebbs e e'` says that `e'` comes from `e` in the same network, while the clock does
not go back, and

* **the timers of calls and rounds that are set are some of those that were set**, in the same
  order (`Ebbs.timers`);
* a timeline in the order of time stays so;
* every pinger keeps its timeout.

Chores are so (`Ebbs.of_chores`).
-/
import IcmpEcho.Proofs.Offstage

namespace IcmpEcho

variable {e e' e'' : Engine}

/-! ## 1. The relation -/

/-- The item is the timer of a call, or the one for the next round. -/
def Happening.isTimer : Happening → Bool
  | .ring (.limiter _) => false
  | .ring _ => true
  | _ => false

/-- The timers of calls and rounds that are set, in the order in which they are to ring. -/
def Engine.timers (e : Engine) : List (Time × Happening) :=
  e.timeline.filter fun entry => entry.2.isTimer

/-- The timeline is in the order of time. -/
def Engine.Ordered (e : Engine) : Prop := e.timeline.Pairwise fun a b => a.1 ≤ b.1

/-- `e'` comes from `e` without a new timer. -/
structure Ebbs (e e' : Engine) : Prop where
  network : e'.network = e.network
  now : e.now ≤ e'.now
  timers : e'.timers.Sublist e.timers
  ordered : e.Ordered → e'.Ordered
  timeouts : ∀ (id : PingerId) (pinger : Pinger), e.pingers[id]? = some pinger →
    ∃ pinger', e'.pingers[id]? = some pinger' ∧ pinger'.timeout = pinger.timeout

namespace Ebbs

theorem refl (e : Engine) : Ebbs e e where
  network := rfl
  now := Int.le_refl _
  timers := List.Sublist.refl _
  ordered h := h
  timeouts _ pinger hp := ⟨pinger, hp, rfl⟩

theorem trans (h : Ebbs e e') (h' : Ebbs e' e'') : Ebbs e e'' where
  network := h'.network.trans h.network
  now := Int.le_trans h.now h'.now
  timers := h'.timers.trans h.timers
  ordered ho := h'.ordered (h.ordered ho)
  timeouts id pinger hp := by
    obtain ⟨pinger', hp', hsame⟩ := h.timeouts id pinger hp
    obtain ⟨pinger'', hp'', hsame'⟩ := h'.timeouts id pinger' hp'
    exact ⟨pinger'', hp'', hsame'.trans hsame⟩

/-- Clock, timeline and pingers are what they were. -/
theorem of_same (network : e'.network = e.network) (now : e'.now = e.now)
    (timeline : e'.timeline = e.timeline) (pingers : e'.pingers = e.pingers) : Ebbs e e' where
  network := network
  now := Int.le_of_eq now.symm
  timers := by rw [Engine.timers, timeline]; exact List.Sublist.refl _
  ordered ho := by rwa [Engine.Ordered, timeline]
  timeouts _ pinger hp := ⟨pinger, by rwa [pingers], rfl⟩

/-! ## 2. Single chores -/

/-- Something that is no timer is put on the timeline. -/
theorem schedule {time : Time} {item : Happening} (ht : item.isTimer = false) :
    Ebbs e (e.schedule time item) where
  network := rfl
  now := Int.le_refl _
  timers := by
    have hsame : (e.schedule time item).timers = e.timers := Aside.filter_insertAt ht e.timeline
    rw [hsame]
  ordered ho := Engine.pairwise_insertAt ho
  timeouts _ pinger hp := ⟨pinger, hp, rfl⟩

/-- Items are taken off the timeline. -/
theorem drop {timeline : List (Time × Happening)} (h : timeline.Sublist e.timeline) :
    Ebbs e { e with timeline } where
  network := rfl
  now := Int.le_refl _
  timers := h.filter _
  ordered ho := ho.sublist h
  timeouts _ pinger hp := ⟨pinger, hp, rfl⟩

/-- The clock goes on. -/
theorem clock {now : Time} (h : e.now ≤ now) : Ebbs e { e with now } := { refl e with now := h }

theorem cancelAlarm (alarm : Alarm) : Ebbs e (e.cancelAlarm alarm) := by
  unfold Engine.cancelAlarm
  split
  · have hoff : Ebbs e { e with timeline := e.timeline.filter fun entry => entry.2 ≠ .ring alarm } :=
      drop List.filter_sublist
    exact hoff.trans (of_same rfl rfl rfl rfl)
  · exact refl e

/-- A pinger keeps its timeout. -/
theorem updatePinger (id : PingerId) {change : Pinger → Pinger}
    (hc : ∀ pinger, e.pingers[id]? = some pinger → (change pinger).timeout = pinger.timeout) :
    Ebbs e (e.updatePinger id change) := by
  refine { refl e with timeouts := fun other pinger hp => ?_ }
  simp only [Engine.updatePinger, Array.getElem?_modify]
  split
  · next heq =>
    subst heq
    exact ⟨change pinger, by rw [hp, Option.map_some], hc pinger hp⟩
  · exact ⟨pinger, hp, rfl⟩

theorem of_chore (h : Chore e e') : Ebbs e e' := by
  cases h with
  | inward h => exact of_same h.network h.now h.timeline h.pingers
  | post hc hr => exact of_same rfl rfl rfl rfl
  | deliver time source data => exact schedule rfl
  | later time client code count => exact schedule rfl
  | cancel ha => exact cancelAlarm _
  | sleep limiter wait => exact schedule rfl
  | parts => exact of_same rfl rfl rfl rfl
  | pinger identifier timeout => exact updatePinger _ timeout
  | addPinger destination socket mailbox =>
    refine { refl e with timeouts := fun id pinger hp => ⟨pinger, ?_, rfl⟩ }
    exact Array.getElem?_push_of_some hp _

/-- **Chores set no timer of a call or a round.** -/
theorem of_chores (h : Chores e e') : Ebbs e e' := h.lift refl trans of_chore

end Ebbs

end IcmpEcho
