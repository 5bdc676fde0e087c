/-
# The limiters of an engine are watches

A `Rate.Watch` is a limiter with a clock, a timer and the wakes that are posted.  An engine keeps
the four apart: the limiter stands in its array, the timer on the timeline, and a posted wake is a
ready task (`Engine.Watches`).

Whatever the engine does with a limiter are moves of its watch: when a sender asks
(`Turns.acquireLabelled`, `Turns.submit`), when the senders are given up
(`Watches.cancelLimiter`), when the clock goes on, when the timer rings (`Watches.ring`), and when a
wake is performed, with all that the senders that it lets go ask for (`Watches.wake`).  So **an
engine runs a limiter as a watch does** (`Engine.tends_as_watch`), and what holds of every run of a
watch holds of the limiter.
-/
import Mathlib.Logic.Relation
import IcmpEcho.Engine.Running
import IcmpEcho.Proofs.Aside
import IcmpEcho.Proofs.Watch

namespace IcmpEcho

open Rate (Watch Move timerEnd)

namespace Engine

/-- The times for which a timer is set. -/
def expiries (e : Engine) (alarm : Alarm) : List Time :=
  (e.timeline.filter fun entry => entry.2 = .ring alarm).map Prod.fst

/-- How often a timer has rung and was not heard yet. -/
def rings (e : Engine) (alarm : Alarm) : Nat :=
  e.ready.countP fun task => task = .rang alarm .success

/-- The engine keeps a limiter, its timer and its wakes as the watch has them. -/
structure Watches (e : Engine) (id : LimiterId) (watch : Watch Sender) : Prop where
  limiter : e.limiter? id = some watch.limiter
  now : e.now = watch.now
  expiries : e.expiries (.limiter id) = watch.alarm.toList
  rings : e.rings (.limiter id) = watch.rung

end Engine

/-- `e'` has a limiter of `e` with its timer and its wakes, and the same time. -/
structure SameWatch (id : LimiterId) (e e' : Engine) : Prop where
  limiter : e'.limiter? id = e.limiter? id
  now : e'.now = e.now
  expiries : e'.expiries (.limiter id) = e.expiries (.limiter id)
  rings : e'.rings (.limiter id) = e.rings (.limiter id)

variable {id other : LimiterId} {e e' e'' : Engine} {watch : Watch Sender}

/-! ## 1. What is nothing to a limiter -/

namespace SameWatch

theorem refl (e : Engine) : SameWatch id e e := ⟨rfl, rfl, rfl, rfl⟩

theorem trans (h : SameWatch id e e') (h' : SameWatch id e' e'') : SameWatch id e e'' where
  limiter := h'.limiter.trans h.limiter
  now := h'.now.trans h.now
  expiries := h'.expiries.trans h.expiries
  rings := h'.rings.trans h.rings

theorem post {task : Task} (h : task ≠ .rang (.limiter id) .success) :
    SameWatch id e (e.post task) := by
  refine { refl e with rings := ?_ }
  simp [Engine.rings, Engine.post, List.countP_append, h]

theorem schedule {item : Happening} (h : item ≠ .ring (.limiter id)) (time : Time) :
    SameWatch id e (e.schedule time item) := by
  refine { refl e with expiries := congrArg (List.map Prod.fst) ?_ }
  have hp : (fun entry : Time × Happening => decide (entry.2 = .ring (.limiter id))) (time, item)
      = false := decide_eq_false h
  exact Aside.filter_insertAt hp e.timeline

theorem cancelAlarm {alarm : Alarm} (h : alarm ≠ .limiter id) :
    SameWatch id e (e.cancelAlarm alarm) := by
  unfold Engine.cancelAlarm
  split
  · refine { refl e with expiries := congrArg (List.map Prod.fst) ?_, rings := ?_ }
    · rw [List.filter_filter]
      refine List.filter_congr fun entry _ => ?_
      by_cases hring : entry.2 = .ring (.limiter id)
      · simp [hring, h.symm]
      · simp [hring]
    · have hcode : ErrorCode.aborted ≠ .success := by decide
      simp [Engine.rings, List.countP_append, hcode]
  · exact refl e

theorem setAlarm {alarm : Alarm} (h : alarm ≠ .limiter id) (wait : Time) :
    SameWatch id e (e.setAlarm alarm wait) := by
  have hring : Happening.ring alarm ≠ .ring (.limiter id) := by simpa using h
  exact (cancelAlarm h).trans (schedule hring _)

theorem setLimiter (h : other ≠ id) (value : Rate.Limiter Sender) :
    SameWatch id e (e.setLimiter other value) := by
  refine { refl e with limiter := ?_ }
  simp [Engine.limiter?, Engine.setLimiter, Array.getElem?_modify, h]

theorem record (event : Event) : SameWatch id e (e.record event) := { refl e with }

theorem completeSend (client : SendClient) (code : ErrorCode) (count : Nat) :
    SameWatch id e (e.completeSend client code count) := by
  unfold Engine.completeSend
  split
  · exact post (by simp)
  · exact schedule (by simp) _

theorem foldl {α : Type} {f : Engine → α → Engine} (hf : ∀ e a, SameWatch id e (f e a))
    (l : List α) (e : Engine) : SameWatch id e (l.foldl f e) :=
  List.foldlRecOn (motive := SameWatch id e) l f (refl e) fun next h a _ => h.trans (hf next a)

theorem scheduleAnswer (host : Host) (family : Family) (packet : Bytes) :
    SameWatch id e (e.scheduleAnswer host family packet) := by
  unfold Engine.scheduleAnswer
  split
  · exact refl e
  · refine foldl ?_ _ e
    intro e datagram
    exact schedule (by simp) _

theorem transmit (socket : SocketId) (packet : Bytes) (destination : Address)
    (client : SendClient) : SameWatch id e (e.transmit socket packet destination client) := by
  have hnoted : SameWatch id e (e.noteSend socket packet destination) := { refl e with }
  unfold Engine.transmit
  dsimp only
  split
  · exact hnoted.trans (completeSend _ _ _)
  · split
    · exact hnoted.trans (completeSend _ _ _)
    · exact hnoted.trans ((scheduleAnswer _ _ _).trans (completeSend _ _ _))

theorem launch (socket : SocketId) (packet : Bytes) (destination : Address)
    (client : SendClient) : SameWatch id e (e.launch socket packet destination client) := by
  unfold Engine.launch
  dsimp only
  split
  · exact post (by simp)
  · exact transmit _ _ _ _

end SameWatch

namespace Engine.Watches

theorem same (h : e.Watches id watch) (hs : SameWatch id e e') : e'.Watches id watch where
  limiter := hs.limiter.trans h.limiter
  now := hs.now.trans h.now
  expiries := hs.expiries.trans h.expiries
  rings := hs.rings.trans h.rings

/-! ## 2. The limiter and its timer -/

theorem setLimiter (h : e.Watches id watch) (value : Rate.Limiter Sender) :
    (e.setLimiter id value).Watches id { watch with limiter := value } := by
  refine { h with limiter := ?_ }
  have hslot : e.limiters[id]? = some (some watch.limiter) := Option.join_eq_some_iff.1 h.limiter
  simp [Engine.limiter?, Engine.setLimiter, Array.getElem?_modify, hslot]

theorem cancelAlarm (h : e.Watches id watch) :
    (e.cancelAlarm (.limiter id)).Watches id { watch with alarm := none } := by
  have hcode : ErrorCode.aborted ≠ .success := by decide
  unfold Engine.cancelAlarm
  split
  · refine { h with expiries := ?_, rings := Eq.trans ?_ h.rings }
    · simp [Engine.expiries, List.filter_filter]
    · simp [Engine.rings, List.countP_append, hcode]
  · next hunset =>
    refine { h with expiries := ?_ }
    have hnone : e.timeline.filter (fun entry => entry.2 = .ring (.limiter id)) = [] := by
      refine List.filter_eq_nil_iff.2 fun entry hentry hring => hunset ?_
      exact List.any_eq_true.2 ⟨entry, hentry, hring⟩
    simp [Engine.expiries, hnone]

theorem ringAfter (h : e.Watches id { watch with alarm := none }) (wait : Time) :
    (e.ringAfter wait (.limiter id)).Watches id
      { watch with alarm := some (timerEnd watch.now wait) } := by
  refine { h with expiries := ?_ }
  let entry : Time × Happening := (timerEnd e.now wait, .ring (.limiter id))
  have hnone : e.timeline.filter (fun entry => entry.2 = .ring (.limiter id)) = [] := by
    simpa [Engine.expiries] using h.expiries
  have hperm : ((e.ringAfter wait (.limiter id)).timeline.filter
      fun entry => entry.2 = .ring (.limiter id)).Perm [entry] := by
    have hcons := (insertAt_perm entry.1 entry.2 e.timeline).filter
      fun entry => entry.2 = .ring (.limiter id)
    rwa [List.filter_cons_of_pos (by simp [entry]), hnone] at hcons
  rw [Engine.expiries, List.perm_singleton.1 hperm, ← h.now]
  rfl

theorem setAlarm (h : e.Watches id watch) (wait : Time) :
    (e.setAlarm (.limiter id) wait).Watches id
      { watch with alarm := some (timerEnd watch.now wait) } := h.cancelAlarm.ringAfter wait

end Engine.Watches

/-! ## 3. Moves -/

/-- What happens between `e` and `e'` are moves of the watch of a limiter. -/
def Turns (id : LimiterId) (e e' : Engine) : Prop :=
  ∀ watch, e.Watches id watch →
    ∃ past watch', Watch.Run Engine.rounding watch past watch' ∧ e'.Watches id watch'

namespace Turns

theorem trans (h : Turns id e e') (h' : Turns id e' e'') : Turns id e e'' := by
  intro watch hwatch
  obtain ⟨past, watch', hrun, hwatch'⟩ := h watch hwatch
  obtain ⟨past', watch'', hrun', hwatch''⟩ := h' watch' hwatch'
  exact ⟨past ++ past', watch'', hrun.trans hrun', hwatch''⟩

theorem of_same (h : SameWatch id e e') : Turns id e e' := by
  intro watch hwatch
  exact ⟨[], watch, .nil watch, hwatch.same h⟩

theorem foldl {α : Type} {f : Engine → α → Engine} (hf : ∀ e a, Turns id e (f e a))
    (l : List α) (e : Engine) : Turns id e (l.foldl f e) :=
  List.foldlRecOn (motive := Turns id e) l f (of_same (.refl e))
    fun next h a _ => h.trans (hf next a)

end Turns

/-! ## 4. What the engine does with a limiter -/

namespace Engine

/-- A sender asks a limiter; `go` is what is done if it may go at once. -/
def ask (e : Engine) (id : LimiterId) (value : Rate.Limiter Sender) (sender : Sender)
    (go : Engine → Engine) : Engine :=
  let (value, admission) := value.acquire rounding e.now sender
  let e := e.setLimiter id value
  match admission with
  | .queue => e
  | .sleep wait => e.setAlarm (.limiter id) wait
  | .go => go e

/-- A wake of a limiter, before the senders that it lets go do anything. -/
def rouse (e : Engine) (id : LimiterId) (wake : Rate.Limiter.Wake Sender) : Engine :=
  match wake.wait with
  | none => e.setLimiter id wake.limiter
  | some wait => (e.setLimiter id wake.limiter).setAlarm (.limiter id) wait

theorem perform_wake {value : Rate.Limiter Sender} (h : e.limiter? id = some value) :
    e.perform (.rang (.limiter id) .success)
      = (value.wake rounding e.now).released.foldl letGo
          (e.rouse id (value.wake rounding e.now)) := by
  have hcode : ErrorCode.success ≠ .aborted := by decide
  have hwake : e.perform (.rang (.limiter id) .success) = e.wakeLimiter id := by
    simp only [perform, rang, hcode, if_false]
  rw [hwake, wakeLimiter, h]
  rfl

/-- A sender may go at once or not; the rest is the same. -/
theorem ask_cases (value : Rate.Limiter Sender) (sender : Sender) (go : Engine → Engine) :
    e.ask id value sender go = e.ask id value sender (fun e => e) ∨
      e.ask id value sender go = go (e.ask id value sender fun e => e) := by
  unfold ask
  dsimp only
  cases (value.acquire rounding e.now sender).2 with
  | queue => exact .inl rfl
  | sleep wait => exact .inl rfl
  | go => exact .inr rfl

/-- **A sender asks as it asks the watch.** -/
theorem Watches.ask (h : e.Watches id watch) (sender : Sender) :
    (e.ask id watch.limiter sender fun e => e).Watches id
      (watch.turn rounding (.acquire sender)).1 := by
  unfold Engine.ask Watch.turn
  rw [h.now]
  dsimp only
  cases (watch.limiter.acquire rounding watch.now sender).2 with
  | queue => exact h.setLimiter _
  | sleep wait => exact (h.setLimiter _).setAlarm wait
  | go => exact h.setLimiter _

end Engine

theorem SameWatch.ask (hother : other ≠ id) (value : Rate.Limiter Sender) (sender : Sender) :
    SameWatch id e (e.ask other value sender fun e => e) := by
  have hset : ∀ value, SameWatch id e (e.setLimiter other value) := .setLimiter hother
  unfold Engine.ask
  dsimp only
  split
  · exact hset _
  · exact (hset _).trans (.setAlarm (by simpa using hother) _)
  · exact hset _

namespace Turns

theorem ask {value : Rate.Limiter Sender} (hvalue : e.limiter? other = some value)
    (sender : Sender) {go : Engine → Engine} (hgo : ∀ e, Turns id e (go e)) :
    Turns id e (e.ask other value sender go) := by
  have hasked : Turns id e (e.ask other value sender fun e => e) := by
    by_cases hother : other = id
    · subst hother
      intro watch hwatch
      obtain rfl : value = watch.limiter := Option.some.inj (hvalue.symm.trans hwatch.limiter)
      have hrun : Watch.Run Engine.rounding watch [(watch, .acquire sender)] _ :=
        .cons trivial (.nil _)
      exact ⟨_, _, hrun, hwatch.ask sender⟩
    · exact of_same (.ask hother value sender)
  rcases Engine.ask_cases value sender go with hsame | hgone
  · rwa [hsame]
  · rw [hgone]
    exact hasked.trans (hgo _)

theorem acquireLabelled (label : String) (again : Nat) :
    Turns id e (e.acquireLabelled other label again) := by
  induction again generalizing e label with
  | zero =>
    unfold Engine.acquireLabelled
    split
    · exact of_same (.refl e)
    · next value hvalue => exact ask hvalue (.labelled other label 0) fun e => of_same (.record _)
  | succ again ih =>
    unfold Engine.acquireLabelled
    split
    · exact of_same (.refl e)
    · next value hvalue =>
      have hgo : ∀ e : Engine, Turns id e
          ((e.record (.acquired e.now label .success)).acquireLabelled other (label ++ "'")
            again) := by
        intro e
        exact (of_same (.record _)).trans (ih _)
      exact ask hvalue (.labelled other label (again + 1)) hgo

theorem answerLabelled (label : String) (again : Nat) (code : ErrorCode) :
    Turns id e (e.answerLabelled other label again code) := by
  unfold Engine.answerLabelled
  dsimp only
  split
  · exact of_same (.record _)
  · exact (of_same (.record _)).trans (acquireLabelled _ _)

theorem submit (socket : SocketId) (packet : Bytes) (destination : Address)
    (client : SendClient) : Turns id e (e.submit socket packet destination client) := by
  unfold Engine.submit
  split
  · exact of_same (.refl e)
  · next record hrecord =>
    split
    · exact of_same (.post (by simp))
    · split
      · exact of_same (.refl e)
      · next value hvalue =>
        exact ask hvalue (.datagram socket packet destination client)
          fun e => of_same (.launch socket packet destination client)

theorem letGo (sender : Sender) : Turns id e (e.letGo sender) := by
  cases sender with
  | datagram socket packet destination client => exact of_same (.launch _ _ _ _)
  | labelled limiter label again => exact answerLabelled _ _ _

end Turns

/-! ## 5. Clock, timer and wakes -/

namespace Engine.Watches

/-- A limiter that nothing is on its way to yet. -/
theorem fresh (limiter : Rate.Limiter Sender)
    (hexpiries : e.expiries (.limiter e.limiters.size) = [])
    (hrings : e.rings (.limiter e.limiters.size) = 0) :
    (e.addLimiter limiter).1.Watches e.limiters.size { limiter, now := e.now } where
  limiter := by simp [Engine.limiter?, addLimiter]
  now := rfl
  expiries := hexpiries
  rings := hrings

theorem clock (h : e.Watches id watch) {now : Time} (hnow : e.now ≤ now) :
    watch.Allows (.pass now) ∧
      ({ e with now } : Engine).Watches id (watch.turn rounding (.pass now)).1 :=
  ⟨Int.le_trans (Int.le_of_eq h.now.symm) hnow, { h with now := rfl }⟩

/-- **The timer rings as that of the watch.** -/
theorem ring (h : e.Watches id watch) {front back : List (Time × Happening)} {time : Time}
    (htimeline : e.timeline = front ++ (time, .ring (.limiter id)) :: back)
    (hdue : time ≤ e.now) :
    watch.Allows .ring ∧
      (({ e with timeline := front ++ back } : Engine).happen (.ring (.limiter id))).Watches id
        (watch.turn rounding .ring).1 := by
  let rest : Engine := { e with timeline := front ++ back }
  have hset : (time :: rest.expiries (.limiter id)).Perm watch.alarm.toList := by
    rw [← h.expiries, Engine.expiries, Engine.expiries, htimeline]
    have hmiddle : (front ++ (time, .ring (.limiter id)) :: back).Perm
        ((time, .ring (.limiter id)) :: (front ++ back)) := List.perm_middle
    have hrings := (hmiddle.filter fun entry => entry.2 = .ring (.limiter id)).map Prod.fst
    rw [List.filter_cons_of_pos (by simp)] at hrings
    exact hrings.symm
  cases halarm : watch.alarm with
  | none =>
    rw [halarm] at hset
    exact absurd hset.length_eq (by simp)
  | some expiry =>
    -- the timer is set once, so nothing else on the timeline stands for it
    rw [halarm] at hset
    obtain ⟨htime, hnone⟩ := List.cons.inj (List.perm_singleton.1 hset)
    have hexpired : expiry ≤ watch.now := htime ▸ h.now ▸ hdue
    refine ⟨⟨expiry, halarm, hexpired⟩, ?_⟩
    exact {
      limiter := h.limiter
      now := h.now
      expiries := hnone
      rings := by
        have hrings := h.rings
        simpa [Engine.rings, happen, post, List.countP_append, Watch.turn] using hrings }

/-- **The senders are given up as those of the watch.** -/
theorem cancelLimiter (h : e.Watches id watch) :
    (e.cancelLimiter id).Watches id (watch.turn rounding .cancel).1 := by
  unfold Engine.cancelLimiter
  rw [h.limiter]
  dsimp only
  have hposts : ∀ (senders : List Sender) (e : Engine),
      SameWatch id e (senders.foldl (fun e sender => e.post (.turnedAway sender)) e) := by
    intro senders
    exact SameWatch.foldl (fun e sender => .post (by simp)) senders
  exact (h.cancelAlarm.setLimiter _).same (hposts _ _)

/-- The limiter and the timer after a wake are those of the watch. -/
theorem rouse (h : e.Watches id { watch with rung := watch.rung - 1 }) :
    (e.rouse id (watch.limiter.wake rounding e.now)).Watches id
      (watch.turn rounding (.wake fun _ => e.now)).1 := by
  have hnow : e.now = watch.now := h.now
  unfold Watch.turn
  dsimp only
  rw [hnow, Rate.Limiter.wakeAlong_still]
  generalize watch.limiter.wake rounding watch.now = woken
  unfold Engine.rouse Rate.Limiter.Wake.rousing
  cases woken.wait with
  | none => exact h.setLimiter _
  | some wait => exact (h.setLimiter _).setAlarm wait

/-- **A wake that is performed is one of the watch**, with what the senders that it lets go ask
for. -/
theorem wake (h : e.Watches id watch) {front back : List Task}
    (hready : e.ready = front ++ .rang (.limiter id) .success :: back) :
    ∃ past watch', Watch.Run rounding watch past watch' ∧
      (({ e with ready := front ++ back } : Engine).perform
        (.rang (.limiter id) .success)).Watches id watch' := by
  let rest : Engine := { e with ready := front ++ back }
  have hrings : rest.rings (.limiter id) + 1 = watch.rung := by
    rw [← h.rings, Engine.rings, Engine.rings, hready, List.countP_append, List.countP_append,
      List.countP_cons_of_pos (by simp)]
    rfl
  have hrest : rest.Watches id { watch with rung := watch.rung - 1 } :=
    { h with rings := Nat.eq_sub_of_add_eq hrings }
  have hallowed : watch.Allows (.wake fun _ => e.now) :=
    ⟨hrings ▸ Nat.succ_pos _, Int.le_of_eq h.now.symm, fun _ _ _ => Int.le_refl _⟩
  have hreleases : ∀ e : Engine, Turns id e
      ((watch.limiter.wake rounding rest.now).released.foldl Engine.letGo e) :=
    Turns.foldl (fun e sender => Turns.letGo sender) _
  obtain ⟨past, watch', hrun, hwatch'⟩ := hreleases _ _ hrest.rouse
  refine ⟨_, watch', .cons hallowed hrun, ?_⟩
  rw [perform_wake hrest.limiter]
  exact hwatch'

end Engine.Watches

/-! ## 6. Runs -/

/-- What the engine does with a limiter, and whatever is nothing to it. -/
inductive Tends (id : LimiterId) (e : Engine) : Engine → Prop
  | ask (label : String) (again : Nat) : Tends id e (e.acquireLabelled id label again)
  | submit (socket : SocketId) (packet : Bytes) (destination : Address) (client : SendClient) :
    Tends id e (e.submit socket packet destination client)
  | cancel : Tends id e (e.cancelLimiter id)
  | clock {now : Time} (h : e.now ≤ now) : Tends id e { e with now }
  | ring {front back : List (Time × Happening)} {time : Time}
    (h : e.timeline = front ++ (time, .ring (.limiter id)) :: back) (hdue : time ≤ e.now) :
    Tends id e (({ e with timeline := front ++ back } : Engine).happen (.ring (.limiter id)))
  | wake {front back : List Task}
    (h : e.ready = front ++ .rang (.limiter id) .success :: back) :
    Tends id e (({ e with ready := front ++ back } : Engine).perform
      (.rang (.limiter id) .success))
  | other {e' : Engine} (h : SameWatch id e e') : Tends id e e'

/-- One step is a run of the watch. -/
theorem Tends.turns (h : Tends id e e') : Turns id e e' := by
  cases h with
  | ask label again => exact .acquireLabelled label again
  | submit socket packet destination client => exact .submit socket packet destination client
  | cancel =>
    intro watch hwatch
    have hallowed : watch.Allows .cancel := trivial
    exact ⟨_, _, .cons hallowed (.nil _), hwatch.cancelLimiter⟩
  | clock hnow =>
    intro watch hwatch
    obtain ⟨hallowed, hnext⟩ := hwatch.clock hnow
    exact ⟨_, _, .cons hallowed (.nil _), hnext⟩
  | ring htimeline hdue =>
    intro watch hwatch
    obtain ⟨hallowed, hnext⟩ := hwatch.ring htimeline hdue
    exact ⟨_, _, .cons hallowed (.nil _), hnext⟩
  | wake hready =>
    intro watch hwatch
    exact hwatch.wake hready
  | other hsame => exact .of_same hsame

/-- **An engine runs a limiter as a watch does.** -/
theorem Engine.tends_as_watch {limiter : Rate.Limiter Sender}
    (hexpiries : e.expiries (.limiter e.limiters.size) = [])
    (hrings : e.rings (.limiter e.limiters.size) = 0)
    (hrun : Relation.ReflTransGen (Tends e.limiters.size) (e.addLimiter limiter).1 e') :
    ∃ past watch, Watch.Run rounding { limiter, now := e.now } past watch ∧
      e'.Watches e.limiters.size watch := by
  induction hrun with
  | refl => exact ⟨[], _, .nil _, .fresh limiter hexpiries hrings⟩
  | tail _ hstep ih =>
    obtain ⟨past, watch, hpast, hwatch⟩ := ih
    obtain ⟨past', watch', hmoves, hwatch'⟩ := hstep.turns watch hwatch
    exact ⟨past ++ past', watch', hpast.trans hmoves, hwatch'⟩

end IcmpEcho
