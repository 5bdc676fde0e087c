/-
# Runs in time

`Session.Run` lets any item of the timeline happen at any time and sets the clock to anything.  A
run is *in time* when the clock never goes back and no item happens before the time at which it
stands (`Deed.InTime`).  Which of the items that are due happens first, and which of the ready tasks
is performed next, is still left open, and so is how late they are.

**Every session that is reached in time is punctual** (`ReachableInTime.punctual`), and the clock
goes on from it (`ReachableInTime.now_le`).
-/
import IcmpEcho.Proofs.PunctualTasks
import IcmpEcho.Proofs.Runs

namespace IcmpEcho

namespace Session

variable {s s' s'' : Session} {e : Engine} {start : Time}

/-! ## 1. Deeds in time -/

/-- The clock is not turned back, and an item happens no earlier than its time. -/
def Deed.InTime (s : Session) : Deed → Prop
  | .clock now => s.engine.now ≤ now
  | .item due => ∃ time, time ≤ s.engine.now ∧ (time, due) ∈ s.engine.timeline
  | _ => True

/-- The session can come about in time. -/
def ReachableInTime (s : Session) : Prop :=
  ∃ network logLevel logFile files signals past,
    Run (fresh network logLevel logFile files signals) past s ∧
      ∀ entry ∈ past, entry.2.InTime entry.1

namespace ReachableInTime

theorem reachable (hr : ReachableInTime s) : Reachable s := by
  obtain ⟨network, logLevel, logFile, files, signals, past, hrun, -⟩ := hr
  exact ⟨network, logLevel, logFile, files, signals, past, hrun⟩

theorem fresh (network : Network) (logLevel : Int) (logFile : Option String)
    (files : List (String × String)) (signals : List (Time × Int)) :
    ReachableInTime (fresh network logLevel logFile files signals) :=
  ⟨network, logLevel, logFile, files, signals, [], .nil _, fun _ h => nomatch h⟩

theorem run {past : List (Session × Deed)} (hr : ReachableInTime s) (h : Run s past s')
    (hpast : ∀ entry ∈ past, entry.2.InTime entry.1) : ReachableInTime s' := by
  obtain ⟨network, logLevel, logFile, files, signals, before, hbefore, hearlier⟩ := hr
  refine ⟨network, logLevel, logFile, files, signals, before ++ past, hbefore.trans h, ?_⟩
  intro entry hentry
  rcases List.mem_append.1 hentry with hold | hnew
  · exact hearlier entry hold
  · exact hpast entry hnew

theorem does {deed : Deed} (hr : ReachableInTime s) (h : Does s deed s') (htime : deed.InTime s) :
    ReachableInTime s' := by
  refine hr.run (.one h) ?_
  intro entry hentry
  obtain rfl := List.mem_singleton.1 hentry
  exact htime

theorem step (hr : ReachableInTime s) (step : Step) (h : ∀ duration, step ≠ .run duration) :
    ReachableInTime (s.perform step).1 := hr.does (.step step h) trivial

theorem clock (hr : ReachableInTime s) {now : Time} (h : s.engine.now ≤ now) :
    ReachableInTime { s with engine := { s.engine with now } } := hr.does (.clock now) h

theorem item (hr : ReachableInTime s) {front back : List (Time × Happening)} {time : Time}
    {item : Happening} (h : s.engine.timeline = front ++ (time, item) :: back)
    (hdue : time ≤ s.engine.now) : ReachableInTime
      { s with engine := ({ s.engine with timeline := front ++ back }.happen item).sweep } :=
  hr.does (.item h) ⟨time, hdue, by rw [h]; simp⟩

theorem task (hr : ReachableInTime s) {front back : List Task} {task : Task}
    (h : s.engine.ready = front ++ task :: back) : ReachableInTime
      { s with engine := ({ s.engine with ready := front ++ back }.perform task).sweep } :=
  hr.does (.task h) trivial

end ReachableInTime

/-! ## 2. Steps keep an engine punctual -/

open Engine

theorem letGo_punctual (h : e.Punctual start) (handle : Handle) :
    (letGo e handle).Punctual start := by
  cases handle with
  | socket socket => exact h.closeSocket _
  | hub hub => exact h.closeHub _
  | pinger pinger => exact h.releasePinger _

theorem drop_punctual (h : s.engine.Punctual start) (name : String) :
    (s.drop name).engine.Punctual start := by
  unfold drop
  split
  · exact h
  · exact letGo_punctual h _

theorem hold_punctual (s : Session) (name : String) {made : Engine × Except Failure Handle}
    (h : made.1.Punctual start) : (s.hold name made).1.engine.Punctual start := by
  obtain ⟨e, made⟩ := made
  cases made with
  | error failure => exact h
  | ok handle =>
    have hs : { s with engine := e }.engine.Punctual start := h
    exact drop_punctual hs name

theorem use_punctual (h : s.engine.Punctual start) (name : String) {act : Engine → Handle → Engine}
    (hact : ∀ e handle, e.Punctual start → (act e handle).Punctual start) :
    (s.use name act).engine.Punctual start := by
  unfold use
  split
  · exact h
  · exact hact _ _ h

theorem deliver_punctual (h : e.Punctual start) (source : Address) (data : Bytes) (count : Nat)
    (time : Option Time) : (deliver e source data count time).Punctual start := by
  cases time with
  | none => exact Punctual.foldl (fun _ _ h => h.deliver source data) _ h
  | some time =>
    refine Punctual.foldl ?_ _ h
    intro e n h
    exact h.schedule trivial

theorem register_punctual (h : s.engine.Punctual start) (hub : String) (destination : Address) :
    (s.register hub destination).1.Punctual start := by
  unfold register
  split
  · exact h.register _ _
  · exact h

/-- **A step keeps an engine punctual.** -/
theorem perform_punctual (h : s.engine.Punctual start) {step : Step}
    (hstep : ∀ duration, step ≠ .run duration) : (s.perform step).1.engine.Punctual start := by
  cases step with
  | openSocket name settings => exact hold_punctual s name (h.openSocket settings)
  | openHub name settings => exact hold_punctual s name (h.openHub settings)
  | create name destination settings =>
    exact hold_punctual s name (h.createPinger destination settings)
  | register name hub destination =>
    exact hold_punctual s name (register_punctual h hub destination)
  | configure name identifier size timeout =>
    refine use_punctual h name ?_
    intro e handle h
    cases handle with
    | pinger pinger => exact h.updatePinger fun _ _ => List.Subset.refl _
    | _ => exact h
  | ping name sequence tag again =>
    refine use_punctual h name ?_
    intro e handle h
    cases handle with
    | pinger pinger => exact h.ping _ _ _
    | _ => exact h
  | burst name sequence count =>
    refine use_punctual h name ?_
    intro e handle h
    cases handle with
    | pinger pinger => exact Punctual.foldl (fun _ _ h => h.ping _ _ _) _ h
    | _ => exact h
  | drop name => exact drop_punctual h name
  | close name =>
    refine use_punctual h name ?_
    intro e handle h
    cases handle with
    | socket socket => exact h.closeSocket _
    | hub hub => exact h.closeHub _
    | pinger pinger => exact h
  | cancel name =>
    refine use_punctual h name ?_
    intro e handle h
    cases handle with
    | socket socket => exact h.cancelSocket _
    | _ => exact h
  | send name destination data tag =>
    refine use_punctual h name ?_
    intro e handle h
    cases handle with
    | socket socket => exact h.submit _ _ _ _
    | _ => exact h
  | receive name room tag =>
    refine use_punctual h name ?_
    intro e handle h
    cases handle with
    | socket socket => exact h.receive _ _ _
    | _ => exact h
  | deliver source data count time => exact deliver_punctual h source data count time
  | failReceives family errno only => exact h.failReceives _ _ _
  | run duration => exact absurd rfl (hstep duration)
  | logLevel level => exact { h with }

/-! ## 3. Runs keep an engine punctual -/

/-- **What happens in time keeps an engine punctual.** -/
theorem Does.punctual {deed : Deed} (h : Does s deed s') (htime : deed.InTime s)
    (hp : s.engine.Punctual start) : s'.engine.Punctual start := by
  cases h with
  | step step hstep => exact perform_punctual hp hstep
  | @task front back task hready =>
    have htask : s.engine.Fair task := hp.ready task (by rw [hready]; simp)
    have hrest : { s.engine with ready := front ++ back }.Punctual start := by
      refine { hp with ready := ?_ }
      intro other hother
      refine hp.ready other ?_
      exact (sublist_of_taken hready).subset hother
    exact (Punctual.perform hrest htask).sweep
  | @item front back time item htimeline =>
    obtain ⟨due, hdue, hmem⟩ := htime
    have hitem : s.engine.OnTime s.engine.now item :=
      (hp.timeline _ hmem).mono fun _ hring => hring.later hdue
    have hrest : { s.engine with timeline := front ++ back }.Punctual start := by
      refine { hp with timeline := ?_ }
      intro other hother
      refine hp.timeline other ?_
      exact (sublist_of_taken htimeline).subset hother
    exact (Punctual.happen hrest hitem).sweep
  | clock now => exact hp.clock htime
  | network network => exact { hp with }
  | openService config => exact hp.openService config
  | startService => exact hp.startService
  | endService => exact hp.endService

theorem punctual_fresh (network : Network) (logLevel : Int) (logFile : Option String)
    (files : List (String × String)) (signals : List (Time × Int)) :
    (Session.fresh network logLevel logFile files signals).engine.Punctual 0 := by
  refine Punctual.foldl ?_ _ ?_
  · intro e signal h
    exact h.schedule trivial
  · exact
      { since := Int.le_refl 0
        calls := fun id pinger hp => by simp at hp
        pings := fun ping hping => nomatch hping
        timeline := fun entry hentry => nomatch hentry
        ready := fun task htask => nomatch htask
        sockets := fun socket record hrecord => by simp at hrecord
        boxes := fun box value hvalue => by simp at hvalue }

theorem Run.punctual {past : List (Session × Deed)} (h : Run s past s')
    (hpast : ∀ entry ∈ past, entry.2.InTime entry.1) (hp : s.engine.Punctual start) :
    s'.engine.Punctual start := by
  induction h with
  | nil => exact hp
  | cons head rest ih =>
    refine ih (fun entry hentry => hpast entry (List.mem_cons_of_mem _ hentry)) ?_
    exact head.punctual (hpast _ List.mem_cons_self) hp

/-- **Times and codes are in order in every session that is reached in time.** -/
theorem ReachableInTime.punctual (hr : ReachableInTime s) : s.engine.Punctual 0 := by
  obtain ⟨network, logLevel, logFile, files, signals, past, hrun, hpast⟩ := hr
  exact hrun.punctual hpast (punctual_fresh network logLevel logFile files signals)

/-- **The clock goes on along a run in time.** -/
theorem ReachableInTime.now_le {past : List (Session × Deed)} (hr : ReachableInTime s)
    (h : Run s past s') (hpast : ∀ entry ∈ past, entry.2.InTime entry.1) :
    s.engine.now ≤ s'.engine.now := by
  have hstart : s.engine.Punctual s.engine.now := { hr.punctual with since := Int.le_refl _ }
  exact (h.punctual hpast hstart).since

end Session

end IcmpEcho
