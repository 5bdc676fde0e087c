/-
# Between two rounds

`Lull e e'` says that `e'` comes from `e` and no round has begun in between: no ping was asked for,
the service has the configuration and the rounds that it had and pings the same pingers, the timer
for the next round is not set anew, and no task has become ready that begins a round or refuses a
ping.  Pings may have ended, at times that are past, and the timers that are set only go (`Ebbs`).

Chores are so (`Lull.of_chores`), and telling the service is, also when it stops because of that
(`Lull.tell`).  So **a whole task is a lull** unless it begins a round (`Lull.of_reports`).
-/
import IcmpEcho.Proofs.Ebbing
import IcmpEcho.Proofs.Rounds

namespace IcmpEcho

variable {e e' e'' : Engine}

/-! ## 1. The relation -/

/-- The task begins a round, or refuses a ping. -/
def Task.isMarked (task : Task) : Bool := task.rings? = some .round || task.refusal?.isSome

/-- What the service is to do, and how many rounds it has begun. -/
def Engine.agenda (e : Engine) : Option (Config × UInt32) :=
  e.service.map fun service => (service.config, service.round)

/-- `e'` comes from `e`, and no round has begun in between. -/
structure Lull (e e' : Engine) : Prop extends Ebbs e e' where
  agenda : e'.agenda = e.agenda
  targets : e'.targetPingers = e.targetPingers
  nextPing : e'.nextPing = e.nextPing
  pings : e'.pings = e.pings
  endings : ∃ fresh, e'.endings = fresh ++ e.endings ∧ ∀ ending ∈ fresh, ending.time ≤ e'.now
  armed : e'.armed .round ≤ e.armed .round
  ready : ∀ task ∈ e'.ready, task.isMarked → task ∈ e.ready

namespace Lull

/-- Nobody was told. -/
theorem of_untold (h : Ebbs e e') (agenda : e'.agenda = e.agenda)
    (targets : e'.targetPingers = e.targetPingers) (nextPing : e'.nextPing = e.nextPing)
    (pings : e'.pings = e.pings) (endings : e'.endings = e.endings)
    (armed : e'.armed .round ≤ e.armed .round)
    (ready : ∀ task ∈ e'.ready, task.isMarked → task ∈ e.ready) : Lull e e' :=
  ⟨h, agenda, targets, nextPing, pings, ⟨[], endings, fun _ h => nomatch h⟩, armed, ready⟩

theorem refl (e : Engine) : Lull e e :=
  of_untold (.refl e) rfl rfl rfl rfl rfl (Nat.le_refl _) fun _ h _ => h

theorem trans (h : Lull e e') (h' : Lull e' e'') : Lull e e'' where
  toEbbs := h.toEbbs.trans h'.toEbbs
  agenda := h'.agenda.trans h.agenda
  targets := h'.targets.trans h.targets
  nextPing := h'.nextPing.trans h.nextPing
  pings := h'.pings.trans h.pings
  endings := by
    obtain ⟨earlier, hearlier, hpast⟩ := h.endings
    obtain ⟨later, hlater, hpast'⟩ := h'.endings
    refine ⟨later ++ earlier, by rw [hlater, hearlier, List.append_assoc], fun ending hmem => ?_⟩
    rcases List.mem_append.1 hmem with hmem | hmem
    · exact hpast' ending hmem
    · exact Int.le_trans (hpast ending hmem) h'.now
  armed := Nat.le_trans h'.armed h.armed
  ready task hmem hmarked := h.ready task (h'.ready task hmem hmarked) hmarked

/-! ## 2. Queues and clock -/

/-- The clock goes on. -/
theorem clock {now : Time} (h : e.now ≤ now) : Lull e { e with now } :=
  of_untold (.clock h) rfl rfl rfl rfl rfl (Nat.le_refl _) fun _ h _ => h

/-- A task is ready that neither begins a round nor refuses a ping. -/
theorem post {task : Task} (h : task.isMarked = false) : Lull e (e.post task) := by
  have hround : task.rings? ≠ some .round := by
    intro hring
    simp [Task.isMarked, hring] at h
  refine of_untold (.of_same rfl rfl rfl rfl) rfl rfl rfl rfl rfl
    (Nat.le_of_eq (Engine.armed_post_of_ne hround)) fun other hmem hmarked => ?_
  rcases List.mem_append.1 hmem with hmem | hnew
  · exact hmem
  · rw [List.mem_singleton.1 hnew, h] at hmarked
    cases hmarked

/-- A task is taken off the queue. -/
theorem takeTask {front back : List Task} {task : Task} (h : e.ready = front ++ task :: back) :
    Lull e { e with ready := front ++ back } := by
  have hsub : (front ++ back).Sublist e.ready := sublist_of_taken h
  refine of_untold (.of_same rfl rfl rfl rfl) rfl rfl rfl rfl rfl ?_ fun _ hmem _ => hsub.subset hmem
  exact Nat.add_le_add_right hsub.countP_le _

/-- An item is taken off the timeline. -/
theorem takeItem {front back : List (Time × Happening)} {entry : Time × Happening}
    (h : e.timeline = front ++ entry :: back) : Lull e { e with timeline := front ++ back } := by
  have hsub : (front ++ back).Sublist e.timeline := sublist_of_taken h
  refine of_untold (.drop hsub) rfl rfl rfl rfl rfl ?_ fun _ hmem _ => hmem
  exact Nat.add_le_add_left hsub.countP_le _

theorem cancelAlarm (alarm : Alarm) : Lull e (e.cancelAlarm alarm) := by
  have hmarked : (Task.rang alarm .aborted).isMarked = false := by
    simp [Task.isMarked, Task.rings?, Task.refusal?]
  have hebbs : Ebbs e (e.cancelAlarm alarm) := .cancelAlarm alarm
  have harmed : (e.cancelAlarm alarm).armed .round ≤ e.armed .round :=
    Engine.armed_cancelAlarm_le alarm
  unfold Engine.cancelAlarm at hebbs harmed ⊢
  split
  · next hset =>
    rw [if_pos hset] at hebbs harmed
    refine of_untold hebbs rfl rfl rfl rfl rfl harmed fun task hmem hmark => ?_
    rcases List.mem_append.1 hmem with hmem | hnew
    · exact hmem
    · rw [List.mem_singleton.1 hnew, hmarked] at hmark
      cases hmark
  · exact refl e

/-- **Chores are a lull.** -/
theorem of_chores (h : Chores e e') : Lull e e' := by
  have hsame := Unbooked.of_chores h
  refine of_untold (.of_chores h) (by rw [Engine.agenda, hsame.service]; rfl)
    (by rw [Engine.targetPingers, hsame.service]; rfl) hsame.nextPing hsame.pings hsame.endings
    (Nat.le_of_eq hsame.toOffstage.armed) fun task hmem hmarked => ?_
  rcases Bool.or_eq_true_iff.1 hmarked with hround | hrefusal
  · exact mem_of_filter_eq hsame.ready hmem (Task.isCue_of_rings (of_decide_eq_true hround))
  · exact mem_of_filter_eq hsame.booked hmem (Task.isBooked_of_refusal hrefusal)

/-! ## 3. The service -/

/-- The service changes, but neither its plan nor the pingers of its targets. -/
theorem updateService {change : Service → Service}
    (plan : ∀ service, (change service).config = service.config ∧
      (change service).round = service.round)
    (pingers : ∀ service, (change service).targets.toList.map Target.pinger
      = service.targets.toList.map Target.pinger) : Lull e (e.updateService change) := by
  refine of_untold (.of_same rfl rfl rfl rfl) ?_ (Aside.updateService pingers).targets rfl rfl rfl
    (Nat.le_refl _) fun _ hmem _ => hmem
  rw [Engine.agenda, Engine.updateService, Option.map_map]
  refine congrArg (Option.map · e.service) (funext fun service => ?_)
  exact Prod.ext (plan service).1 (plan service).2

theorem stopService : Lull e e.stopService := by
  have hmarked : Lull e (e.updateService fun service => { service with stopped := true }) :=
    updateService (fun _ => ⟨rfl, rfl⟩) fun _ => rfl
  have hsignal : ∀ e : Engine, Lull e e.cancelSignal := by
    intro e
    unfold Engine.cancelSignal
    split
    · have hunset : Lull e { e with awaitsSignal := false } :=
        .of_chores (.one (.parts e _ _ _ _ _ _ _ _ _))
      exact hunset.trans (post rfl)
    · exact refl e
  have hstop : ∀ e : Engine, Lull e e.stop := fun e =>
    of_untold (.of_same rfl rfl rfl rfl) rfl rfl rfl rfl rfl (Nat.le_refl _) fun _ hmem _ => hmem
  exact ((hmarked.trans (cancelAlarm .round)).trans (hsignal _)).trans (hstop _)

theorem finishIfIdle : Lull e e.finishIfIdle := by
  unfold Engine.finishIfIdle
  split
  · exact refl e
  · split
    · exact stopService
    · exact refl e

theorem targetAnswered (index : Nat) (code : ErrorCode) (result : PingResult) :
    Lull e (e.targetAnswered index code result) := by
  unfold Engine.targetAnswered
  split
  · exact refl e
  · next target _ =>
    have hcount : ∀ target : Target, (target.count result.roundTrip).pinger = target.pinger :=
      fun _ => rfl
    have hcounted : Lull e (e.updateService fun service => service.count index code result) := by
      refine updateService (fun _ => ⟨rfl, rfl⟩) fun service => ?_
      unfold Service.count
      dsimp only
      split
      · rfl
      · exact Aside.map_pinger_modify hcount _ _
    have hwritten : ∀ (e : Engine) (lines : List String), Lull e (e.write lines) := fun e _ =>
      of_untold (.of_same rfl rfl rfl rfl) rfl rfl rfl rfl rfl (Nat.le_refl _) fun _ hmem _ => hmem
    exact (hcounted.trans (hwritten _ _)).trans finishIfIdle

/-- **Telling the service is a lull**; the ending is one of now. -/
theorem tell (number : PingId) (index : Nat) (code : ErrorCode) (result : PingResult) :
    Lull e (e.tell number (.target index) code result) := by
  have hnoted : Lull e
      { e with endings := { ping := number, time := e.now, code, result } :: e.endings } := {
    toEbbs := .of_same rfl rfl rfl rfl
    agenda := rfl
    targets := rfl
    nextPing := rfl
    pings := rfl
    endings := by
      refine ⟨[{ ping := number, time := e.now, code, result }], rfl, fun ending hmem => ?_⟩
      exact Int.le_of_eq (congrArg Ending.time (List.mem_singleton.1 hmem))
    armed := Nat.le_refl _
    ready := fun _ hmem _ => hmem }
  exact hnoted.trans (targetAnswered index code result)

/-- **A task that neither begins a round nor brings a signal is a lull.** -/
theorem of_reports (h : Reports e e') : Lull e e' := by
  induction h with
  | nil => exact refl _
  | apart head _ ih => exact (of_chores head).trans ih
  | tell _ _ _ ih => exact (tell _ _ _ _).trans ih

/-- **The task of a signal is a lull**, though it stops the service. -/
theorem signalled (code : ErrorCode) (number : Int) : Lull e (e.signalled code number) := by
  unfold Engine.signalled
  split
  · exact refl e
  · exact (of_chores (.inward (.logDated _ _))).trans stopService

/-- Whoever was told stays told. -/
theorem pending (h : Lull e e') {ping : Ping} (hmem : ping ∈ e'.pings)
    (htold : e'.told ping.number = 0) : ping ∈ e.pings ∧ e.told ping.number = 0 := by
  obtain ⟨fresh, hendings, -⟩ := h.endings
  rw [Engine.told, hendings, List.countP_append] at htold
  exact ⟨h.pings ▸ hmem, Nat.eq_zero_of_add_eq_zero_left htold⟩

end Lull

end IcmpEcho
