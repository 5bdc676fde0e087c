/-
# The timer for the next round

When the pings of a round have been asked for, the timer for the next round is set.  So whatever
call timer stands behind it on the timeline rings strictly later (`Ticking.strict`), and no ping is
as old by then as all the pauses since (`Ticking.due`).

When this timer is the first on the timeline and no task is ready, each pending ping has a timer
behind it.  **So the pauses since its round are shorter than the timeout, which is shorter than
65536 pauses** (`Running.rested`).  The next round may begin, and asks for its pings
(`Running.startRound`).

`Running config ids rounds e`: the service runs and has begun `rounds` rounds.  Its own counter has
32 bits and wraps.  Whatever task is performed (`Running.perform`), and whatever timer or signal comes
next (`Running.ring`, `Running.signal`), it runs on.
-/
import IcmpEcho.Proofs.Pacing

namespace IcmpEcho

variable {e e' : Engine} {network : Network} {config : Config} {ids : List PingerId}
  {rounds size : Nat} {time : Time}

/-! ## 1. Times -/

/-- Waiting once more, but no longer than to the end. -/
theorem min_add_le_min_add {time now wait bound : Int} (h : min time bound ≤ now)
    (hwait : 0 ≤ wait) : min (time + wait) bound ≤ min (now + wait) bound := by
  omega

/-- What rings later than after one wait, and before the end, rings after a longer wait. -/
theorem lt_of_min_add_le {start wait longer time due bound : Int}
    (h : min (start + wait) bound ≤ time) (hlater : time < due) (hbound : due ≤ bound)
    (hdue : due ≤ start + longer) : wait < longer := by
  omega

/-! ## 2. The timer is set -/

/-- What stands behind an item that was put on the timeline is strictly later. -/
theorem Engine.insertAt_strict {item : Happening} :
    ∀ {timeline : List (Time × Happening)}, timeline.Pairwise (fun a b => a.1 ≤ b.1) →
      (∀ entry ∈ timeline, entry.2 ≠ item) →
      (insertAt time item timeline).Pairwise fun a b => a.2 = item → a.1 < b.1
  | [], _, _ => List.pairwise_singleton _ _
  | head :: rest, hordered, hnew => by
    obtain ⟨hhead, hrest⟩ := List.pairwise_cons.1 hordered
    have hold : (head :: rest).Pairwise fun a b => a.2 = item → a.1 < b.1 :=
      List.Pairwise.imp_of_mem (fun ha _ _ heq => absurd heq (hnew _ ha)) hordered
    simp only [insertAt]
    split
    · refine List.pairwise_cons.2 ⟨fun _ _ heq => absurd heq (hnew head List.mem_cons_self), ?_⟩
      exact insertAt_strict hrest fun entry hmem => hnew entry (List.mem_cons_of_mem _ hmem)
    · next hlater =>
      have hlater : time < head.1 := Int.not_le.1 hlater
      refine List.pairwise_cons.2 ⟨fun entry hmem _ => ?_, hold⟩
      rcases List.mem_cons.1 hmem with rfl | hmem
      · exact hlater
      · exact Int.lt_of_lt_of_le hlater (hhead entry hmem)

/-- **The timer for the next round**, when `rounds` rounds have begun. -/
structure Ticking (config : Config) (size rounds : Nat) (e : Engine) : Prop where
  once : e.armed .round ≤ 1
  strict : e.timers.Pairwise fun a b => a.2 = .ring .round → a.1 < b.1
  due : ∀ time, (time, .ring .round) ∈ e.timers → ∀ ping ∈ e.pings,
    ping.turn config size rounds ≤ time
  /-- When it has rung, the round may begin. -/
  rung : ∀ task ∈ e.ready, task.rings? = some .round → Rested config size rounds e

namespace Ticking

theorem lull (ht : Ticking config size rounds e) (h : Lull e e') : Ticking config size rounds e' where
  once := Nat.le_trans h.armed ht.once
  strict := ht.strict.sublist h.timers
  due time hmem ping hping := ht.due time (h.timers.subset hmem) ping (h.pings ▸ hping)
  rung task hmem hring := by
    have hmarked : task.isMarked := by simp [Task.isMarked, hring]
    exact (ht.rung task (h.ready task hmem hmarked) hring).lull h

/-- The timer is not set, and has not rung. -/
theorem of_unset (hunset : e.armed .round = 0) : Ticking config size rounds e := by
  obtain ⟨hready, htimeline⟩ := Engine.armed_eq_zero_iff.1 hunset
  have hnone : ∀ entry ∈ e.timers, entry.2 ≠ .ring .round := fun entry hmem =>
    htimeline entry (List.mem_filter.1 hmem).1
  refine ⟨by omega, ?_, fun time hmem => absurd rfl (hnone _ hmem),
    fun task hmem hring => absurd hring (hready task hmem)⟩
  exact List.Pairwise.imp_of_mem (fun ha _ _ heq => absurd heq (hnone _ ha))
    (List.pairwise_of_forall fun _ _ => True.intro)

end Ticking

/-- After another pause it is the turn of the round after the next. -/
theorem Ping.turn_succ {ping : Ping} {now : Time} (hround : ping.round size ≤ rounds)
    (hpause : 0 ≤ config.pause) (h : ping.turn config size rounds ≤ now) :
    ping.turn config size (rounds + 1) ≤ min (now + config.pause) endOfTime := by
  have hpauses : ((rounds + 1 - ping.round size : Nat) : Int) * config.pause
      = ((rounds - ping.round size : Nat) : Int) * config.pause + config.pause := by
    rw [Nat.succ_sub hround, Int.natCast_succ, Int.add_mul, Int.one_mul]
  unfold turn at h ⊢
  rw [hpauses, ← Int.add_assoc]
  exact min_add_le_min_add h hpause

/-- **The timer is set for the next round.** -/
theorem Ticking.ringAfter (hunset : e.armed .round = 0) (hordered : e.Ordered)
    (hrested : Rested config size rounds e) (hrounds : ∀ ping ∈ e.pings, ping.round size ≤ rounds)
    (hpause : 0 ≤ config.pause) :
    Ticking config size (rounds + 1) (e.ringAfter config.pause .round) := by
  obtain ⟨hready, hnone⟩ := Engine.armed_eq_zero_iff.1 hunset
  refine ⟨?_, ?_, fun time hmem ping hping => ?_,
    fun task hmem hring => absurd hring (hready task hmem)⟩
  · exact Nat.le_of_eq (by rw [Engine.armed_ringAfter, hunset, if_pos rfl])
  · exact (Engine.insertAt_strict hordered hnone).sublist List.filter_sublist
  · rcases Engine.mem_insertAt.1 (List.mem_filter.1 hmem).1 with heq | hold
    · rw [(Prod.mk.inj heq).1]
      exact Ping.turn_succ (hrounds ping hping) hpause (hrested.turns ping hping)
    · exact absurd rfl (hnone _ hold)

/-! ## 3. The service runs -/

/-- A call does not wait until its sequence number comes again. -/
structure Config.Unhurried (config : Config) : Prop where
  pause : 0 < config.pause
  patience : config.patience < 65536 * config.pause

/-- **The service runs**, and has begun `rounds` rounds. -/
structure Running (config : Config) (ids : List PingerId) (rounds : Nat) (e : Engine) : Prop where
  unhurried : config.Unhurried
  agenda : e.agenda = some (config, UInt32.ofNat rounds)
  targets : e.targetPingers = ids
  paced : Paced config ids (rounds * ids.length) e
  ticking : Ticking config ids.length rounds e

/-- The task of the round timer is taken up; nothing in the invariant is about it. -/
theorem Sound.consume_round (hs : Sound {} e) {front back : List Task} {task : Task}
    (hready : e.ready = front ++ task :: back) (hround : task.rings? = some .round) :
    Sound {} { e with ready := front ++ back } := by
  have hhand : Hand.of task = { late := some .round } := by
    cases task with
    | rang alarm code =>
      simp only [Hand.of, hround, Task.listener?, Task.refusal?]
      rfl
    | _ => cases hround
  obtain ⟨hsound, -⟩ := hs.consume hready
  rw [hhand] at hsound
  exact { hsound with armed := hsound.armed.settle (by rintro _ _ _ ⟨⟩) }

/-- **The service runs on**, in the same network. -/
structure RunsOn (config : Config) (ids : List PingerId) (e e' : Engine) : Prop where
  running : ∃ rounds, Running config ids rounds e'
  network : e'.network = e.network

namespace Running

theorem lull (h : Running config ids rounds e) (hl : Lull e e') :
    Running config ids rounds e' where
  unhurried := h.unhurried
  agenda := hl.agenda.trans h.agenda
  targets := hl.targets.trans h.targets
  paced := h.paced.lull hl
  ticking := h.ticking.lull hl

theorem runsOn (h : Running config ids rounds e) (hl : Lull e e') : RunsOn config ids e e' :=
  ⟨⟨rounds, h.lull hl⟩, hl.network⟩

/-- **The timer is about to ring**: whatever is pending has a timer that rings later. -/
theorem rested (h : Running config ids rounds e) (hs : Sound {} e) (hready : e.ready = [])
    {rest : List (Time × Happening)} (htimeline : e.timeline = (time, .ring .round) :: rest)
    (htime : time ≤ e.now) : Rested config ids.length rounds e := by
  have htimers : e.timers
      = (time, .ring .round) :: rest.filter fun entry => entry.2.isTimer := by
    rw [Engine.timers, htimeline]
    rfl
  have hturn : ∀ ping ∈ e.pings, ping.turn config ids.length rounds ≤ time :=
    h.ticking.due time (by rw [htimers]; exact List.mem_cons_self)
  refine ⟨fun ping hmem => Int.le_trans (hturn ping hmem) htime, fun ping hmem htold => ?_⟩
  obtain ⟨call, -, -, -, hset⟩ :=
    hs.waits_for_timer hready (h.paced.numbers.ping?_eq_some.2 ⟨hmem, rfl⟩) htold
  -- the timer of the call stands behind that of the round
  obtain ⟨⟨due, item⟩, hentry, hring⟩ := List.countP_pos_iff.1 (Nat.lt_of_sub_eq_succ hset)
  obtain rfl : item = .ring (.call ping.pinger ping.token ping.number) := of_decide_eq_true hring
  rw [htimeline] at hentry
  have hbehind : (due, Happening.ring (.call ping.pinger ping.token ping.number))
      ∈ rest.filter fun entry => entry.2.isTimer := by
    rcases List.mem_cons.1 hentry with heq | hrest
    · cases (Prod.mk.inj heq).2
    · exact List.mem_filter.2 ⟨hrest, rfl⟩
  have hlater : time < due := by
    have hstrict := h.ticking.strict
    rw [htimers] at hstrict
    exact (List.pairwise_cons.1 hstrict).1 _ hbehind rfl
  obtain ⟨-, hend, hwait⟩ := h.paced.waits due _ _ _ (by
    rw [htimers]
    exact List.mem_cons_of_mem _ hbehind)
  have hpauses : ((rounds - ping.round ids.length : Nat) : Int) * config.pause < config.patience :=
    lt_of_min_add_le (hturn ping hmem) hlater hend (hwait ping hmem rfl)
  have hfew := Int.lt_of_mul_lt_mul_right (Int.lt_trans hpauses h.unhurried.patience)
    (Int.le_of_lt h.unhurried.pause)
  omega

/-- **A round begins**, unless the service has stopped. -/
theorem startRound (h : Running config ids rounds e) (hs : Sound {} e)
    (hrested : Rested config ids.length rounds e) (hunset : e.armed .round = 0) :
    RunsOn config ids e e.startRound := by
  obtain ⟨service, hservice, hagenda⟩ := Option.map_eq_some_iff.1 h.agenda
  obtain ⟨hconfig, hround⟩ := Prod.mk.inj hagenda
  have hsize : service.targets.size = ids.length := by
    rw [← h.targets, Engine.targetPingers, hservice]
    simp
  have hsequence : service.round.toUInt16 = UInt16.ofNat rounds := by
    rw [hround, UInt32.toUInt16_ofNat']
  unfold Engine.startRound
  simp only [hservice]
  split
  · exact ⟨⟨rounds, h⟩, rfl⟩
  · have hbegins : Begun e.network config ids rounds 0 e :=
      ⟨rfl, hs, h.agenda, h.targets, h.paced, hrested, hunset⟩
    have hasked := hbegins.pingTargets ids.length (Nat.le_refl _)
    rw [hsize, hsequence, hround, hconfig]
    generalize (List.range ids.length).foldl (Engine.pingTarget (UInt16.ofNat rounds)) e = asked
      at hasked
    let counted := asked.updateService fun service =>
      { service with round := UInt32.ofNat rounds + 1 }
    have hagenda : counted.agenda = some (config, UInt32.ofNat (rounds + 1)) := by
      obtain ⟨last, hlast, hplan⟩ := Option.map_eq_some_iff.1 hasked.agenda
      rw [UInt32.ofNat_add, ← (Prod.mk.inj hplan).1]
      simp only [counted, Engine.agenda, Engine.updateService, hlast, Option.map_some]
      rfl
    have haside : Aside asked counted := .updateService fun _ => rfl
    have htargets : counted.targetPingers = ids := haside.targets.trans hasked.targets
    have hpaced : Paced config ids ((rounds + 1) * ids.length) counted := by
      rw [Nat.succ_mul]
      exact { hasked.paced with }
    have hrested : Rested config ids.length rounds counted := { hasked.rested with }
    have hunset : counted.armed .round = 0 := hasked.unset
    split
    · exact ⟨⟨rounds + 1, h.unhurried, hagenda, htargets, hpaced, .of_unset hunset⟩, hasked.network⟩
    · rw [Engine.setAlarm_of_unset hunset]
      refine ⟨⟨rounds + 1, h.unhurried, hagenda, htargets, hpaced.schedule (by rintro _ _ _ ⟨⟩), ?_⟩,
        hasked.network⟩
      refine .ringAfter hunset hpaced.ordered hrested (fun ping hmem => ?_)
        (Int.le_of_lt h.unhurried.pause)
      exact Nat.le_of_lt_succ (Ping.round_lt (hpaced.nextPing ▸ hpaced.numbers.number_lt hmem))

/-! ## 4. Tasks and items -/

variable {front back : List Task} {due : Task}

/-- **The task of the timer begins a round.** -/
theorem begins (h : Running config ids rounds e) (hs : Sound {} e)
    (hready : e.ready = front ++ due :: back) (hround : due.rings? = some .round) :
    RunsOn config ids e (Engine.perform { e with ready := front ++ back } due) := by
  let taken : Engine := { e with ready := front ++ back }
  have hlull : Lull e taken := .takeTask hready
  have hrested : Rested config ids.length rounds taken :=
    (h.ticking.rung due (by rw [hready]; simp) hround).lull hlull
  have hunset : taken.armed .round = 0 := by
    have hone : taken.armed .round + 1 = e.armed .round := by
      simp only [taken, Engine.armed, hready, List.countP_append, List.countP_cons, hround,
        decide_true, if_true]
      omega
    have honce := h.ticking.once
    omega
  rw [Engine.perform_of_rings hround]
  obtain ⟨hrunning, hnetwork⟩ :=
    (h.lull hlull).startRound (hs.consume_round hready hround) hrested hunset
  exact ⟨hrunning, hnetwork⟩

/-- **Whatever task is performed**, the service runs on. -/
theorem perform (h : Running config ids rounds e) (hs : Sound {} e)
    (hready : e.ready = front ++ due :: back) :
    RunsOn config ids e (Engine.perform { e with ready := front ++ back } due).sweep := by
  have hsweep : ∀ e : Engine, Lull e e.sweep := fun _ => .of_chores .sweep
  by_cases hround : due.rings? = some .round
  · obtain ⟨⟨rounds', hnext⟩, hnetwork⟩ := h.begins hs hready hround
    exact ⟨⟨rounds', hnext.lull (hsweep _)⟩, (hsweep _).network.trans hnetwork⟩
  · have htaken : Lull e { e with ready := front ++ back } := .takeTask hready
    refine h.runsOn ((htaken.trans ?_).trans (hsweep _))
    cases hcue : due.isCue with
    | false =>
      obtain ⟨hsound, hproper⟩ := hs.consume hready
      have haimed : e.Aimed := fun ping hmem => ⟨_, (h.paced.placed ping hmem).caller⟩
      exact .of_reports (.perform hsound.ledger haimed hproper hcue)
    | true =>
      cases due with
      | signalled code number => exact .signalled code number
      | rang alarm code =>
        cases alarm with
        | round =>
          have hcode : code ≠ .aborted := by simpa [Task.isCue] using hcue
          exact absurd (if_neg hcode) hround
        | _ => cases hcue
      | _ => cases hcue

/-- **The timer rings**, and the round may begin. -/
theorem ring (h : Running config ids rounds e) (hs : Sound {} e) (hready : e.ready = [])
    {rest : List (Time × Happening)} (htimeline : e.timeline = (time, .ring .round) :: rest)
    (htime : time ≤ e.now) :
    RunsOn config ids e (Engine.happen { e with timeline := rest } (.ring .round)) := by
  let taken : Engine := { e with timeline := rest }
  let posted := taken.post (.rang .round .success)
  have hlull : Lull e taken := @Lull.takeItem e [] rest _ htimeline
  have htaken := h.lull hlull
  have hrested : Rested config ids.length rounds taken :=
    (h.rested hs hready htimeline htime).lull hlull
  have harmed : posted.armed .round = e.armed .round := by
    have hready' : posted.ready = [.rang .round .success] := by
      have hposted : posted.ready = e.ready ++ [.rang .round .success] := rfl
      rw [hposted, hready, List.nil_append]
    have htimeline' : posted.timeline = rest := rfl
    have hrings : Task.rings? (.rang .round .success) = some .round := rfl
    simp only [Engine.armed, hready, hready', htimeline, htimeline', List.countP_cons,
      List.countP_nil, hrings, decide_true, if_true]
    omega
  have hpaced : Paced config ids (rounds * ids.length) posted :=
    htaken.paced.post (by rintro _ _ _ _ ⟨⟩)
  have hticking : Ticking config ids.length rounds posted :=
    { htaken.ticking with
      once := Nat.le_trans (Nat.le_of_eq harmed) h.ticking.once
      rung := fun _ _ _ => { hrested with } }
  exact ⟨⟨rounds, h.unhurried, htaken.agenda, htaken.targets, hpaced, hticking⟩, rfl⟩

/-- A signal comes in. -/
theorem signal (h : Running config ids rounds e) {before after : List (Time × Happening)}
    {number : Int} (htimeline : e.timeline = before ++ (time, .signal number) :: after) :
    RunsOn config ids e
      (Engine.happen { e with timeline := before ++ after } (.signal number)) := by
  have htaken : Lull e { e with timeline := before ++ after } := .takeItem htimeline
  unfold Engine.happen
  dsimp only
  split
  · have hunset : Lull { e with timeline := before ++ after }
        { e with timeline := before ++ after, awaitsSignal := false } :=
      .of_chores (.one (.parts _ _ _ _ _ _ _ _ _ _))
    exact h.runsOn ((htaken.trans hunset).trans (.post rfl))
  · exact h.runsOn htaken

end Running

end IcmpEcho
