/-
# Sequence numbers come round

A sequence number has 16 bits, and the service gives each round the next one; so after 65536 rounds
they come round.  A run is *orderly* when the clock never goes back, items of the timeline happen in
the order in which they stand there and not before their time, and none happens while a task is ready.
Tasks may be performed in any order, and anything may come from the network.

**When a call ends before its sequence number comes round, it is free by then** (`Recurring`).  The
service goes on for any number of rounds, also when its own counter of 32 bits comes round: no ping is
ever refused for its sequence number, and two pings of one target with one sequence number never
overlap.
-/
import IcmpEcho.Proofs.Documents
import IcmpEcho.Proofs.InTime
import IcmpEcho.Proofs.Ticking

namespace IcmpEcho

variable {e : Engine} {config : Config} {ids : List PingerId} {rounds count : Nat} {service : Service}

/-! ## 1. Before the first round -/

/-- The pauses of a valid configuration are long enough if its timeout is short enough. -/
theorem Config.unhurried_of_validate (hvalid : config.validate = .ok ())
    (hfast : config.ping.timeout < 65536 * config.interval) : config.Unhurried where
  pause := Int.mul_pos (validate_iff_inRange.1 hvalid).interval (by decide)
  patience := by
    unfold patience pause
    rw [← Int.mul_assoc]
    exact Int.mul_lt_mul_of_pos_right hfast (by decide)

/-- **A service that was opened can begin.** -/
theorem Running.of_unused (hunhurried : config.Unhurried)
    (hservice : e.service = some service) (hunused : service.Unused config count)
    (hequipped : service.Equipped config.patience e) (hordered : e.Ordered) (htimers : e.timers = [])
    (hready : ∀ task ∈ e.ready, task.isMarked = false) (hpings : e.pings = [])
    (hnext : e.nextPing = 0) (hendings : e.endings = []) :
    Running config (service.targets.toList.map Target.pinger) 0 e ∧ e.armed .round = 0 := by
  have hunset : e.armed .round = 0 := by
    refine Engine.armed_eq_zero_iff.2 ⟨fun task hmem hring => ?_, fun entry hmem hring => ?_⟩
    · have hmarked := hready task hmem
      simp [Task.isMarked, hring] at hmarked
    · have htimer : entry ∈ e.timers := List.mem_filter.2 ⟨hmem, by rw [hring]; rfl⟩
      rw [htimers] at htimer
      cases htimer
  refine ⟨{
    unhurried := hunhurried
    agenda := by
      rw [Engine.agenda, hservice, Option.map_some, hunused.config, hunused.round]
      rfl
    targets := by rw [Engine.targetPingers, hservice, Option.map_some, Option.getD_some]
    paced := {
      distinct := hequipped.distinct
      ordered := hordered
      timeouts := fun id hid => ?_
      nextPing := by rw [hnext, Nat.zero_mul]
      numbers := by rw [Engine.Numbered, hpings, hnext]; rfl
      placed := fun ping hmem => by rw [hpings] at hmem; cases hmem
      asked := fun ping hmem => by rw [hpings] at hmem; cases hmem
      waits := fun time id token timer hmem => by rw [htimers] at hmem; cases hmem
      past := fun ending hmem => by rw [hendings] at hmem; cases hmem
      answered := fun earlier hmem => by rw [hpings] at hmem; cases hmem
      unrefused := fun id number caller sequence hmem => by
        have hmarked := hready _ hmem
        cases hmarked }
    ticking := .of_unset hunset }, hunset⟩
  obtain ⟨target, htarget, rfl⟩ := List.mem_map.1 hid
  exact hequipped.timeouts target htarget

namespace Session

variable {s s' opened begun : Session} {deed : Deed} {past : List (Session × Deed)}
  {network : Network} {logLevel : Int} {logFile : Option String} {files : List (String × String)}
  {signals : List (Time × Int)}

/-- **The service of a session runs.** -/
structure Going (config : Config) (ids : List PingerId) (s : Session) : Prop where
  sound : s.Sound
  punctual : s.engine.Punctual 0
  running : ∃ rounds, Running config ids rounds s.engine

/-- Only signals are on their way, in the order of time. -/
theorem ordered_fresh (network : Network) (logLevel : Int) (logFile : Option String)
    (files : List (String × String)) (signals : List (Time × Int)) :
    (fresh network logLevel logFile files signals).engine.Ordered ∧
      (fresh network logLevel logFile files signals).engine.timers = [] := by
  refine List.foldlRecOn (motive := fun e : Engine => e.Ordered ∧ e.timers = []) signals _
    ⟨List.Pairwise.nil, rfl⟩ ?_
  rintro e ⟨hordered, htimers⟩ ⟨time, number⟩ -
  have hsame : (e.schedule time (.signal number)).timers = e.timers :=
    Aside.filter_insertAt rfl e.timeline
  exact ⟨Engine.pairwise_insertAt hordered, hsame.trans htimers⟩

/-- **When the service has been opened and begun**, it runs. -/
theorem going_of_begun
    (hopened : Does (fresh network logLevel logFile files signals) (.openService config) opened)
    (hok : ((fresh network logLevel logFile files signals).engine.openService config).2 = .ok ())
    (hbegun : Does opened .startService begun) (hunhurried : config.Unhurried) :
    ∃ ids, ids.length = config.targets.length ∧ Going config ids begun := by
  have hs := sound_fresh network logLevel logFile files signals
  have huntouched := untouched_fresh network logLevel logFile files signals
  obtain ⟨hordered, htimers⟩ := ordered_fresh network logLevel logFile files signals
  have hpunctual := punctual_fresh network logLevel logFile files signals
  have hs' := (hopened.leads hs).sound
  have hsound := (hbegun.leads hs').sound
  have hpunctual' := hbegun.punctual trivial (hopened.punctual trivial hpunctual)
  generalize fresh network logLevel logFile files signals = s at *
  obtain ⟨service, hservice, hunused, -⟩ := Engine.openService_unused hok
  refine ⟨service.targets.toList.map Target.pinger, ?_, hsound, hpunctual', ?_⟩
  · rw [List.length_map, Array.length_toList, hunused.size]
  cases hopened with
  | openService =>
    cases hbegun with
    | startService =>
      have hsound := hs'.engine
      obtain ⟨hequipped, hebbs⟩ :=
        Engine.openService_equipped hs.engine hs.remembers hok hservice
      have hoffstage : Offstage s.engine (s.engine.openService config).1 :=
        .outers (.openService hs.engine hs.remembers config)
      have hcalls : SameCalls s.engine (s.engine.openService config).1 := .openService config
      have hready : ∀ task ∈ (s.engine.openService config).1.ready, task.isMarked = false := by
        intro task hmem
        by_contra hmarked
        have hmarked : task.isMarked := by simpa using hmarked
        have hbefore : task ∈ s.engine.ready := by
          rcases Bool.or_eq_true_iff.1 hmarked with hround | hrefusal
          · exact mem_of_filter_eq hoffstage.ready hmem
              (Task.isCue_of_rings (of_decide_eq_true hround))
          · obtain ⟨number, hnumber⟩ := Option.isSome_iff_exists.1 hrefusal
            exact mem_of_filter_eq hcalls.ready hmem (Task.isCall_of_refusal hnumber)
        rw [huntouched.ready] at hbefore
        cases hbefore
      generalize (s.engine.openService config).1 = e at *
      obtain ⟨hrunning, hunset⟩ := Running.of_unused hunhurried hservice hunused hequipped
        (hebbs.ordered hordered) (List.sublist_nil.1 (htimers ▸ hebbs.timers)) hready
        (hcalls.pings.trans huntouched.pings) (hcalls.nextPing.trans huntouched.nextPing)
        (hcalls.endings.trans huntouched.endings)
      have hrested : Rested config (service.targets.toList.map Target.pinger).length 0 e := by
        constructor <;>
          (intro ping hmem; rw [hcalls.pings, huntouched.pings] at hmem; cases hmem)
      have hwaits : Lull e { e with awaitsSignal := true } :=
        .of_chores (.one (.parts e _ _ _ _ _ _ _ _ _))
      let targets := (e.service.map fun service => service.targets.size).getD 0
      have hlogged := hwaits.trans (.of_chores (.inward (.logDated .warn
        ("pingmux service started with " ++ toString targets ++ " target(s)"))))
      refine ((hrunning.lull hlogged).startRound ?_ (hrested.lull hlogged) ?_).running
      · exact (hsound.aside (.awaitsSignal true)).aside (.logDated _ _)
      · exact Nat.le_zero.1 (hunset ▸ hlogged.armed)

/-! ## 2. Orderly runs -/

/-- The clock is not turned back, and an item that happens is the first, no earlier than its time and
when no task is ready. -/
def Deed.InOrder (s : Session) : Deed → Prop
  | .clock now => s.engine.now ≤ now
  | .item due => s.engine.ready = [] ∧
      ∃ time rest, s.engine.timeline = (time, due) :: rest ∧ time ≤ s.engine.now
  | _ => True

/-- The run is orderly. -/
def Orderly (past : List (Session × Deed)) : Prop := ∀ entry ∈ past, entry.2.InOrder entry.1

theorem Deed.InOrder.inTime (h : deed.InOrder s) : deed.InTime s := by
  cases deed with
  | item item =>
    obtain ⟨-, time, rest, htimeline, htime⟩ := h
    exact ⟨time, htime, by rw [htimeline]; exact List.mem_cons_self⟩
  | clock now => exact h
  | _ => trivial

/-- An item of which there is only one is the first, if the first is like it. -/
theorem eq_nil_of_first {item : Happening} {time time' : Time}
    {front back rest : List (Time × Happening)}
    (hfirst : front ++ (time, item) :: back = (time', item) :: rest)
    (honce : (front ++ (time, item) :: back).countP (fun entry => entry.2 = item) ≤ 1) :
    front = [] := by
  cases front with
  | nil => rfl
  | cons head front =>
    obtain ⟨rfl, -⟩ := List.cons.inj hfirst
    simp [List.countP_append] at honce

/-- **Whatever item happens**, the service runs on. -/
theorem Going.item (hg : Going config ids s) {front back : List (Time × Happening)} {time : Time}
    {item : Happening} (htimeline : s.engine.timeline = front ++ (time, item) :: back)
    (horder : (Deed.item item).InOrder s) :
    RunsOn config ids s.engine
      (Engine.happen { s.engine with timeline := front ++ back } item).sweep := by
  obtain ⟨rounds, hrunning⟩ := hg.running
  have hs := hg.sound.engine
  have hsweep : ∀ {e : Engine}, RunsOn config ids s.engine e → RunsOn config ids s.engine e.sweep := by
    rintro e ⟨⟨rounds, hrunning⟩, hnetwork⟩
    have hlull : Lull e e.sweep := .of_chores .sweep
    exact ⟨⟨rounds, hrunning.lull hlull⟩, hlull.network.trans hnetwork⟩
  refine hsweep ?_
  cases hcue : item.isCue with
  | false =>
    have hno : ∀ number, item ≠ .signal number := by
      rintro number rfl
      cases hcue
    have htaken : Lull s.engine { s.engine with timeline := front ++ back } := .takeItem htimeline
    exact hrunning.runsOn (htaken.trans (.of_chores (Standing.chores_happen hs htimeline hcue hno)))
  | true =>
    cases item with
    | ring alarm =>
      cases alarm with
      | round =>
        obtain ⟨hready, time', rest, hfirst, htime⟩ := horder
        have honce : s.engine.timeline.countP (fun entry => entry.2 = .ring .round) ≤ 1 :=
          Nat.le_trans (Nat.le_add_left _ _) hrunning.ticking.once
        rw [htimeline] at hfirst honce
        obtain rfl := eq_nil_of_first hfirst honce
        obtain ⟨⟨rfl, -⟩, rfl⟩ := List.cons.inj hfirst
        exact hrunning.ring hs hready htimeline htime
      | _ => cases hcue
    | ready task =>
      have htask := hg.punctual.timeline _ (htimeline ▸ List.mem_append_right _ List.mem_cons_self)
      cases task with
      | sent client code count => cases hcue
      | _ => exact htask.elim
    | signal number => exact hrunning.signal htimeline
    | deliver source data => cases hcue

/-- **Whatever happens in order while the service runs**, it runs on. -/
theorem Does.going (h : Does s deed s') (hg : Going config ids s) (hserves : s.Serves deed)
    (horder : deed.InOrder s) :
    Going config ids s' ∧ (s.Own deed → s'.engine.network = s.engine.network) := by
  have hsound := (h.leads hg.sound).sound
  have hpunctual := h.punctual horder.inTime hg.punctual
  obtain ⟨rounds, hrunning⟩ := hg.running
  have hon : ∀ {e : Engine}, RunsOn config ids s.engine e → s'.engine = e →
      Going config ids s' ∧ (s.Own deed → s'.engine.network = s.engine.network) := by
    rintro e ⟨hrunning, hnetwork⟩ rfl
    exact ⟨⟨hsound, hpunctual, hrunning⟩, fun _ => hnetwork⟩
  cases h with
  | step step hrun =>
    exact hon (hrunning.runsOn (.of_chores (chores_perform s step hserves))) rfl
  | task hready => exact hon (hrunning.perform hg.sound.engine hready) rfl
  | item htimeline => exact hon (hg.item htimeline horder) rfl
  | clock now => exact hon (hrunning.runsOn (.clock horder)) rfl
  | network network =>
    have hticking : Ticking config ids.length rounds { s.engine with network } :=
      { hrunning.ticking with
        rung := fun task hmem hring => { hrunning.ticking.rung task hmem hring with } }
    exact ⟨⟨hsound, hpunctual, rounds, hrunning.unhurried, hrunning.agenda, hrunning.targets,
      { hrunning.paced with }, hticking⟩, fun hown => hown.elim⟩
  | openService config => exact hserves.elim
  | startService => exact hserves.elim
  | endService => exact hserves.elim

/-- **Along an orderly run the service runs on.** -/
theorem Run.going (h : Run s past s') (hg : Going config ids s) (hserving : Serving past)
    (horder : Orderly past) : Going config ids s' := by
  induction h with
  | nil => exact hg
  | cons head rest ih =>
    have hnext := head.going hg (hserving _ List.mem_cons_self) (horder _ List.mem_cons_self)
    exact ih hnext.1 (fun entry hentry => hserving entry (List.mem_cons_of_mem _ hentry))
      fun entry hentry => horder entry (List.mem_cons_of_mem _ hentry)

/-! ## 3. The engine by itself -/

theorem Own.inOrder (h : s.Own deed) (htick : 0 ≤ s.engine.network.tick) : deed.InOrder s := by
  cases deed with
  | item item => exact h.2
  | clock now =>
    rcases h with hlater | rfl
    · exact hlater
    · exact Int.le_add_of_nonneg_right htick
  | _ => trivial

/-- **What the engine does by itself is orderly**, if no task turns the clock back. -/
theorem Run.orderly (h : Run s past s') (hown : ∀ entry ∈ past, entry.1.Own entry.2)
    (hg : Going config ids s) (htick : 0 ≤ s.engine.network.tick) : Orderly past := by
  induction h with
  | nil => exact fun _ h => nomatch h
  | cons head rest ih =>
    have hfirst := hown _ List.mem_cons_self
    have horder := Own.inOrder hfirst htick
    obtain ⟨hnext, hnetwork⟩ := head.going hg (Own.serves hfirst) horder
    have hrest := ih (fun entry hentry => hown entry (List.mem_cons_of_mem _ hentry)) hnext
      (by rw [hnetwork hfirst]; exact htick)
    intro entry hentry
    rcases List.mem_cons.1 hentry with rfl | hentry
    · exact horder
    · exact hrest entry hentry

end Session

/-! ## 4. All runs -/

/-- **Sequence numbers come round, and are free by then**, when `rounds` rounds have begun. -/
structure Recurring (config : Config) (service : Service) (rounds : Nat) (e : Engine) : Prop where
  serves : e.service = some service
  configured : service.config = config
  size : service.targets.size = config.targets.length
  /-- The service counts its rounds in 32 bits. -/
  round : service.round = UInt32.ofNat rounds
  numbers : e.pings.map Ping.number = (List.range (rounds * service.targets.size)).reverse
  placed : ∀ ping ∈ e.pings, ping.Placed (service.targets.toList.map Target.pinger)
  unrefused : ∀ id number caller sequence,
    .noPing id number caller PingFault.sequenceInFlight.code sequence ∉ e.ready
  /-- When a round is about to begin, no call of any pinger has its sequence number. -/
  free : ∀ task ∈ e.ready, task.rings? = some .round → ∀ id, ∀ call ∈ e.callsOf id,
    call.token.sequence ≠ service.round.toUInt16
  answered : ∀ earlier ∈ e.pings, ∀ later ∈ e.pings, earlier.number < later.number →
    earlier.pinger = later.pinger → earlier.token.sequence = later.token.sequence →
      ∃ ending ∈ e.endings, ending.ping = earlier.number ∧ ending.time ≤ later.asked
  /-- The ping of 65536 rounds before had ended. -/
  before : ∀ later ∈ e.pings, 65536 * service.targets.size ≤ later.number →
    ∃ earlier ∈ e.pings, earlier.number + 65536 * service.targets.size = later.number ∧
      earlier.pinger = later.pinger ∧ earlier.token.sequence = later.token.sequence ∧
        ∃ ending ∈ e.endings, ending.ping = earlier.number ∧ ending.time ≤ later.asked

namespace Ping.Placed

variable {earlier later : Ping}

/-- Pings 65536 rounds apart have one pinger and one sequence number. -/
theorem comes_round (h : earlier.Placed ids) (h' : later.Placed ids)
    (happart : earlier.number + 65536 * ids.length = later.number) :
    earlier.pinger = later.pinger ∧ earlier.token.sequence = later.token.sequence := by
  have hsome : earlier.index ids.length < ids.length := (List.getElem?_eq_some_iff.1 h.pinger).1
  have hindex : later.index ids.length = earlier.index ids.length := by
    rw [index, index, ← happart, Nat.add_mul_mod_self_right]
  have hround : later.round ids.length = earlier.round ids.length + 65536 := by
    rw [round, round, ← happart, Nat.add_mul_div_right _ _ (Nat.zero_lt_of_lt hsome)]
  refine ⟨?_, ?_⟩
  · have hpinger := h'.pinger
    rw [hindex, h.pinger] at hpinger
    exact Option.some.inj hpinger
  · rw [h.sequence, h'.sequence, hround]
    simp

end Ping.Placed

/-- **While the service runs, sequence numbers are free when they come round.** -/
theorem Running.recurring (h : Running config ids rounds e) (hs : Sound {} e)
    (hsize : ids.length = config.targets.length) : ∃ service, Recurring config service rounds e := by
  obtain ⟨service, hservice, hplan⟩ := Option.map_eq_some_iff.1 h.agenda
  obtain ⟨hconfig, hround⟩ := Prod.mk.inj hplan
  have hids : service.targets.toList.map Target.pinger = ids := by
    rw [← h.targets, Engine.targetPingers, hservice, Option.map_some, Option.getD_some]
  have hlength : ids.length = service.targets.size := by
    rw [← hids, List.length_map, Array.length_toList]
  have hnext : e.nextPing = rounds * service.targets.size := by rw [h.paced.nextPing, hlength]
  refine ⟨service, {
    serves := hservice
    configured := hconfig
    size := hlength.symm.trans hsize
    round := hround
    numbers := by rw [← hnext]; exact h.paced.numbers
    placed := by rw [hids]; exact h.paced.placed
    unrefused := h.paced.unrefused
    free := fun task hmem hring => ?_
    answered := h.paced.answered
    before := fun later hlater hmany => ?_ }⟩
  · rw [hround, UInt32.toUInt16_ofNat']
    exact (h.ticking.rung task hmem hring).free h.paced hs
  · have hnumber : later.number - 65536 * service.targets.size < e.nextPing :=
      Nat.lt_of_le_of_lt (Nat.sub_le _ _) (h.paced.numbers.number_lt hlater)
    obtain ⟨earlier, hearlier, hfound⟩ := h.paced.numbers.exists_ping hnumber
    have happart : earlier.number + 65536 * service.targets.size = later.number := by
      rw [hfound]
      exact Nat.sub_add_cancel hmany
    obtain ⟨hpinger, hsequence⟩ := (h.paced.placed earlier hearlier).comes_round
      (h.paced.placed later hlater) (by rw [hlength]; exact happart)
    have hlt : earlier.number < later.number := by
      have hsome : 0 < service.targets.size := by
        rw [← hlength]
        exact Nat.zero_lt_of_lt
          (List.getElem?_eq_some_iff.1 (h.paced.placed later hlater).pinger).1
      rw [← happart]
      exact Nat.lt_add_of_pos_right (Nat.mul_pos (by decide) hsome)
    exact ⟨earlier, hearlier, happart, hpinger, hsequence,
      h.paced.answered earlier hearlier later hlater hlt hpinger hsequence⟩

namespace Session

variable {s opened begun : Session} {past : List (Session × Deed)} {network : Network}
  {logLevel : Int} {logFile : Option String} {files : List (String × String)}
  {signals : List (Time × Int)}

/-- **Sequence numbers come round safely.**

A service whose configuration is valid, and waits for a reply less than 65536 times as long as from
round to round, was opened and begun, and has run in any orderly way, for any number of rounds.  No
ping was refused because its sequence number was taken, and the ping of the same target with the same
sequence number, 65536 rounds before, had ended when the later one was asked for.  The engine's own
run is orderly, if no task turns the clock back. -/
theorem sequence_numbers_come_round
    (hopened : Does (fresh network logLevel logFile files signals) (.openService config) opened)
    (hok : ((fresh network logLevel logFile files signals).engine.openService config).2 = .ok ())
    (hvalid : config.validate = .ok ()) (hfast : config.ping.timeout < 65536 * config.interval)
    (hbegun : Does opened .startService begun) (hrun : Run begun past s) (hserving : Serving past)
    (horderly : Orderly past) :
    (∃ service rounds, Recurring config service rounds s.engine) ∧
      (0 ≤ s.engine.network.tick →
        ∃ past', Run s past' { s with engine := s.engine.run } ∧ Serving past' ∧ Orderly past') := by
  have hunhurried := Config.unhurried_of_validate hvalid hfast
  obtain ⟨ids, hsize, hbegins⟩ := going_of_begun hopened hok hbegun hunhurried
  have hgoing := hrun.going hbegins hserving horderly
  obtain ⟨rounds, hrunning⟩ := hgoing.running
  obtain ⟨service, hrecurring⟩ := hrunning.recurring hgoing.sound.engine hsize
  refine ⟨⟨service, rounds, hrecurring⟩, fun htick => ?_⟩
  obtain ⟨past', hpast, hown⟩ := run_of_steps none Engine.manySteps s
  exact ⟨past', hpast, fun entry hentry => Own.serves (hown entry hentry),
    hpast.orderly hown hgoing htick⟩

/-- Two rounds for a target that answers: the service stops after two pings. -/
theorem sequence_numbers_come_round_of_two :
    let address : Address := .ofOctets 10 0 0 1
    let network : Network :=
      { names := [("a", address)], hosts := [(address, { delay := 1000000, source := address })] }
    let config : Config := { targets := ["a"], count := 2 }
    let opened : Session := { engine := ((fresh network 1 none [] []).engine.openService config).1 }
    let begun : Session := { engine := opened.engine.startService }
    let s : Session := { engine := begun.engine.run }
    config.validate = .ok () ∧ config.ping.timeout < 65536 * config.interval ∧
      s.engine.pings.map Ping.number = [1, 0] ∧
      ∃ service rounds, Recurring config service rounds s.engine := by
  intro address network config opened begun s
  have hok : ((fresh network 1 none [] []).engine.openService config).2 = .ok () := by
    decide +kernel
  have hvalid : config.validate = .ok () := by decide +kernel
  have hfast : config.ping.timeout < 65536 * config.interval := by decide
  have hopened : Does (fresh network 1 none [] []) (.openService config) opened := .openService config
  have hbegun : Does opened .startService begun := .startService
  obtain ⟨-, hitself⟩ := sequence_numbers_come_round hopened hok hvalid hfast hbegun (.nil begun)
    (fun _ h => nomatch h) fun _ h => nomatch h
  obtain ⟨past, hrun, hserving, horderly⟩ := hitself (by decide +kernel)
  obtain ⟨hrecurring, -⟩ :=
    sequence_numbers_come_round hopened hok hvalid hfast hbegun hrun hserving horderly
  exact ⟨hvalid, hfast, by decide +kernel, hrecurring⟩

end Session

end IcmpEcho
