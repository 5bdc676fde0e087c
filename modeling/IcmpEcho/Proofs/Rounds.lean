/-
# Rounds

A round asks for one ping of each target, counts itself, and sets the timer for the next round
unless it was the last.  Its pings are asked for while nobody is told anything, so the books are
kept (`Books.startRound`).

`Underway coming signalled service e`: the service goes on.  **Either a round is due once, or the
last one has begun** (`Underway.rounds`).  Tasks are posted at the end of the queue, and only a round
posts refusals; so none of them stands behind a round that is due (`Underway.lined`).  When that
round begins with no refusal before it either, all of the last round were told, and there are never
more of them than targets (`Underway.few`).  A signal is on its way only if there are any (`coming`),
and ready only if one has come (`signalled`).
-/
import IcmpEcho.Proofs.Books

namespace IcmpEcho

variable {e e' e'' : Engine} {service service' service'' : Service} {begun count count' : Nat}
  {coming signalled : Prop}

/-! ## 1. The pings of a round -/

/-- From `e` to `e'` the service has asked for `count` pings, in one round. -/
structure Pinged (count : Nat) (service service' : Service) (e e' : Engine) : Prop where
  offstage : Offstage e e'
  refusals : e'.refusals ≤ e.refusals + count
  pings : e'.pings.length = e.pings.length + count
  config : service'.config = service.config
  round : service'.round = service.round
  stopped : service'.stopped = service.stopped
  size : service'.targets.size = service.targets.size

namespace Pinged

theorem refl (service : Service) (e : Engine) : Pinged 0 service service e e :=
  ⟨.refl e, Nat.le_refl _, rfl, rfl, rfl, rfl, rfl⟩

theorem trans (h : Pinged count service service' e e') (h' : Pinged count' service' service'' e' e'') :
    Pinged (count + count') service service'' e e'' where
  offstage := h.offstage.trans h'.offstage
  refusals := by
    have hfirst := h.refusals
    have hsecond := h'.refusals
    omega
  pings := by rw [h'.pings, h.pings, Nat.add_assoc]
  config := h'.config.trans h.config
  round := h'.round.trans h.round
  stopped := h'.stopped.trans h.stopped
  size := h'.size.trans h.size

end Pinged

namespace Books

/-- **One target is pinged.** -/
theorem pingTarget (hb : Books begun service e) (hlt : begun < service.targets.size)
    (sequence : UInt16) :
    ∃ next, Books (begun + 1) next (Engine.pingTarget sequence e begun) ∧
      Pinged 1 service next e (Engine.pingTarget sequence e begun) := by
  have htarget : service.targets[begun]? = some service.targets[begun] :=
    Array.getElem?_eq_getElem hlt
  obtain ⟨pinger, hp⟩ := (hb.entries begun _ htarget).pinger
  have hasked := hb.asked htarget hp sequence
  let counted := e.updateService fun service => service.asks begun
  let noted := counted.noteAsked service.targets[begun].pinger pinger
    { identifier := pinger.identifier, sequence } (.target begun)
  have hping : Engine.pingTarget sequence e begun
      = counted.ping service.targets[begun].pinger sequence (.target begun) := by
    have hfound : (e.service.bind fun service => service.targets[begun]?)
        = some service.targets[begun] := by
      rw [hb.serves, Option.bind_some, htarget]
    simp only [Engine.pingTarget, hfound]
    rfl
  have hnoted : Pinged 1 service (service.asks begun) e noted := {
    offstage := ⟨rfl, rfl, rfl, rfl, rfl⟩
    refusals := Nat.le_succ _
    pings := rfl
    config := rfl
    round := rfl
    stopped := rfl
    size := Array.size_modify }
  have hp' : counted.pingers[service.targets[begun].pinger]? = some pinger := hp
  refine ⟨service.asks begun, ?_⟩
  rw [hping]
  rcases Engine.ping_noted hp' sequence (.target begun) with ⟨fault, hrefused⟩ | hentered
  · rw [hrefused]
    refine ⟨hasked.transfer hasked.serves rfl rfl rfl rfl fun _ pinger hp => ⟨pinger, hp, rfl⟩, ?_⟩
    refine { hnoted with
      offstage := hnoted.offstage.trans (.post rfl)
      refusals := ?_ }
    simp [Engine.refusals, Engine.post, Task.refusal?, Engine.noteAsked, counted,
      Engine.updateService]
  · refine ⟨hasked.unbooked hentered, { hnoted with
      offstage := hnoted.offstage.trans hentered.toOffstage
      refusals := ?_
      pings := ?_ }⟩
    · rw [hentered.refusals_eq]
      exact hnoted.refusals
    · rw [hentered.pings]
      exact hnoted.pings

/-- **The targets are pinged one after another.** -/
theorem pingTargets (hb : Books 0 service e) (sequence : UInt16) :
    ∀ count ≤ service.targets.size, ∃ next,
      Books count next ((List.range count).foldl (Engine.pingTarget sequence) e) ∧
        Pinged count service next e ((List.range count).foldl (Engine.pingTarget sequence) e)
  | 0, _ => ⟨service, hb, .refl _ _⟩
  | count + 1, hle => by
    obtain ⟨next, hnext, hpinged⟩ := pingTargets hb sequence count (Nat.le_of_succ_le hle)
    obtain ⟨last, hlast, hone⟩ := hnext.pingTarget (by rw [hpinged.size]; exact hle) sequence
    rw [List.range_succ, List.foldl_append]
    exact ⟨last, hlast, hpinged.trans hone⟩

/-- **When every target was pinged the round is counted.** -/
theorem endRound (hb : Books begun service e) (hall : service.targets.size ≤ begun) {round : UInt32}
    (hround : round = service.round + 1) (hmore : service.round < service.config.count) :
    Books 0 { service with round } (e.updateService fun service => { service with round }) := by
  have hlt := UInt32.lt_iff_toNat_lt.1 hmore
  have hnat : round.toNat = service.round.toNat + 1 := by
    have hmax := service.config.count.toNat_lt
    rw [hround, UInt32.toNat_add]
    exact Nat.mod_eq_of_lt (by simpa using Nat.lt_of_le_of_lt hlt hmax)
  refine {
    serves := by rw [Engine.updateService, hb.serves]; rfl
    numbers := hb.numbers
    known := hb.known
    owned := fun ping hmem => ⟨(hb.owned ping hmem).owner⟩
    entries := fun index target htarget => ?_
    outstanding := hb.outstanding
    output := hb.output
    rounds := by rw [UInt32.le_iff_toNat_le, hnat]; exact hlt }
  have hentry := hb.entries index target htarget
  have hpinged : index < begun :=
    Nat.lt_of_lt_of_le (Array.getElem?_eq_some_iff.1 htarget).1 hall
  refine ⟨hentry.pinger, ?_, hentry.transmitted, hentry.received⟩
  rw [if_neg (Nat.not_lt_zero _), hnat, Nat.add_zero]
  exact hentry.asked.trans (by rw [if_pos hpinged])

end Books

/-! ## 2. The service goes on -/

/-- Behind a round that is due no ping is refused. -/
def Engine.Lined (e : Engine) : Prop :=
  e.ready.Pairwise fun first later => first.rings? = some .round → later.refusal? = none

/-- **The service goes on.** -/
structure Underway (coming signalled : Prop) (service : Service) (e : Engine) : Prop where
  running : e.stopped = false
  going : service.stopped = false
  /-- A round is due, once, until the last one has begun. -/
  rounds : e.armed .round = if service.roundsBegun then 0 else 1
  lined : e.Lined
  few : e.refusals ≤ service.targets.size
  planned : ∀ entry ∈ e.timeline, entry.2.isCue →
    entry.2 = .ring .round ∨ (∃ number, entry.2 = .signal number) ∧ coming
  cues : ∀ task ∈ e.ready, task.isCue → task.rings? = some .round ∨ signalled

theorem Task.isCue_of_rings {task : Task} (h : task.rings? = some .round) : task.isCue := by
  cases task with
  | rang alarm code =>
    by_cases hcode : code = .aborted
    · simp [Task.rings?, hcode] at h
    · simp only [Task.rings?, if_neg hcode, Option.some.injEq] at h
      simp [Task.isCue, h, hcode]
  | _ => cases h

namespace Engine.Lined

/-- What is posted stands behind everything else. -/
theorem append (h : e.Lined) {task : Task} (hrefusal : task.refusal? = none)
    (hready : e'.ready = e.ready ++ [task]) : e'.Lined := by
  rw [Lined, hready]
  refine List.pairwise_append.2 ⟨h, List.pairwise_singleton _ _, fun first _ later hlater _ => ?_⟩
  rw [List.mem_singleton.1 hlater]
  exact hrefusal

theorem sublist (h : e.Lined) (hsub : e'.ready.Sublist e.ready) : e'.Lined :=
  List.Pairwise.sublist hsub h

/-- Where no round is due there is nothing to line up. -/
theorem of_none (h : e.ready.countP (fun task => task.rings? = some .round) = 0) : e.Lined := by
  refine List.pairwise_iff_forall_sublist.2 fun {first later} hsub hround => ?_
  have hmem : first ∈ e.ready := hsub.subset List.mem_cons_self
  exact absurd (decide_eq_true hround) (List.countP_eq_zero.1 h first hmem)

end Engine.Lined

/-- The task of the round timer begins a round. -/
theorem Engine.perform_of_rings {task : Task} (h : task.rings? = some .round) :
    e.perform task = e.startRound := by
  cases task with
  | rang alarm code =>
    by_cases hcode : code = .aborted
    · simp [Task.rings?, hcode] at h
    · simp only [Task.rings?, if_neg hcode, Option.some.injEq] at h
      subst h
      simp only [Engine.perform, Engine.rang, if_neg hcode]
  | _ => cases h

namespace Offstage

theorem rings (h : Offstage e e') : e'.ready.countP (fun task => task.rings? = some .round)
    = e.ready.countP fun task => task.rings? = some .round :=
  countP_eq_of_filter_eq h.ready fun _ ht => Task.isCue_of_rings (of_decide_eq_true ht)

theorem armed (h : Offstage e e') : e'.armed .round = e.armed .round := by
  rw [Engine.armed, Engine.armed, h.rings]
  congr 1
  refine countP_eq_of_filter_eq h.timeline fun entry hring => ?_
  have hring : entry.2 = .ring .round := of_decide_eq_true hring
  rw [hring]
  rfl

theorem planned (h : Offstage e e')
    (hp : ∀ entry ∈ e.timeline, entry.2.isCue →
      entry.2 = .ring .round ∨ (∃ number, entry.2 = .signal number) ∧ coming) :
    ∀ entry ∈ e'.timeline, entry.2.isCue →
      entry.2 = .ring .round ∨ (∃ number, entry.2 = .signal number) ∧ coming :=
  fun entry hmem hcue => hp entry (mem_of_filter_eq h.timeline hmem hcue) hcue

theorem cues (h : Offstage e e')
    (hc : ∀ task ∈ e.ready, task.isCue → task.rings? = some .round ∨ signalled) :
    ∀ task ∈ e'.ready, task.isCue → task.rings? = some .round ∨ signalled :=
  fun task hmem hcue => hc task (mem_of_filter_eq h.ready hmem hcue) hcue

end Offstage

/-- Only rounds and refusals have to be lined up, and these stay in their order. -/
theorem Unbooked.lined (h : Unbooked e e') (hl : e.Lined) : e'.Lined := by
  have hbooked : ∀ tasks : List Task, (tasks.filter Task.isBooked).Pairwise
      (fun first later => first.rings? = some .round → later.refusal? = none) ↔
        tasks.Pairwise fun first later => first.rings? = some .round → later.refusal? = none := by
    intro tasks
    rw [List.pairwise_filter]
    refine ⟨fun hp => hp.imp fun {first later} hpair hround => ?_,
      fun hp => hp.imp fun hpair _ _ => hpair⟩
    have hfirst : first.isBooked := by rw [Task.isBooked, Task.isCue_of_rings hround, Bool.true_or]
    by_contra hrefusal
    have hlater : later.isBooked := Task.isBooked_of_refusal (Option.isSome_iff_ne_none.2 hrefusal)
    exact hrefusal (hpair hfirst hlater hround)
  exact (hbooked e'.ready).1 (h.booked ▸ (hbooked e.ready).2 hl)

namespace Underway

theorem unbooked (hu : Underway coming signalled service e) (h : Unbooked e e') :
    Underway coming signalled service e' where
  running := h.stopped.trans hu.running
  going := hu.going
  rounds := h.toOffstage.armed.trans hu.rounds
  lined := h.lined hu.lined
  few := by
    rw [h.refusals_eq]
    exact hu.few
  planned := h.toOffstage.planned hu.planned
  cues := h.toOffstage.cues hu.cues

/-- A task that begins no round is taken up. -/
theorem consume (hu : Underway coming signalled service e) {front back : List Task} {task : Task}
    (hready : e.ready = front ++ task :: back) (hround : task.rings? ≠ some .round) :
    Underway coming signalled service { e with ready := front ++ back } := by
  have hrings : (front ++ back).countP (fun task => task.rings? = some .round)
      = e.ready.countP fun task => task.rings? = some .round := by
    simp [hready, List.countP_append, hround]
  have hsub : (front ++ back).Sublist e.ready := sublist_of_taken hready
  have hrefusals : (front ++ back).countP (fun task => task.refusal?.isSome) ≤ e.refusals := by
    rw [Engine.refusals, hready, List.countP_append, List.countP_append, List.countP_cons]
    omega
  exact { hu with
    rounds := by rw [← hu.rounds, Engine.armed, hrings]; rfl
    lined := hu.lined.sublist hsub
    few := Nat.le_trans hrefusals hu.few
    cues := fun other hmem => hu.cues other (hsub.subset hmem) }

end Underway

/-! ## 3. A round begins -/

/-- **A round is due.** -/
structure Due (coming signalled : Prop) (service : Service) (e : Engine) : Prop where
  running : e.stopped = false
  going : service.stopped = false
  begun : service.roundsBegun = false
  unset : e.armed .round = 0
  rested : e.refusals = 0
  planned : ∀ entry ∈ e.timeline, entry.2.isCue →
    entry.2 = .ring .round ∨ (∃ number, entry.2 = .signal number) ∧ coming
  cues : ∀ task ∈ e.ready, task.isCue → task.rings? = some .round ∨ signalled

/-- **The task that begins a round is taken up when the round is due**, and when whoever was refused
before was told. -/
theorem Underway.due (hu : Underway coming signalled service e) {front back : List Task} {task : Task}
    (hready : e.ready = front ++ task :: back) (hround : task.rings? = some .round)
    (hfront : ∀ other ∈ front, other.refusal? = none) :
    Due coming signalled service { e with ready := front ++ back } := by
  have harmed : Engine.armed { e with ready := front ++ back } .round + 1 = e.armed .round := by
    simp only [Engine.armed, hready, List.countP_append, List.countP_cons, hround]
    simp only [decide_true, if_true]
    omega
  have hback : ∀ other ∈ back, other.refusal? = none := by
    have hlined := hu.lined
    rw [Engine.Lined, hready] at hlined
    have hbehind := List.pairwise_cons.1 (List.pairwise_append.1 hlined).2.1
    exact fun other hmem => hbehind.1 other hmem hround
  have hrested : Engine.refusals { e with ready := front ++ back } = 0 := by
    refine List.countP_eq_zero.2 fun other hmem => ?_
    rcases List.mem_append.1 hmem with hmem | hmem
    · simp [hfront other hmem]
    · simp [hback other hmem]
  have hrounds := hu.rounds
  refine {
    running := hu.running
    going := hu.going
    begun := ?_
    unset := ?_
    rested := hrested
    planned := hu.planned
    cues := fun other hmem => hu.cues other ((sublist_of_taken hready).subset hmem) }
  · cases hbegun : service.roundsBegun with
    | false => rfl
    | true =>
      rw [hbegun, if_pos rfl] at hrounds
      omega
  · split at hrounds <;> omega

theorem Engine.setAlarm_of_unset {alarm : Alarm} (h : e.armed alarm = 0) (wait : Time) :
    e.setAlarm alarm wait = e.ringAfter wait alarm := by
  have hunset : e.awaits alarm = false := by
    simpa [awaits] using (armed_eq_zero_iff.1 h).2
  rw [setAlarm, cancelAlarm, if_neg (by simp [hunset])]

/-- **After the pings of a round the service goes on**, with the timer set if there is to be another
round. -/
theorem Due.onward (hdue : Due coming signalled service e) (next : Service) (h : Offstage e e')
    (hgoing : next.stopped = false) (hfew : e'.refusals ≤ next.targets.size) (wait : Time) :
    Underway coming signalled next (if next.roundsBegun then e' else e'.setAlarm .round wait) := by
  have hunset := h.armed.trans hdue.unset
  have hnone : e'.ready.countP (fun task => task.rings? = some .round) = 0 := by
    unfold Engine.armed at hunset
    omega
  split
  · next hbegun => exact {
      running := h.stopped.trans hdue.running
      going := hgoing
      rounds := hunset.trans (if_pos hbegun).symm
      lined := .of_none hnone
      few := hfew
      planned := h.planned hdue.planned
      cues := h.cues hdue.cues }
  · next hmore =>
    rw [Engine.setAlarm_of_unset hunset]
    exact {
      running := h.stopped.trans hdue.running
      going := hgoing
      rounds := by rw [Engine.armed_ringAfter, hunset, if_neg hmore, if_pos rfl]
      lined := .of_none hnone
      few := hfew
      planned := fun entry hmem hcue => by
        rcases Engine.mem_insertAt.1 hmem with rfl | hmem
        · exact .inl rfl
        · exact h.planned hdue.planned entry hmem hcue
      cues := h.cues hdue.cues }

/-- What a round comes to. -/
structure Begins (service service' : Service) (e e' : Engine) : Prop where
  config : service'.config = service.config
  size : service'.targets.size = service.targets.size
  round : service'.round = service.round + 1
  endings : e'.endings = e.endings
  pings : e'.pings.length = e.pings.length + service.targets.size

/-- **A round begins**: every target is pinged once, nobody is told, and the next round is due if
there is to be one. -/
theorem Books.startRound (hb : Books 0 service e) (hdue : Due coming signalled service e)
    (hcount : service.config.count ≠ 0) :
    ∃ next, Books 0 next e.startRound ∧ Underway coming signalled next e.startRound ∧
      Begins service next e e.startRound := by
  have hmore : service.round < service.config.count := by
    have hbegun := hdue.begun
    simp only [Service.roundsBegun, Bool.and_eq_false_iff, decide_eq_false_iff_not, ne_eq, not_not]
      at hbegun
    exact UInt32.not_le.1 (hbegun.resolve_left hcount)
  obtain ⟨pinged, hbooks, hpinged⟩ :=
    hb.pingTargets service.round.toUInt16 service.targets.size (Nat.le_refl _)
  have hstart : e.startRound
      = (let engine := ((List.range service.targets.size).foldl
            (Engine.pingTarget service.round.toUInt16) e).updateService
              fun old => { old with round := service.round + 1 }
          if Service.roundsBegun { service with round := service.round + 1 } then engine
          else engine.setAlarm .round (service.config.interval * 1000000)) := by
    simp only [Engine.startRound, hb.serves, hdue.going]
    rfl
  generalize (List.range service.targets.size).foldl (Engine.pingTarget service.round.toUInt16) e
    = asked at hbooks hpinged hstart
  have hcounted : Books 0 { pinged with round := service.round + 1 }
      (asked.updateService fun old => { old with round := service.round + 1 }) :=
    hbooks.endRound (Nat.le_of_eq hpinged.size) (by rw [hpinged.round])
      (by rw [hpinged.round, hpinged.config]; exact hmore)
  have hbegun : Service.roundsBegun { service with round := service.round + 1 }
      = Service.roundsBegun { pinged with round := service.round + 1 } := by
    simp only [Service.roundsBegun, hpinged.config]
  have hoffstage : Offstage e (asked.updateService fun old => { old with round := service.round + 1 }) :=
    hpinged.offstage.trans ⟨rfl, rfl, rfl, rfl, rfl⟩
  have hfew : asked.refusals ≤ pinged.targets.size := by
    rw [hpinged.size]
    have hrefusals := hpinged.refusals
    have hrested := hdue.rested
    omega
  have honward := hdue.onward { pinged with round := service.round + 1 } hoffstage
    (hpinged.stopped.trans hdue.going) hfew (service.config.interval * 1000000)
  have hunset := hoffstage.armed.trans hdue.unset
  refine ⟨{ pinged with round := service.round + 1 }, ?_⟩
  rw [hstart, hbegun]
  refine ⟨?_, honward, ?_⟩
  · split
    · exact hcounted
    · rw [Engine.setAlarm_of_unset hunset]
      exact hcounted.transfer hcounted.serves rfl rfl rfl rfl fun _ pinger hp => ⟨pinger, hp, rfl⟩
  · split
    · exact ⟨hpinged.config, hpinged.size, rfl, hoffstage.endings, hpinged.pings⟩
    · rw [Engine.setAlarm_of_unset hunset]
      exact ⟨hpinged.config, hpinged.size, rfl, hoffstage.endings, hpinged.pings⟩

end IcmpEcho
