/-
# Runs of the service

While the service runs, tasks are performed and items of the timeline happen in any order; once the
engine is stopped neither does.  The clock and the network may change at any time, and datagrams and
failures come in (`Session.Serves`).

One thing about the order of tasks is needed: they wait in a queue, so whoever was refused in one
round is told before the next one begins (`Session.Queued`).  Were refusals put off for any number of
rounds, then as many pings would be outstanding, and the counter of the service has 32 bits.

**Along such a run the books of the service agree with the ledger, and the service goes on until it
stops** (`Standing`).  It stops when a signal comes, and else in no other state than this: the last
round has begun and every ping was told of.  A task may tell of many pings, and the service looks
after each of them; so this is followed through the task first (`Row`).
-/
import IcmpEcho.Proofs.Outside
import IcmpEcho.Proofs.Outstanding

namespace IcmpEcho

variable {e e' : Engine} {service : Service} {coming signalled : Prop} {config : Config} {base size : Nat}

/-! ## 1. A row of endings -/

/-- The service stopped when `told` pings had been told of, of which `base` before the row; its
counter was at zero. -/
def Engine.Idled (e : Engine) (base : Nat) : Prop :=
  ∃ told, base ≤ told ∧ told ≤ e.endings.length ∧ UInt32.ofNat told = UInt32.ofNat e.pings.length

/-- **In the middle of a row.**  The service goes on with pings outstanding, or it has stopped. -/
structure Row (coming signalled : Prop) (config : Config) (size base : Nat) (service : Service) (e : Engine) :
    Prop where
  books : Books 0 service e
  config : service.config = config
  size : service.targets.size = size
  told : base ≤ e.endings.length
  few : e.refusals ≤ service.targets.size
  state : (Underway coming signalled service e ∧ (service.roundsBegun → service.outstanding ≠ 0)) ∨
    (e.stopped = true ∧ service.roundsBegun ∧ e.Idled base)

namespace Row

theorem unbooked (hr : Row coming signalled config size base service e) (h : Unbooked e e') :
    Row coming signalled config size base service e' where
  books := hr.books.unbooked h
  config := hr.config
  size := hr.size
  told := by rw [h.endings]; exact hr.told
  few := by rw [h.refusals_eq]; exact hr.few
  state := by
    rcases hr.state with ⟨hu, hbusy⟩ | ⟨hstopped, hbegun, hidled⟩
    · exact .inl ⟨hu.unbooked h, hbusy⟩
    · refine .inr ⟨h.stopped.trans hstopped, hbegun, ?_⟩
      unfold Engine.Idled
      rw [h.endings, h.pings]
      exact hidled

/-- **One ping ends.** -/
theorem tell (hr : Row coming signalled config size base service e) {number : PingId} {ping : Ping}
    {index : Nat} (hping : e.ping? number = some ping) (hcaller : ping.caller = .target index)
    (code : ErrorCode) (result : PingResult) :
    ∃ next, Row coming signalled config size base next (e.tell number (.target index) code result) := by
  obtain ⟨line, hcounted, hcases⟩ := hr.books.tell hping hcaller code result
  have hsize : (service.count index code result).targets.size = service.targets.size := by
    unfold Service.count
    dsimp only
    split
    · rfl
    · exact Array.size_modify
  have hbegun : (service.count index code result).roundsBegun = service.roundsBegun := rfl
  generalize hnext : e.counted number index line code result = counted at hcounted hcases
  have hendings : counted.endings.length = e.endings.length + 1 := by subst hnext; rfl
  have hready : counted.ready = e.ready := by subst hnext; rfl
  have htimeline : counted.timeline = e.timeline := by subst hnext; rfl
  have hstopped : counted.stopped = e.stopped := by subst hnext; rfl
  have hpings : counted.pings = e.pings := by subst hnext; rfl
  have hrefusals : counted.refusals = e.refusals := by rw [Engine.refusals, hready]; rfl
  have htold := hr.told
  have hfew : counted.refusals ≤ (service.count index code result).targets.size := by
    rw [hrefusals, hsize]
    exact hr.few
  rcases hcases with ⟨htell, hbusy⟩ | ⟨htell, hidle, hlast⟩
  · rw [htell]
    refine ⟨_, hcounted, hr.config, hsize.trans hr.size, by omega, hfew, ?_⟩
    rcases hr.state with ⟨hu, -⟩ | ⟨hhalted, hlast, told, hbase, hle, hsame⟩
    · refine .inl ⟨{
        running := hstopped.trans hu.running
        going := hu.going
        rounds := by rw [Engine.armed, hready, htimeline]; exact hu.rounds
        lined := by rw [Engine.Lined, hready]; exact hu.lined
        few := hfew
        planned := by rw [htimeline]; exact hu.planned
        cues := by rw [hready]; exact hu.cues }, hbusy⟩
    · refine .inr ⟨hstopped.trans hhalted, hlast, told, hbase, by omega, ?_⟩
      rw [hpings]
      exact hsame
  · rw [htell]
    have hhalts := Engine.halts_stopService hcounted.serves
    refine ⟨_, hcounted.halts hhalts, hr.config, hsize.trans hr.size, ?_, ?_,
      .inr ⟨hhalts.stopped, hlast, counted.endings.length, by omega, ?_, ?_⟩⟩
    · rw [hhalts.endings]
      omega
    · rw [hhalts.refusals]
      exact hfew
    · exact Nat.le_of_eq (by rw [hhalts.endings])
    · have hout := hcounted.outstanding
      rw [hidle, UInt32.zero_add] at hout
      rw [hout, hhalts.pings]

/-- **The row is followed to its end.** -/
theorem reports (h : Reports e e') : ∀ {service : Service},
    Row coming signalled config size base service e → ∃ next, Row coming signalled config size base next e' := by
  induction h with
  | nil => exact fun hr => ⟨_, hr⟩
  | apart head _ ih => exact fun hr => ih (hr.unbooked (.of_chores head))
  | tell known caller _ ih =>
    intro service hr
    obtain ⟨next, hnext⟩ := hr.tell known caller _ _
    exact ih hnext

end Row

/-! ## 2. Between tasks -/

/-- **The service goes on with pings outstanding, or it has stopped**: because of a signal, or with
the last round begun and every ping told of. -/
structure Standing (coming signalled : Prop) (config : Config) (size : Nat) (service : Service) (e : Engine) :
    Prop where
  books : Books 0 service e
  config : service.config = config
  size : service.targets.size = size
  few : e.refusals ≤ service.targets.size
  state : (Underway coming signalled service e ∧ (service.roundsBegun → service.outstanding ≠ 0)) ∨
    (e.stopped = true ∧ (signalled ∨ (service.roundsBegun ∧ e.pending = [])))

namespace Standing

theorem pending_congr (hpings : e'.pings = e.pings) (hendings : e'.endings = e.endings) :
    e'.pending = e.pending := by
  unfold Engine.pending Engine.told
  rw [hpings, hendings]

theorem unbooked (hst : Standing coming signalled config size service e) (h : Unbooked e e') :
    Standing coming signalled config size service e' where
  books := hst.books.unbooked h
  config := hst.config
  size := hst.size
  few := by rw [h.refusals_eq]; exact hst.few
  state := by
    rcases hst.state with ⟨hu, hbusy⟩ | ⟨hstopped, hdone⟩
    · exact .inl ⟨hu.unbooked h, hbusy⟩
    · refine .inr ⟨h.stopped.trans hstopped, ?_⟩
      rwa [pending_congr h.pings h.endings]

/-- While the engine is not stopped, the service goes on. -/
theorem underway (hst : Standing coming signalled config size service e) (hrunning : e.stopped = false) :
    Underway coming signalled service e ∧ (service.roundsBegun → service.outstanding ≠ 0) := by
  rcases hst.state with hgoes | ⟨hstopped, -⟩
  · exact hgoes
  · rw [hrunning] at hstopped
    cases hstopped

/-- **The books count exactly the pings that are pending.** -/
theorem outstanding_eq (hst : Standing coming signalled config size service e) (hs : Sound {} e)
    (hmany : size ≤ 32768) : service.outstanding.toNat = e.pending.length :=
  hst.books.outstanding_eq hs (by rw [hst.size]; exact hmany) hst.few

end Standing

theorem eq_of_ofNat_eq {a b : Nat} (h : UInt32.ofNat a = UInt32.ofNat b) (hle : a ≤ b)
    (hlt : b < a + 4294967296) : a = b := by
  have hmod := congrArg UInt32.toNat h
  simp only [UInt32.toNat_ofNat'] at hmod
  omega

/-- **At the end of a row** in which the service stopped, every ping was told of. -/
theorem Row.standing {start : Engine} {service' : Service}
    (hr : Row coming signalled config size start.endings.length service e) (hs : Sound {} e)
    (hstart : Standing coming signalled config size service' start) (hs' : Sound {} start)
    (hpings : e.pings = start.pings) (hmany : size ≤ 32768) :
    Standing coming signalled config size service e where
  books := hr.books
  config := hr.config
  size := hr.size
  few := hr.few
  state := by
    rcases hr.state with hgoes | ⟨hstopped, hlast, told, hbase, hle, hsame⟩
    · exact .inl hgoes
    · refine .inr ⟨hstopped, .inr ⟨hlast, ?_⟩⟩
      have hlength := hr.books.length_pings hs
      have hbefore := hstart.books.length_pings hs'
      have hpending := hstart.books.length_pending_le hs'
      have hfew := hstart.few
      rw [hstart.size] at hpending hfew
      rw [← hpings] at hbefore
      have hall : told = e.pings.length := eq_of_ofNat_eq hsame (by omega) (by omega)
      exact List.eq_nil_of_length_eq_zero (by omega)

/-! ## 3. Tasks -/

/-- **A round begins**, and pings are outstanding. -/
theorem Books.standing_of_startRound {next : Engine} (hb : Books 0 service e)
    (hdue : Due coming signalled service e) (hconfig : service.config = config)
    (hsize : service.targets.size = size) (hlength : e.endings.length ≤ e.pings.length)
    (hcount : config.count ≠ 0) (hsome : 0 < size) (hmany : size ≤ 32768)
    (h : Unbooked e.startRound next) (hs : Sound {} next) :
    ∃ service', Standing coming signalled config size service' next := by
  obtain ⟨service', hbooks, hunderway, hbegins⟩ := hb.startRound hdue (by rw [hconfig]; exact hcount)
  have hnext := hbooks.unbooked h
  have hu := hunderway.unbooked h
  have hsize' := hbegins.size.trans hsize
  refine ⟨service', hnext, hbegins.config.trans hconfig, hsize', hu.few, .inl ⟨hu, ?_⟩⟩
  intro _ hzero
  -- as many pings as there are targets were asked for, and nobody was told of them
  have hout := hnext.outstanding_eq hs (by rw [hsize']; exact hmany) hu.few
  have hpending := hnext.length_pings hs
  rw [h.pings, h.endings, hbegins.pings, hbegins.endings, hsize] at hpending
  rw [hzero, UInt32.toNat_zero] at hout
  omega

namespace Standing

variable {front back : List Task} {due : Task}

theorem books_of_taken (hst : Standing coming signalled config size service e) (ready : List Task) :
    Books 0 service { e with ready } :=
  hst.books.transfer hst.books.serves rfl rfl rfl rfl fun _ pinger hp => ⟨pinger, hp, rfl⟩

/-- **A task that neither begins a round nor brings a signal** is a row of endings. -/
theorem row (hst : Standing coming signalled config size service e) (hs : Sound {} e)
    (hrunning : e.stopped = false) (hready : e.ready = front ++ due :: back)
    (hcue : due.isCue = false) (hmany : size ≤ 32768)
    (hs' : Sound {} (Engine.perform { e with ready := front ++ back } due).sweep) :
    ∃ service', Standing coming signalled config size service'
      (Engine.perform { e with ready := front ++ back } due).sweep := by
  obtain ⟨hu, hbusy⟩ := hst.underway hrunning
  obtain ⟨hsound, htaken⟩ := hs.consume hready
  have hround : due.rings? ≠ some .round := fun hring => by
    rw [Task.isCue_of_rings hring] at hcue
    cases hcue
  have htaking := hu.consume hready hround
  have hbooks := hst.books_of_taken (front ++ back)
  have hrow : Row coming signalled config size e.endings.length service { e with ready := front ++ back } :=
    ⟨hbooks, hst.config, hst.size, Nat.le_refl _, htaking.few, .inl ⟨htaking, hbusy⟩⟩
  have hperformed := (Reports.perform hsound.ledger hbooks.aimed htaken hcue).trans (.one .sweep)
  obtain ⟨service', hrow'⟩ := hrow.reports hperformed
  exact ⟨service', hrow'.standing hs' hst hs hperformed.pings hmany⟩

/-- **The task of the round timer** begins a round. -/
theorem round (hst : Standing coming signalled config size service e) (hs : Sound {} e)
    (hrunning : e.stopped = false) (hready : e.ready = front ++ due :: back)
    (hround : due.rings? = some .round) (hfront : ∀ other ∈ front, other.refusal? = none)
    (hcount : config.count ≠ 0) (hsome : 0 < size) (hmany : size ≤ 32768)
    (hs' : Sound {} (Engine.perform { e with ready := front ++ back } due).sweep) :
    ∃ service', Standing coming signalled config size service'
      (Engine.perform { e with ready := front ++ back } due).sweep := by
  have hlength := hst.books.length_pings hs
  have hpast : e.endings.length ≤ e.pings.length := by omega
  rw [Engine.perform_of_rings hround] at hs' ⊢
  have hdue := (hst.underway hrunning).1.due hready hround hfront
  exact (hst.books_of_taken _).standing_of_startRound hdue hst.config hst.size hpast hcount hsome hmany
    .sweep hs'

/-- A task that begins no round is taken up. -/
theorem taken (hst : Standing coming signalled config size service e) (hrunning : e.stopped = false)
    (hready : e.ready = front ++ due :: back) (hround : due.rings? ≠ some .round) :
    Standing coming signalled config size service { e with ready := front ++ back } := by
  obtain ⟨hu, hbusy⟩ := hst.underway hrunning
  have htaking := hu.consume hready hround
  exact ⟨hst.books_of_taken _, hst.config, hst.size, htaking.few, .inl ⟨htaking, hbusy⟩⟩

/-- When the service is stopped because of a signal its books are kept. -/
theorem halted (hst : Standing coming signalled config size service e) (h : Halts service e e')
    (hsignal : signalled) :
    Standing coming signalled config size { service with stopped := true } e' where
  books := hst.books.halts h
  config := hst.config
  size := hst.size
  few := by rw [h.refusals]; exact hst.few
  state := .inr ⟨h.stopped, .inl hsignal⟩

/-- **The task of a signal** stops the service. -/
theorem signal (hst : Standing coming signalled config size service e) (hrunning : e.stopped = false)
    (hready : e.ready = front ++ due :: back) (hcue : due.isCue) (hround : due.rings? ≠ some .round) :
    ∃ service', Standing coming signalled config size service'
      (Engine.perform { e with ready := front ++ back } due).sweep := by
  have hsignal : signalled :=
    ((hst.underway hrunning).1.cues due (by rw [hready]; simp) hcue).resolve_left hround
  have htaken := hst.taken hrunning hready hround
  cases due with
  | rang alarm code =>
    cases alarm with
    | round =>
      have hcode : code ≠ .aborted := by simpa [Task.isCue] using hcue
      exact absurd (if_neg hcode) hround
    | _ => cases hcue
  | signalled code number =>
    have hok : ¬ code.isError := by simpa [Task.isCue] using hcue
    have hlogged := htaken.unbooked (.of_inward (.logDated .warn ("got signal: " ++ toString number)))
    simp only [Engine.perform, Engine.signalled, if_neg hok]
    exact ⟨_, (hlogged.halted (Engine.halts_stopService hlogged.books.serves) hsignal).unbooked .sweep⟩
  | _ => cases hcue

/-- **Whatever task is performed**, the books are kept. -/
theorem perform (hst : Standing coming signalled config size service e) (hs : Sound {} e)
    (hrunning : e.stopped = false) (hready : e.ready = front ++ due :: back)
    (hfront : due.rings? = some .round → ∀ other ∈ front, other.refusal? = none)
    (hcount : config.count ≠ 0) (hsome : 0 < size) (hmany : size ≤ 32768)
    (hs' : Sound {} (Engine.perform { e with ready := front ++ back } due).sweep) :
    ∃ service', Standing coming signalled config size service'
      (Engine.perform { e with ready := front ++ back } due).sweep := by
  by_cases hround : due.rings? = some .round
  · exact hst.round hs hrunning hready hround (hfront hround) hcount hsome hmany hs'
  · cases hcue : due.isCue with
    | false => exact hst.row hs hrunning hready hcue hmany hs'
    | true => exact hst.signal hrunning hready hcue hround

/-! ## 4. The timeline -/

variable {before after : List (Time × Happening)} {time : Time} {item : Happening}

/-- An item that begins no round is taken off the timeline. -/
theorem unbooked_taken (htimeline : e.timeline = before ++ (time, item) :: after)
    (hcue : item.isCue = false) : Unbooked e { e with timeline := before ++ after } :=
  { Unbooked.refl e with timeline := by simp [htimeline, hcue] }

/-- What neither begins a round nor is a signal makes chores. -/
theorem chores_happen (hs : Sound {} e) (htimeline : e.timeline = before ++ (time, item) :: after)
    (hcue : item.isCue = false) (hsignal : ∀ number, item ≠ .signal number) :
    Chores { e with timeline := before ++ after }
      (Engine.happen { e with timeline := before ++ after } item) := by
  cases item with
  | ring alarm =>
    refine .post ?_ rfl
    cases alarm with
    | round => cases hcue
    | _ => rfl
  | ready task =>
    have hcore := hs.wired.later time task (by rw [htimeline]; simp)
    refine .post hcue ?_
    cases task with
    | noPing => cases hcore
    | _ => rfl
  | deliver source data => exact .inward (.deliver _ _)
  | signal number => exact absurd rfl (hsignal number)

/-- The round timer rings; the task that begins the round waits behind all others. -/
theorem ring (hst : Standing coming signalled config size service e) (hrunning : e.stopped = false)
    (htimeline : e.timeline = before ++ (time, .ring .round) :: after) :
    Standing coming signalled config size service
      (Engine.happen { e with timeline := before ++ after } (.ring .round)) := by
  obtain ⟨hu, hbusy⟩ := hst.underway hrunning
  let next := Engine.happen { e with timeline := before ++ after } (.ring .round)
  have hready : next.ready = e.ready ++ [.rang .round .success] := rfl
  have hrefusals : next.refusals = e.refusals := by simp [Engine.refusals, hready, Task.refusal?]
  have harmed : next.armed .round = e.armed .round := by
    have htimeline' : next.timeline = before ++ after := rfl
    have hrings : Task.rings? (.rang .round .success) = some .round := rfl
    simp only [Engine.armed, hready, htimeline, htimeline', List.countP_append, List.countP_cons,
      List.countP_nil, hrings, decide_true, if_true]
    omega
  refine ⟨hst.books.transfer hst.books.serves rfl rfl rfl rfl fun _ pinger hp => ⟨pinger, hp, rfl⟩,
    hst.config, hst.size, by rw [hrefusals]; exact hst.few, .inl ⟨{
      running := hu.running
      going := hu.going
      rounds := harmed.trans hu.rounds
      lined := hu.lined.append rfl hready
      few := by rw [hrefusals]; exact hu.few
      planned := fun entry hmem => hu.planned entry ((sublist_of_taken htimeline).subset hmem)
      cues := fun task hmem hcue => by
        rw [hready] at hmem
        rcases List.mem_append.1 hmem with hmem | hnew
        · exact hu.cues task hmem hcue
        · exact .inl (congrArg Task.rings? (List.mem_singleton.1 hnew)) }, hbusy⟩⟩

/-- A signal is taken off the timeline. -/
theorem signal_taken (hst : Standing coming signalled config size service e)
    (hrunning : e.stopped = false) {number : Int}
    (htimeline : e.timeline = before ++ (time, .signal number) :: after) :
    Standing coming signalled config size service { e with timeline := before ++ after } := by
  obtain ⟨hu, hbusy⟩ := hst.underway hrunning
  have harmed : Engine.armed { e with timeline := before ++ after } .round = e.armed .round := by
    simp [Engine.armed, htimeline, List.countP_append]
  exact ⟨hst.books.transfer hst.books.serves rfl rfl rfl rfl fun _ pinger hp => ⟨pinger, hp, rfl⟩,
    hst.config, hst.size, hst.few, .inl ⟨{
      running := hu.running
      going := hu.going
      rounds := harmed.trans hu.rounds
      lined := hu.lined
      few := hu.few
      planned := fun entry hmem => hu.planned entry ((sublist_of_taken htimeline).subset hmem)
      cues := hu.cues }, hbusy⟩⟩

/-- **A signal comes in.** -/
theorem signal_comes (hst : Standing coming signalled config size service e)
    (hrunning : e.stopped = false) {number : Int}
    (htimeline : e.timeline = before ++ (time, .signal number) :: after) (hsignal : signalled) :
    Standing coming signalled config size service
      (Engine.happen { e with timeline := before ++ after } (.signal number)) := by
  have htaken := hst.signal_taken hrunning htimeline
  unfold Engine.happen
  dsimp only
  split
  · obtain ⟨hu, hbusy⟩ := htaken.underway hrunning
    let next := Engine.post { e with timeline := before ++ after, awaitsSignal := false }
      (.signalled .success number)
    have hready : next.ready = e.ready ++ [.signalled .success number] := rfl
    have hrings : next.ready.countP (fun task => task.rings? = some .round)
        = e.ready.countP fun task => task.rings? = some .round := by
      simp [hready, Task.rings?]
    have hrefusals : next.refusals = Engine.refusals { e with timeline := before ++ after } := by
      simp [Engine.refusals, hready, Task.refusal?]
    have hbooks : Books 0 service next :=
      htaken.books.transfer htaken.books.serves rfl rfl rfl rfl fun _ pinger hp => ⟨pinger, hp, rfl⟩
    exact ⟨hbooks, hst.config, hst.size, by rw [hrefusals]; exact htaken.few, .inl ⟨{
      running := hu.running
      going := hu.going
      rounds := by rw [← hu.rounds, Engine.armed, hrings]; rfl
      lined := hu.lined.append rfl hready
      few := by rw [hrefusals]; exact hu.few
      planned := hu.planned
      cues := fun _ _ _ => .inr hsignal }, hbusy⟩⟩
  · exact htaken

/-- **Whatever item happens**, the books are kept; and a signal comes only if there are any. -/
theorem happen (hst : Standing coming signalled config size service e) (hs : Sound {} e)
    (hrunning : e.stopped = false) (htimeline : e.timeline = before ++ (time, item) :: after)
    (hsignal : ∀ number, item = .signal number → signalled) :
    Standing coming signalled config size service
        (Engine.happen { e with timeline := before ++ after } item) ∧
      ∀ number, item = .signal number → coming := by
  have hmem : (time, item) ∈ e.timeline := by rw [htimeline]; simp
  cases hcue : item.isCue with
  | true =>
    rcases (hst.underway hrunning).1.planned _ hmem hcue with hring | ⟨⟨number, hnumber⟩, hcoming⟩
    · obtain rfl : item = .ring .round := hring
      exact ⟨hst.ring hrunning htimeline, fun _ h => nomatch h⟩
    · obtain rfl : item = .signal number := hnumber
      exact ⟨hst.signal_comes hrunning htimeline (hsignal number rfl), fun _ _ => hcoming⟩
  | false =>
    have hno : ∀ number, item ≠ .signal number := by
      rintro number rfl
      cases hcue
    have hhappened := (unbooked_taken htimeline hcue).trans
      (.of_chores (chores_happen hs htimeline hcue hno))
    exact ⟨hst.unbooked hhappened,
      fun number heq => absurd heq (hno number)⟩

end Standing

/-! ## 5. The end of a run -/

theorem Engine.step?_of_stopped (hstopped : e.stopped = true) (deadline : Option Time) :
    e.step? deadline = none := by
  unfold step?
  rw [if_pos hstopped]

/-- **A run ends only because the service has stopped.**  While it goes on, a round is due or a ping
is pending, and either has a timer. -/
theorem Standing.stopped_of_done
    (hst : Standing coming signalled config size service e) (hs : Sound {} e)
    (hmany : size ≤ 32768) (hdone : e.step? none = none) : e.stopped = true := by
  by_contra hrunning
  have hrunning : e.stopped = false := by simpa using hrunning
  obtain ⟨hu, hbusy⟩ := hst.underway hrunning
  have hempty : e.ready = [] ∧ e.timeline = [] := by
    unfold Engine.step? at hdone
    rw [if_neg (by simp [hrunning])] at hdone
    split at hdone
    · cases hdone
    · simp [Engine.allows] at hdone
    · next hready htimeline => exact ⟨hready, htimeline⟩
  obtain ⟨hready, htimeline⟩ := hempty
  have hbegun : service.roundsBegun := by
    have hrounds := hu.rounds
    by_contra hmore
    rw [if_neg hmore, Engine.armed, hready, htimeline] at hrounds
    cases hrounds
  have hpending : e.pending = [] := by
    refine List.eq_nil_iff_forall_not_mem.2 fun ping hmem => ?_
    obtain ⟨hasked, htold⟩ := Engine.mem_pending.1 hmem
    obtain ⟨-, -, -, -, htimer⟩ :=
      hs.waits_for_timer hready (hst.books.ping?_eq_some.2 ⟨hasked, rfl⟩) htold
    rw [htimeline] at htimer
    cases htimer
  have hout := hst.outstanding_eq hs hmany
  rw [hpending, List.length_nil] at hout
  exact hbusy hbegun (UInt32.toNat_inj.1 hout)

namespace Session

/-! ## 6. Runs -/

/-- What is done while the service runs.  Nothing runs once the engine is stopped. -/
def Serves (s : Session) : Deed → Prop
  | .task _ => s.engine.stopped = false
  | .item _ => s.engine.stopped = false
  | .clock _ => True
  | .network _ => True
  | .step (.deliver _ _ _ _) => True
  | .step (.failReceives _ _ _) => True
  | _ => False

/-- The service runs, and nobody else does anything. -/
def Serving (past : List (Session × Deed)) : Prop := ∀ entry ∈ past, entry.1.Serves entry.2

/-- A round does not begin before those are told who were refused and wait in front of its task. -/
def Deed.InQueue (s : Session) : Deed → Prop
  | .task due => due.rings? = some .round →
      ∀ other ∈ s.engine.ready.takeWhile (· ≠ due), other.refusal? = none
  | _ => True

/-- **Tasks wait in a queue**, as far as rounds and refusals are concerned. -/
def Queued (past : List (Session × Deed)) : Prop := ∀ entry ∈ past, entry.2.InQueue entry.1

/-- A signal comes in. -/
def Signalled (past : List (Session × Deed)) : Prop :=
  ∃ s number, (s, .item (.signal number)) ∈ past

variable {s s' : Session} {deed : Deed} {past : List (Session × Deed)}

/-- What comes in from outside while the service runs makes chores. -/
theorem chores_perform (s : Session) (step : Step) (hserves : s.Serves (.step step)) :
    Chores s.engine (s.perform step).1.engine := by
  cases step with
  | deliver source data count time =>
    cases time with
    | none => exact .foldl (fun _ _ => .inward (.deliver _ _)) _ _
    | some time => exact .foldl (fun _ _ => .one (.deliver _ _ _ _)) _ _
  | failReceives family errno only => exact .inward (.failReceives _ _ _)
  | _ => exact hserves.elim

/-- There is one task that begins a round, so what waits in front of it is told by the queue. -/
theorem Deed.InQueue.front {front back : List Task} {due : Task}
    (hqueue : Deed.InQueue s (.task due)) (hready : s.engine.ready = front ++ due :: back)
    (honce : s.engine.armed .round ≤ 1) (hround : due.rings? = some .round) :
    ∀ other ∈ front, other.refusal? = none := by
  have hothers : ∀ other ∈ front, other ≠ due := by
    rintro other hmem rfl
    have hpos : 0 < front.countP fun task => task.rings? = some .round :=
      List.countP_pos_iff.2 ⟨other, hmem, decide_eq_true hround⟩
    simp only [Engine.armed, hready, List.countP_append, List.countP_cons, hround, decide_true,
      if_true] at honce
    omega
  have hwaits : s.engine.ready.takeWhile (· ≠ due) = front := by
    rw [hready, List.takeWhile_append_of_pos fun other hmem => decide_eq_true (hothers other hmem)]
    simp
  exact hwaits ▸ hqueue hround

/-- **Whatever happens while the service runs**, the books are kept. -/
theorem Does.standing (h : Does s deed s') (hs : s.Sound) (hserves : s.Serves deed)
    (hqueue : deed.InQueue s)
    (hst : Standing coming signalled config size service s.engine)
    (hsignal : ∀ number, deed = .item (.signal number) → signalled) (hcount : config.count ≠ 0)
    (hsome : 0 < size) (hmany : size ≤ 32768) :
    (∃ service', Standing coming signalled config size service' s'.engine) ∧
      ∀ number, deed = .item (.signal number) → coming := by
  have hs' := (h.leads hs).sound.engine
  cases h with
  | step step hrun =>
    exact ⟨⟨_, hst.unbooked (.of_chores (chores_perform s step hserves))⟩, fun _ h => nomatch h⟩
  | task hready =>
    have honce : s.engine.armed .round ≤ 1 := by
      rw [(hst.underway hserves).1.rounds]
      split <;> omega
    exact ⟨hst.perform hs.engine hserves hready (hqueue.front hready honce) hcount hsome hmany hs',
      fun _ h => nomatch h⟩
  | item htimeline =>
    obtain ⟨hhappened, hcoming⟩ := hst.happen hs.engine hserves htimeline
      fun number heq => hsignal number (congrArg Deed.item heq)
    exact ⟨⟨_, hhappened.unbooked .sweep⟩, fun number heq => hcoming number (Deed.item.inj heq)⟩
  | clock now => exact ⟨⟨_, hst.unbooked { Unbooked.refl s.engine with }⟩, fun _ h => nomatch h⟩
  | network network =>
    exact ⟨⟨_, hst.unbooked { Unbooked.refl s.engine with }⟩, fun _ h => nomatch h⟩
  | openService config => exact hserves.elim
  | startService => exact hserves.elim
  | endService => exact hserves.elim

/-- **Along a run of the service** the books are kept. -/
theorem Run.standing (h : Run s past s') (hs : s.Sound) (hserving : Serving past)
    (hqueued : Queued past)
    (hst : ∃ service, Standing coming signalled config size service s.engine)
    (hsignal : Signalled past → signalled) (hcount : config.count ≠ 0) (hsome : 0 < size)
    (hmany : size ≤ 32768) :
    (∃ service', Standing coming signalled config size service' s'.engine) ∧
      (Signalled past → coming) := by
  induction h with
  | nil => exact ⟨hst, fun ⟨_, _, hmem⟩ => nomatch hmem⟩
  | @cons s next s' deed past head rest ih =>
    obtain ⟨service, hst⟩ := hst
    obtain ⟨hnext, hfirst⟩ := head.standing hs (hserving _ List.mem_cons_self)
      (hqueued _ List.mem_cons_self) hst
      (fun number heq => hsignal ⟨s, number, heq ▸ List.mem_cons_self⟩) hcount hsome hmany
    obtain ⟨hlast, hrest⟩ := ih (head.leads hs).sound
      (fun entry hentry => hserving entry (List.mem_cons_of_mem _ hentry))
      (fun entry hentry => hqueued entry (List.mem_cons_of_mem _ hentry)) hnext
      fun ⟨other, number, hmem⟩ => hsignal ⟨other, number, List.mem_cons_of_mem _ hmem⟩
    refine ⟨hlast, fun ⟨other, number, hmem⟩ => ?_⟩
    rcases List.mem_cons.1 hmem with heq | hmem
    · exact hfirst number (Prod.mk.inj heq).2.symm
    · exact hrest ⟨other, number, hmem⟩

/-- **When the engine is stopped nothing that the books are about happens any more.** -/
theorem Run.unbooked (h : Run s past s') (hserving : Serving past)
    (hstopped : s.engine.stopped = true) : Unbooked s.engine s'.engine := by
  induction h with
  | nil => exact .refl _
  | @cons s next s' deed past head rest ih =>
    have hserves := hserving _ List.mem_cons_self
    have hnext : Unbooked s.engine next.engine := by
      cases head with
      | step step hrun => exact .of_chores (chores_perform s step hserves)
      | task hready => exact absurd (hstopped.symm.trans hserves) (by simp)
      | item htimeline => exact absurd (hstopped.symm.trans hserves) (by simp)
      | clock now => exact { Unbooked.refl s.engine with }
      | network network => exact { Unbooked.refl s.engine with }
      | openService config => exact hserves.elim
      | startService => exact hserves.elim
      | endService => exact hserves.elim
    exact hnext.trans (ih (fun entry hentry => hserving entry (List.mem_cons_of_mem _ hentry))
      (hnext.stopped.trans hstopped))

/-! ## 7. The engine by itself -/

theorem Own.serves (h : s.Own deed) : s.Serves deed := by
  cases deed with
  | task task => exact h.1
  | item item => exact h.1
  | clock now => trivial
  | _ => exact h.elim

/-- The engine takes up the first task of the queue. -/
theorem Own.inQueue (h : s.Own deed) : deed.InQueue s := by
  cases deed with
  | task task =>
    obtain ⟨-, rest, hready⟩ := h
    intro _ other hmem
    rw [hready] at hmem
    simp at hmem
  | _ => trivial

/-- **The steps that an engine takes by itself are a run of the service**, with its tasks in a
queue. -/
theorem serving_of_steps (deadline : Option Time) (fuel : Nat) (s : Session) :
    ∃ past, Run s past { s with engine := s.engine.steps deadline fuel } ∧ Serving past ∧
      Queued past := by
  obtain ⟨past, hpast, hown⟩ := run_of_steps deadline fuel s
  exact ⟨past, hpast, fun entry hentry => Own.serves (hown entry hentry),
    fun entry hentry => Own.inQueue (hown entry hentry)⟩

end Session

end IcmpEcho
