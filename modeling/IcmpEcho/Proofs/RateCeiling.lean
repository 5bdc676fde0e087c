/-
# The rate ceiling of a limiter

However senders arrive, are given up and are woken, the times at which they are let go keep to a
rate: **`k` senders in a row take at least the time of `k - burst` of them**
(`Watch.Run.rate_ceiling`).  The arithmetic is read exactly here.

The argument is a potential.  Let `N` be the burst and `W` its wait, so that `N` senders pay for
`W` nanoseconds.  What a meter owes is enough to account for every window that ends at its last
shot:

    (senders let go since the `i`-th) * W  ≤  owed * W + (last - time of the `i`-th) * N

A shot that goes adds one to both sides, and what time paid back in between it adds to the second
term (`Meter.paid_back_le`).  The end of a sleep forgets a whole burst, but not before `W` has
passed.  Since a meter never owes more than the burst, no window passes the ceiling.  Dropped
fractions, skipped short waits and given-up sleeps only ever make the right-hand side greater.
-/
import Mathlib.Algebra.Order.Field.Basic
import Mathlib.Data.Rat.Cast.Order
import Mathlib.Tactic.FieldSimp
import Mathlib.Tactic.Linarith
import IcmpEcho.Proofs.Metering
import IcmpEcho.Proofs.Watch

namespace IcmpEcho.Rate

variable {α : Type} {burst wait : Nat}

/-! ## 1. The potential of a meter -/

namespace Meter

/-- The shots that went at these times keep to the rate, and the meter accounts for them. -/
structure Paced (burst wait : Nat) (times : List Time) (meter : Meter) : Prop where
  rate : meter.limit * wait ≤ 10 ^ 9 * burst
  least : Burst id meter.limit meter.minWait burst
  sleeps : waitFor id meter.limit burst = wait
  owed_le : meter.owed ≤ burst
  fresh : meter.started = false → times = []
  /-- Every window that ends at the last shot is accounted for by what is owed. -/
  potential : ∀ i (h : i < times.length),
    ((times.length : Int) - i) * wait ≤ meter.owed * wait + (meter.last - times[i]) * burst
  /-- Every window keeps to the rate. -/
  ceiling : ∀ i j (hij : i ≤ j) (hj : j < times.length),
    ((j : Int) - i + 1) * wait ≤ burst * wait + (times[j] - times[i]) * burst

namespace Paced

variable {times : List Time} {meter : Meter}

/-- A shot goes at `now` and leaves `owed` to pay: the potential carries over if the difference is
paid for by the time that passed. -/
theorem snoc (h : meter.Paced burst wait times) (now : Time) {owed : Nat} (hone : 1 ≤ owed)
    (howed : owed ≤ burst)
    (hpaid : times ≠ [] →
      ((meter.owed : Int) + 1 - owed) * wait ≤ (now - meter.last) * burst) :
    Paced burst wait (times ++ [now]) { meter with started := true, last := now, owed } := by
  have hpotential : ∀ i (hi : i < (times ++ [now]).length),
      (((times ++ [now]).length : Int) - i) * wait
        ≤ owed * wait + (now - (times ++ [now])[i]) * burst := by
    intro i hi
    rw [List.length_append, List.length_singleton]
    rcases Nat.lt_or_ge i times.length with hold | hnew
    · have hbefore := h.potential i hold
      have hpaid := hpaid (List.ne_nil_of_length_pos (by omega))
      rw [List.getElem_append_left hold]
      push_cast
      calc ((times.length : Int) + 1 - i) * wait
          = ((times.length : Int) - i) * wait + wait := by ring
        _ ≤ meter.owed * wait + (meter.last - times[i]) * burst + wait := by linarith
        _ = ((meter.owed : Int) + 1 - owed) * wait + (meter.last - times[i]) * burst
              + owed * wait := by ring
        _ ≤ (now - meter.last) * burst + (meter.last - times[i]) * burst + owed * wait := by
          linarith
        _ = owed * wait + (now - times[i]) * burst := by ring
    · -- The window of the new shot alone.
      have hlast : i = times.length := by
        rw [List.length_append, List.length_singleton] at hi
        omega
      subst hlast
      rw [List.getElem_concat_length rfl]
      push_cast
      have hwait : (wait : Int) ≤ owed * wait := le_mul_of_one_le_left (by positivity)
        (by exact_mod_cast hone)
      calc ((times.length : Int) + 1 - times.length) * wait = wait := by ring
        _ ≤ owed * wait := hwait
        _ = owed * wait + (now - now) * burst := by ring
  refine
    { rate := h.rate, least := h.least, sleeps := h.sleeps, owed_le := howed, fresh := ?_,
      potential := hpotential, ceiling := ?_ }
  · intro hfalse
    cases hfalse
  · intro i j hij hj
    rcases Nat.lt_or_ge j times.length with hold | hnew
    · rw [List.getElem_append_left hold, List.getElem_append_left (by omega)]
      exact h.ceiling i j hij hold
    · -- A window that ends at the new shot: what is owed is at most the burst.
      have hlast : j = times.length := by
        rw [List.length_append, List.length_singleton] at hj
        omega
      subst hlast
      have hlength : ((times ++ [now]).length : Int) = times.length + 1 := by simp
      have hwindow := hpotential i (by omega)
      have hcap : (owed : Int) * wait ≤ burst * wait := by gcongr
      rw [hlength] at hwindow
      rw [List.getElem_concat_length rfl]
      linarith

/-- **One shot.**  It goes, and the windows that end with it are accounted for; or the burst is
owed, and it has to sleep with the meter unchanged. -/
theorem shot (h : meter.Paced burst wait times) {now : Time}
    (hnow : meter.started → meter.last ≤ now) :
    (meter.shot id now).2 = 0 ∧ (meter.shot id now).1.started ∧
        (meter.shot id now).1.last = now ∧
        (meter.shot id now).1.Paced burst wait (times ++ [now]) ∨
      meter.shot id now = (meter, (wait : Time)) ∧ meter.started ∧ meter.owed = burst := by
  rcases shot_cases h.least h.owed_le now with
    ⟨hstarted, hshot⟩ | ⟨hstarted, hleft, hshot⟩ | ⟨hstarted, hfull, hshot⟩
  · left
    rw [hshot]
    refine ⟨rfl, rfl, rfl, h.snoc now le_rfl h.least.1.1 ?_⟩
    intro hsome
    exact absurd (h.fresh hstarted) hsome
  · left
    have hpaid := paid_back_le (hnow hstarted) h.rate
    have hgo : Paced burst wait (times ++ [now])
        { meter with started := true, last := now, owed := meter.left id now + 1 } := by
      refine h.snoc now (by omega) (by omega) ?_
      intro _
      calc ((meter.owed : Int) + 1 - (meter.left id now + 1 : Nat)) * wait
          = ((meter.owed : Int) - meter.left id now) * wait := by push_cast; ring
        _ ≤ (now - meter.last) * burst := hpaid
    rw [hshot]
    rw [← hstarted] at hgo
    exact ⟨rfl, hstarted, rfl, hgo⟩
  · right
    refine ⟨?_, hstarted, hfull⟩
    rw [hshot, h.sleeps]

/-- **The end of a sleep.**  The burst is forgotten, but its wait has passed. -/
theorem finishWait (h : meter.Paced burst wait times) (hstarted : meter.started)
    (hfull : meter.owed = burst) {now : Time} (hslept : meter.last + wait ≤ now) :
    (meter.finishWait now).Paced burst wait (times ++ [now]) := by
  have hpaid : ((meter.owed : Int) + 1 - (1 : Nat)) * wait ≤ (now - meter.last) * burst := by
    have hwait : (wait : Int) ≤ now - meter.last := by linarith
    calc ((meter.owed : Int) + 1 - (1 : Nat)) * wait
        = wait * burst := by rw [hfull]; push_cast; ring
      _ ≤ (now - meter.last) * burst := by gcongr
  have hfinish := h.snoc now le_rfl h.least.1.1 (fun _ => hpaid)
  rw [← hstarted] at hfinish
  exact hfinish

end Paced

end Meter

/-! ## 2. What a watch keeps -/

namespace Watch

/-- The sleep that a move begins: when, and how long it is to last. -/
def begins (round : Number.Rounding) (watch : Watch α) : Move α → Option (Time × Time)
  | .acquire sender =>
    match (watch.limiter.acquire round watch.now sender).2 with
    | .sleep wait => some (watch.now, wait)
    | .go => none
    | .queue => none
  | .wake clock =>
    let rousing := watch.limiter.wakeAlong round watch.now clock
    rousing.wait.map (rousing.now, ·)
  | .cancel => none
  | .pass _ => none
  | .ring => none

/-- No wake comes after the begin of a sleep that was to last longer than the clock: whoever was
woken has slept as long as it should. -/
def SleptOut (round : Number.Rounding) (past : List (Watch α × Move α)) : Prop :=
  past.Pairwise fun entry later =>
    ∀ start wait, entry.1.begins round entry.2 = some (start, wait) →
      ∀ clock, later.2 = .wake clock → start + wait ≤ endOfTime

/-- A sleep of this length was begun at `start`. -/
def Begun (wait : Nat) (past : List (Watch α × Move α)) (start : Time) : Prop :=
  ∃ entry ∈ past, entry.1.begins id entry.2 = some (start, (wait : Time))

/-- The senders that went at these times keep to the rate; whoever sleeps owes a whole burst, and
its sleep was begun no earlier than the last one went. -/
structure Paced (burst wait : Nat) (past : List (Watch α × Move α)) (times : List Time)
    (watch : Watch α) : Prop where
  meter : watch.limiter.meter.Paced burst wait times
  last_le : watch.limiter.meter.started → watch.limiter.meter.last ≤ watch.now
  idle : watch.limiter.sleeper = none →
    watch.limiter.waiting = [] ∧ watch.alarm = none ∧ watch.rung = 0
  asleep : watch.limiter.sleeper.isSome →
    watch.limiter.meter.started ∧ watch.limiter.meter.owed = burst ∧
      ∃ start, Begun wait past start ∧ watch.limiter.meter.last ≤ start ∧
        (watch.alarm = some (timerEnd start wait) ∧ watch.rung = 0 ∨
          watch.alarm = none ∧ watch.rung = 1 ∧ timerEnd start wait ≤ watch.now)

variable {past : List (Watch α × Move α)} {times : List Time} {watch : Watch α}

/-- More may have happened before. -/
theorem Paced.extend (h : watch.Paced burst wait past times) (more : List (Watch α × Move α)) :
    watch.Paced burst wait (past ++ more) times := by
  refine { h with asleep := fun hsome => ?_ }
  obtain ⟨hstarted, hfull, start, ⟨entry, hentry, hbegins⟩, hrest⟩ := h.asleep hsome
  exact ⟨hstarted, hfull, start, ⟨entry, List.mem_append_left _ hentry, hbegins⟩, hrest⟩

/-- Nobody sleeps, so no wait is under way. -/
theorem Paced.of_idle {meter : Meter} {now : Time} (h : meter.Paced burst wait times)
    (hlast : meter.started → meter.last ≤ now) :
    Paced burst wait past times ({ limiter := { meter }, now } : Watch α) where
  meter := h
  last_le := hlast
  idle _ := ⟨rfl, rfl, rfl⟩
  asleep hsome := by cases hsome

/-- A sender goes to sleep. -/
theorem Paced.of_asleep {meter : Meter} {now : Time} {sleeper : α} {waiting : List α}
    (h : meter.Paced burst wait times) (hstarted : meter.started) (hfull : meter.owed = burst)
    (hlast : meter.last ≤ now) (hbegun : Begun wait past now) :
    Paced burst wait past times
      ({ limiter := { meter, sleeper := some sleeper, waiting }, now,
         alarm := some (timerEnd now wait) } : Watch α) where
  meter := h
  last_le _ := hlast
  idle hnone := by cases hnone
  asleep _ := ⟨hstarted, hfull, now, hbegun, hlast, .inl ⟨rfl, rfl⟩⟩

/-- The waiting senders are let go one after another, each by a shot of its own. -/
theorem Paced.drainAlong (hwait : 0 < wait) (senders : List α) :
    ∀ {times : List Time} {meter : Meter} {now : Time} {clock : Nat → Time},
      meter.Paced burst wait times → meter.started → meter.last ≤ now → now ≤ clock 0 →
      (∀ ⦃m n : Nat⦄, m ≤ n → clock m ≤ clock n) →
      ((Limiter.drainAlong id now clock meter senders).wait = some (wait : Time) →
        Begun wait past (Limiter.drainAlong id now clock meter senders).now) →
      (ofRousing (Limiter.drainAlong id now clock meter senders)).Paced burst wait past
        (times ++ (Limiter.drainAlong id now clock meter senders).gone.map Prod.fst) := by
  induction senders with
  | nil =>
    intro times meter now clock h hstarted hlast _ _ _
    have hidle : ({ limiter := { meter }, now } : Watch α).Paced burst wait past times :=
      .of_idle h fun _ => hlast
    simp only [Limiter.drainAlong, List.map_nil, List.append_nil]
    exact hidle
  | cons sender rest ih =>
    intro times meter now clock h hstarted hlast hclock hmono hbegun
    rcases h.shot (fun _ => hlast.trans hclock) with
      ⟨hgo, hstarted', hlast', hpaced⟩ | ⟨hshot, _, hfull⟩
    · have hnext : clock 0 ≤ clock 1 := hmono (by omega)
      simp only [Limiter.drainAlong, hgo, if_true] at hbegun
      have hrest := ih hpaced hstarted' hlast'.le hnext
        (fun _ _ hle => hmono (Nat.add_le_add_right hle 1)) hbegun
      simp only [Limiter.drainAlong, hgo, if_true, List.map_cons]
      rw [List.append_cons]
      exact hrest
    · have hne : (wait : Time) ≠ 0 := by exact_mod_cast hwait.ne'
      simp only [Limiter.drainAlong, hshot, hne, if_false] at hbegun
      simp only [Limiter.drainAlong, hshot, hne, if_false, List.map_nil, List.append_nil]
      exact .of_asleep h hstarted hfull (hlast.trans hclock) (hbegun trivial)

/-- What begins a sleep is in the past as soon as it is done. -/
theorem begun_of_begins {move : Move α} {start : Time}
    (h : watch.begins id move = some (start, (wait : Time))) :
    Begun wait (past ++ [(watch, move)]) start :=
  ⟨(watch, move), List.mem_append_right _ (List.mem_singleton_self _), h⟩

/-- A sender goes, goes to sleep, or waits behind a sleeper. -/
theorem Paced.acquire (h : watch.Paced burst wait past times) (hwait : 0 < wait) (sender : α) :
    (watch.turn id (.acquire sender)).1.Paced burst wait (past ++ [(watch, .acquire sender)])
      (times ++ (watch.turn id (.acquire sender)).2.map Prod.fst) := by
  cases hsleeper : watch.limiter.sleeper with
  | some sleeper =>
    have hsome : watch.limiter.sleeper.isSome = true := by rw [hsleeper]; rfl
    have hmore := h.extend [(watch, .acquire sender)]
    simp only [Watch.turn, Limiter.acquire, hsome, if_true, List.map_nil, List.append_nil]
    refine ⟨hmore.meter, hmore.last_le, ?_, hmore.asleep⟩
    intro hnone
    exact absurd hnone (by simp [hsleeper])
  | none =>
    obtain ⟨hwaiting, halarm, hrung⟩ := h.idle hsleeper
    rcases h.meter.shot h.last_le with ⟨hgo, hstarted, hlast, hpaced⟩ | ⟨hshot, hstarted, hfull⟩
    · simp only [Watch.turn, Limiter.acquire, hsleeper, Option.isSome_none, Bool.false_eq_true,
        if_false, hgo, if_true, List.map_cons, List.map_nil, hwaiting, halarm, hrung]
      exact .of_idle hpaced fun _ => hlast.le
    · have hne : (wait : Time) ≠ 0 := by exact_mod_cast hwait.ne'
      have hbegins : watch.begins id (.acquire sender) = some (watch.now, (wait : Time)) := by
        simp only [begins, Limiter.acquire, hsleeper, Option.isSome_none, Bool.false_eq_true,
          if_false, hshot, hne]
      simp only [Watch.turn, Limiter.acquire, hsleeper, Option.isSome_none, Bool.false_eq_true,
        if_false, hshot, hne, List.map_nil, List.append_nil, hwaiting, hrung]
      exact .of_asleep h.meter hstarted hfull (h.last_le hstarted) (begun_of_begins hbegins)

/-- The clock goes on. -/
theorem Paced.pass (h : watch.Paced burst wait past times) {now : Time} (hnow : watch.now ≤ now) :
    ({ watch with now } : Watch α).Paced burst wait past times := by
  refine ⟨h.meter, fun hstarted => (h.last_le hstarted).trans hnow, h.idle, fun hsome => ?_⟩
  obtain ⟨hstarted, hfull, start, hstart, hlast, hset | ⟨halarm, hrung, hdue⟩⟩ := h.asleep hsome
  · exact ⟨hstarted, hfull, start, hstart, hlast, .inl hset⟩
  · exact ⟨hstarted, hfull, start, hstart, hlast, .inr ⟨halarm, hrung, hdue.trans hnow⟩⟩

/-- The timer rings, at the end of the sleep for which it was set or at that of the clock. -/
theorem Paced.ring (h : watch.Paced burst wait past times) {expiry : Time}
    (halarm : watch.alarm = some expiry) (hdue : expiry ≤ watch.now) :
    ({ watch with alarm := none, rung := watch.rung + 1 } : Watch α).Paced burst wait past times := by
  refine ⟨h.meter, h.last_le, fun hnone => ?_, fun hsome => ?_⟩
  · obtain ⟨-, hno, -⟩ := h.idle hnone
    exact absurd (hno.symm.trans halarm) (by simp)
  · obtain ⟨hstarted, hfull, start, hstart, hlast, ⟨hset, hrung⟩ | ⟨hno, -⟩⟩ := h.asleep hsome
    · have hsame : timerEnd start wait = expiry := Option.some.inj (hset.symm.trans halarm)
      exact ⟨hstarted, hfull, start, hstart, hlast, .inr ⟨rfl, by rw [hrung], hsame.trans_le hdue⟩⟩
    · exact absurd (hno.symm.trans halarm) (by simp)

/-- **A wake keeps the pace**, if the sleep that it ends has lasted as long as it was to. -/
theorem Paced.wake (h : watch.Paced burst wait past times) (hwait : 0 < wait) {clock : Nat → Time}
    (hallowed : watch.Allows (.wake clock))
    (hslept : watch.now < endOfTime ∨ ∀ start, Begun wait past start → start + wait ≤ endOfTime) :
    (watch.turn id (.wake clock)).1.Paced burst wait (past ++ [(watch, .wake clock)])
      (times ++ (watch.turn id (.wake clock)).2.map Prod.fst) := by
  obtain ⟨hposted, hclock, hmono⟩ := hallowed
  cases hsleeper : watch.limiter.sleeper with
  | none =>
    obtain ⟨-, -, hrung⟩ := h.idle hsleeper
    omega
  | some sleeper =>
    obtain ⟨hstarted, hfull, start, hstart, hlast, ⟨-, hrung⟩ | ⟨halarm, hrung, hdue⟩⟩ :=
      h.asleep (by rw [hsleeper]; rfl)
    · omega
    · have hwhole : timerEnd start wait = start + wait := by
        rcases hslept with hearly | hroom
        · exact timerEnd_of_lt (hdue.trans_lt hearly)
        · exact timerEnd_of_le (hroom start hstart)
      have hpassed : watch.limiter.meter.last + wait ≤ watch.now := by
        rw [hwhole] at hdue
        linarith
      have hfinish := h.meter.finishWait hstarted hfull hpassed
      have hrest := Paced.drainAlong hwait watch.limiter.waiting hfinish hstarted
        (le_refl watch.now) hclock hmono fun hsleeps => @begun_of_begins _ _ past watch (.wake clock) _
          (by simp only [begins, Limiter.wakeAlong, hsleeper, hsleeps, Option.map_some])
      simp only [Watch.turn, Limiter.wakeAlong, hsleeper, halarm, hrung, List.map_cons]
      rw [List.append_cons]
      simpa [ofRousing, Rousing.alarm] using hrest

/-- **One move keeps the pace**, unless it gives up a sleep whose wake is on its way, or ends one
that was to last longer than the clock. -/
theorem Paced.turn (h : watch.Paced burst wait past times) (hwait : 0 < wait) {move : Move α}
    (hallowed : watch.Allows move) (hcancel : move = .cancel → watch.rung = 0)
    (hslept : ∀ clock, move = .wake clock →
      watch.now < endOfTime ∨ ∀ start, Begun wait past start → start + wait ≤ endOfTime) :
    (watch.turn id move).1.Paced burst wait (past ++ [(watch, move)])
      (times ++ (watch.turn id move).2.map Prod.fst) := by
  cases move with
  | acquire sender => exact h.acquire hwait sender
  | cancel =>
    have hrung : watch.rung = 0 := hcancel rfl
    simp only [Watch.turn, Limiter.cancel, List.map_nil, List.append_nil, hrung]
    exact .of_idle h.meter h.last_le
  | pass now =>
    simp only [Watch.turn, List.map_nil, List.append_nil]
    exact (h.extend _).pass hallowed
  | ring =>
    obtain ⟨expiry, halarm, hdue⟩ := hallowed
    simp only [Watch.turn, List.map_nil, List.append_nil]
    exact (h.extend _).ring halarm hdue
  | wake clock => exact h.wake hwait hallowed (hslept clock rfl)

/-- **A run keeps the pace** to its end, or to a wake that comes when the clock has ended and that
ends a sleep which was to last longer. -/
theorem Run.paced {watch' : Watch α} {more : List (Watch α × Move α)}
    (hrun : Run id watch more watch') (hwait : 0 < wait)
    (hcancel : ∀ entry ∈ more, entry.2 = .cancel → entry.1.rung = 0) :
    ∀ {past : List (Watch α × Move α)} {times : List Time}, watch.Paced burst wait past times →
      ∃ before after, more = before ++ after ∧
        (∃ mid : Watch α, mid.Paced burst wait (past ++ before)
          (times ++ (gone id before).map Prod.fst)) ∧
        (after ≠ [] →
          (∀ entry ∈ gone id after, endOfTime ≤ entry.1) ∧ ¬ SleptOut id (past ++ more)) := by
  induction hrun with
  | nil watch =>
    intro past times h
    refine ⟨[], [], rfl, ⟨watch, ?_⟩, fun hne => absurd rfl hne⟩
    simpa only [gone, List.flatMap_nil, List.map_nil, List.append_nil] using h
  | @cons watch watch' move more allowed rest ih =>
    intro past times h
    by_cases hslept : ∀ clock, move = .wake clock →
        watch.now < endOfTime ∨ ∀ start, Begun wait past start → start + wait ≤ endOfTime
    · have hturn := h.turn hwait allowed (hcancel _ (List.mem_cons_self ..)) hslept
      obtain ⟨before, after, rfl, ⟨mid, hmid⟩, hlate⟩ :=
        ih (fun entry hentry => hcancel entry (List.mem_cons_of_mem _ hentry)) hturn
      refine ⟨(watch, move) :: before, after, rfl, ⟨mid, ?_⟩, ?_⟩
      · rw [gone_cons, List.map_append, ← List.append_assoc, List.append_cons]
        exact hmid
      · rwa [List.append_assoc] at hlate
    · push Not at hslept
      obtain ⟨clock, rfl, hend, start, ⟨entry, hentry, hbegins⟩, hover⟩ := hslept
      refine ⟨[], _, rfl, ⟨watch, ?_⟩, fun _ => ⟨?_, fun hall => ?_⟩⟩
      · simpa only [gone, List.flatMap_nil, List.map_nil, List.append_nil] using h
      · intro granted hgranted
        exact hend.trans ((Run.cons allowed rest).le_gone granted hgranted)
      · have hroom := (List.pairwise_append.1 hall).2.2 entry hentry _ (List.mem_cons_self ..)
          start wait hbegins clock rfl
        exact absurd hroom (not_le.2 hover)

/-! ## 3. The ceiling -/

/-- The burst of a limiter, in whole nanoseconds. -/
theorem burst_of_isLeast {limit : Nat}
    (h : IsLeast {n : Nat | 1 ≤ n ∧ 10 ^ 6 ≤ 10 ^ 9 * n / limit} burst) :
    Meter.Burst id limit 1000000 burst := by
  have hset : {n : Nat | 1 ≤ n ∧ (1000000 : Time) ≤ Meter.waitFor id limit n}
      = {n : Nat | 1 ≤ n ∧ 10 ^ 6 ≤ 10 ^ 9 * n / limit} := by
    ext n
    simp only [Set.mem_ofPred_eq, Meter.waitFor_exact]
    refine and_congr_right fun _ => ?_
    norm_cast
  unfold Meter.Burst
  rw [hset]
  exact h

/-- Every limit has a burst: at the latest, the limit's own number of senders takes a second. -/
theorem exists_isLeast_burst {limit : Nat} (hlimit : 0 < limit) :
    ∃ burst, IsLeast {n : Nat | 1 ≤ n ∧ 10 ^ 6 ≤ 10 ^ 9 * n / limit} burst := by
  have hsome : ∃ n : Nat, 1 ≤ n ∧ 10 ^ 6 ≤ 10 ^ 9 * n / limit := by
    refine ⟨limit, hlimit, ?_⟩
    rw [Nat.mul_div_cancel _ hlimit]
    decide
  refine ⟨Nat.find hsome, Nat.find_spec hsome, ?_⟩
  intro n hn
  exact Nat.find_min' hsome hn

/-- A fresh limiter keeps the pace of its burst. -/
theorem Paced.new {limit : Nat} {limiter : Limiter α} (hnew : Limiter.new limit = .ok limiter)
    (hburst : IsLeast {n : Nat | 1 ≤ n ∧ 10 ^ 6 ≤ 10 ^ 9 * n / limit} burst) (now : Time) :
    Paced burst (10 ^ 9 * burst / limit) [] [] { limiter, now } := by
  have hlimiter : limiter = { meter := { limit } } := by
    unfold Limiter.new Meter.new at hnew
    split at hnew
    · cases hnew
    · cases hnew
      rfl
  subst hlimiter
  refine .of_idle ?_ (fun hstarted => by cases hstarted)
  exact
    { rate := Nat.mul_div_le _ _
      least := burst_of_isLeast hburst
      sleeps := Meter.waitFor_exact limit burst
      owed_le := Nat.zero_le _
      fresh := fun _ => rfl
      potential := fun i hi => absurd hi (Nat.not_lt_zero i)
      ceiling := fun _ j _ hj => absurd hj (Nat.not_lt_zero j) }

/-- The rate of a burst in its wait is the limit, if the burst takes a whole number of
nanoseconds. -/
theorem rate_of_dvd {limit : Nat} (hwait : wait = 10 ^ 9 * burst / limit) (hpos : 0 < wait)
    (hdvd : limit ∣ 10 ^ 9 * burst) (window : Int) :
    (window : Rat) * burst / wait = limit * window / 10 ^ 9 := by
  have hposRat : (wait : Rat) ≠ 0 := by exact_mod_cast hpos.ne'
  have hwhole : (limit : Rat) * wait = 10 ^ 9 * burst := by
    have := Nat.mul_div_cancel' hdvd
    rw [← hwait] at this
    exact_mod_cast this
  rw [div_eq_div_iff hposRat (by norm_num)]
  calc (window : Rat) * burst * 10 ^ 9
      = (window : Rat) * (10 ^ 9 * burst) := by ring
    _ = (window : Rat) * (limit * wait) := by rw [hwhole]
    _ = (limit : Rat) * window * wait := by ring

/-- **The rate ceiling.**  Of the senders that a limiter lets go in a run, the `i`-th to the `j`-th
are at most a burst more than the time between them pays for, at the rate of a burst in its wait;
where the burst takes a whole number of nanoseconds, this is the limit itself.  Senders are given
up at any time but between the expiry of a sleep and its wake.  The last of them goes before the
clock has ended, or whoever was woken has slept as long as it should. -/
theorem Run.rate_ceiling {limit wait : Nat} {limiter : Limiter α} {now : Time} {watch : Watch α}
    {past : List (Watch α × Move α)} (hnew : Limiter.new limit = .ok limiter)
    (hburst : IsLeast {n : Nat | 1 ≤ n ∧ 10 ^ 6 ≤ 10 ^ 9 * n / limit} burst)
    (hwait : wait = 10 ^ 9 * burst / limit) (hrun : Run id { limiter, now } past watch)
    (hcancel : ∀ entry ∈ past, entry.2 = .cancel → entry.1.rung = 0) (i j : Nat) (hij : i ≤ j)
    (hj : j < (gone id past).length)
    (hend : (gone id past)[j].1 < endOfTime ∨ SleptOut id past) :
    ((j - i + 1 : Nat) : Rat)
        ≤ burst + ((gone id past)[j].1 - (gone id past)[i].1 : Int) * burst / wait ∧
      (limit ∣ 10 ^ 9 * burst →
        ((j - i + 1 : Nat) : Rat)
          ≤ burst + limit * ((gone id past)[j].1 - (gone id past)[i].1 : Int) / 10 ^ 9) := by
  have hlong : 10 ^ 6 ≤ wait := hwait ▸ hburst.1.2
  have hpos : 0 < wait := by omega
  obtain ⟨before, after, rfl, ⟨mid, hmid⟩, hlate⟩ :=
    hrun.paced hpos hcancel (hwait ▸ Paced.new hnew hburst now)
  -- The window ends before the clock does, or no wake came too early: so the pace was kept.
  have hin : j < (gone id before).length := by
    by_contra hout
    have hmem : (gone id (before ++ after))[j] ∈ gone id after := by
      simp only [gone_append, List.getElem_append_right (not_lt.1 hout)]
      exact List.getElem_mem _
    have hsome : after ≠ [] := by
      rintro rfl
      cases hmem
    obtain ⟨hpast, hcut⟩ := hlate hsome
    rcases hend with hearly | hslept
    · exact absurd (hpast _ hmem) (not_le.2 hearly)
    · exact hcut hslept
  have hwindow := hmid.meter.ceiling i j hij (by simpa using hin)
  simp only [List.nil_append, List.getElem_map] at hwindow
  have hlast : (gone id (before ++ after))[j] = (gone id before)[j] := by
    simp only [gone_append, List.getElem_append_left hin]
  have hfirst : (gone id (before ++ after))[i] = (gone id before)[i] := by
    simp only [gone_append, List.getElem_append_left (hij.trans_lt hin)]
  rw [hlast, hfirst]
  generalize (gone id before)[j].1 - (gone id before)[i].1 = window at hwindow ⊢
  have hcount : ((j - i + 1 : Nat) : Int) = (j : Int) - i + 1 := by omega
  rw [← hcount] at hwindow
  have hwindowRat : ((j - i + 1 : Nat) : Rat) * wait ≤ burst * wait + window * burst := by
    exact_mod_cast hwindow
  have hposRat : (0 : Rat) < wait := by exact_mod_cast hpos
  have hceiling : ((j - i + 1 : Nat) : Rat) ≤ burst + window * burst / wait := by
    calc ((j - i + 1 : Nat) : Rat)
        = ((j - i + 1 : Nat) : Rat) * wait / wait := by field_simp
      _ ≤ (burst * wait + window * burst) / wait := by gcongr
      _ = burst + window * burst / wait := by field_simp
  refine ⟨hceiling, fun hdvd => ?_⟩
  rw [← rate_of_dvd hwait hpos hdvd]
  exact hceiling

/-- A limiter of ten senders a second; two arrive at once, and the second sleeps a tenth of a
second. -/
def twoAtOnce : List (Watch Nat × Move Nat) :=
  trail id { limiter := { meter := { limit := 10 } }, now := 0 }
    [.acquire 1, .acquire 2, .pass 100000000, .ring, .wake fun _ => 100000000]

/-- The burst is one and its wait a tenth of a second: the second sender goes no earlier than the
ceiling lets it. -/
theorem Run.rate_ceiling_of_two :
    gone id twoAtOnce = [(0, 1), (100000000, 2)] ∧
      ((1 - 0 + 1 : Nat) : Rat) ≤ (1 : Nat) + (10 : Nat) * (100000000 - 0 : Int) / 10 ^ 9 := by
  have hgone : gone id twoAtOnce = [(0, 1), (100000000, 2)] := by decide +kernel
  have hburst : IsLeast {n : Nat | 1 ≤ n ∧ 10 ^ 6 ≤ 10 ^ 9 * n / 10} 1 :=
    ⟨by decide, fun _ hn => hn.1⟩
  have hrun : Run id { limiter := { meter := { limit := 10 } }, now := 0 } twoAtOnce _ :=
    .cons trivial <| .cons trivial <| .cons (by simp only [Allows]; decide +kernel) <|
    .cons ⟨100000000, by decide +kernel, by decide +kernel⟩ <|
    .cons ⟨by decide +kernel, by decide +kernel, fun _ _ _ => Int.le_refl _⟩ <| .nil _
  have hcancel : ∀ entry ∈ twoAtOnce, entry.2 = .cancel → entry.1.rung = 0 := by
    intro entry hentry hmove
    simp only [twoAtOnce, trail, List.mem_cons, List.not_mem_nil, or_false] at hentry
    rcases hentry with rfl | rfl | rfl | rfl | rfl <;> cases hmove
  have hnew : Limiter.new 10 = .ok ({ meter := { limit := 10 } } : Limiter Nat) := rfl
  have hwait : 100000000 = 10 ^ 9 * 1 / 10 := by decide
  have hearly : (100000000 : Time) < endOfTime := by decide
  have hceiling := Run.rate_ceiling hnew hburst hwait hrun hcancel 0 1 (by decide)
    (by rw [hgone]; decide)
    (.inl (by simpa only [hgone, List.getElem_cons_zero, List.getElem_cons_succ] using hearly))
  refine ⟨hgone, ?_⟩
  simpa only [hgone, List.getElem_cons_zero, List.getElem_cons_succ] using hceiling.2 (by decide)

/-- A limiter of one sender a second; two arrive half a second before the clock ends. -/
def twoAtTheEnd : List (Watch Nat × Move Nat) :=
  trail id { limiter := { meter := { limit := 1 } }, now := 0 }
    [.pass (endOfTime - 500000000), .acquire 1, .acquire 2, .pass endOfTime, .ring,
      .wake fun _ => endOfTime]

/-- **The ceiling does not hold where the clock ends.**  The timer of a whole second is set half a
second before, and expires with the clock: two senders go within half a second. -/
theorem Run.rate_ceiling_passed_at_end :
    Limiter.new 1 = .ok ({ meter := { limit := 1 } } : Limiter Nat) ∧
      IsLeast {n : Nat | 1 ≤ n ∧ 10 ^ 6 ≤ 10 ^ 9 * n / 1} 1 ∧
      (∃ watch, Run id { limiter := { meter := { limit := 1 } }, now := 0 } twoAtTheEnd watch) ∧
      (∀ entry ∈ twoAtTheEnd, entry.2 = .cancel → entry.1.rung = 0) ∧
      gone id twoAtTheEnd = [(endOfTime - 500000000, 1), (endOfTime, 2)] ∧
      ¬ ((1 - 0 + 1 : Nat) : Rat)
        ≤ (1 : Nat)
          + (endOfTime - (endOfTime - 500000000) : Int) * (1 : Nat) / (10 ^ 9 * 1 / 1 : Nat) := by
  have hrun : Run id { limiter := { meter := { limit := 1 } }, now := 0 } twoAtTheEnd _ :=
    .cons (by simp only [Allows]; decide +kernel) <| .cons trivial <| .cons trivial <|
    .cons (by simp only [Allows]; decide +kernel) <|
    .cons ⟨endOfTime, by decide +kernel, by decide +kernel⟩ <|
    .cons ⟨by decide +kernel, by decide +kernel, fun _ _ _ => Int.le_refl _⟩ <| .nil _
  refine ⟨rfl, ⟨by decide, fun _ hn => hn.1⟩, ⟨_, hrun⟩, ?_, by decide +kernel, ?_⟩
  · intro entry hentry hmove
    simp only [twoAtTheEnd, trail, List.mem_cons, List.not_mem_nil, or_false] at hentry
    rcases hentry with rfl | rfl | rfl | rfl | rfl | rfl <;> cases hmove
  · have hwindow : endOfTime - (endOfTime - 500000000) = 500000000 := by decide
    rw [hwindow]
    norm_num

end Watch

end IcmpEcho.Rate
