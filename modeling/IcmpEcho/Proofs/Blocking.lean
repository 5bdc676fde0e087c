/-
# A limiter does what blocking senders do

The blocking algorithm takes one sender at a time through a meter: a sender waits for its turn,
takes its shot, and if it has to sleep, sleeps until it goes; only then the next one has its turn
(`Blocking.next`).  A limiter splits this over arrivals, a queue, a timer and wakes that let several
senders go at once.

**On prompt runs the two are the same** (`Watch.PromptRun.refines_blocking`).  A run is prompt if
nobody is given up and every wake runs at the time for which its timer was set.  The senders that go
are then a front part of those the blocking algorithm lets go, in order of arrival and at exactly its
times; none whose time has passed is missing; and the run can go on until all have gone.

The clock has an end, and a sleep of the blocking algorithm ends with it, as a timer cannot be set
past it.  Without this the two differ (`Watch.PromptRun.woken_with_the_clock`).

What the arithmetic of a meter gives does not matter here: the rounding is any function.  All that
is used of a wait is that it is at least the shortest one worth making.
-/
import Mathlib.Order.Basic
import IcmpEcho.Proofs.Metering
import IcmpEcho.Proofs.Watch

namespace IcmpEcho.Rate

variable {α : Type} {round : Number.Rounding}

/-! ## 1. The blocking algorithm -/

/-- Senders that go through a meter one at a time. -/
structure Blocking where
  meter : Meter
  /-- When the last sender went; the next one has its turn then. -/
  free : Time

namespace Blocking

/-- The next sender, which asks at `asked`: it takes its shot when it has its turn, and goes at
once or at the end of its sleep. -/
def next (round : Number.Rounding) (line : Blocking) (asked : Time) : Blocking :=
  let start := max asked line.free
  let (meter, wait) := line.meter.shot round start
  if wait = 0 then { meter, free := start }
  else { meter := meter.finishWait (timerEnd start wait), free := timerEnd start wait }

/-- When each of some senders goes, from the times at which they ask. -/
def grants (round : Number.Rounding) : Blocking → List (Time × α) → List (Time × α)
  | _, [] => []
  | line, (asked, sender) :: rest =>
    ((line.next round asked).free, sender) :: grants round (line.next round asked) rest

/-- What is left when some senders have gone. -/
def after (round : Number.Rounding) (line : Blocking) (asked : List (Time × α)) : Blocking :=
  asked.foldl (fun line entry => line.next round entry.1) line

theorem grants_append (xs ys : List (Time × α)) :
    ∀ line : Blocking,
      line.grants round (xs ++ ys)
        = line.grants round xs ++ (line.after round xs).grants round ys := by
  induction xs with
  | nil => intro line; rfl
  | cons x xs ih =>
    intro line
    simp only [List.cons_append, grants, ih]
    rfl

theorem after_append (line : Blocking) (xs ys : List (Time × α)) :
    line.after round (xs ++ ys) = (line.after round xs).after round ys := List.foldl_append ..

theorem after_concat (line : Blocking) (asked : List (Time × α)) (entry : Time × α) :
    line.after round (asked ++ [entry]) = (line.after round asked).next round entry.1 :=
  after_append line asked [entry]

/-- One more sender is granted what the algorithm gives it after the others. -/
theorem grants_concat (line : Blocking) (asked : List (Time × α)) (entry : Time × α) :
    line.grants round (asked ++ [entry])
      = line.grants round asked
        ++ [(((line.after round asked).next round entry.1).free, entry.2)] :=
  grants_append asked [entry] line

/-- The senders go in the order in which they ask. -/
theorem grants_senders (asked : List (Time × α)) :
    ∀ line : Blocking, (line.grants round asked).map Prod.snd = asked.map Prod.snd := by
  induction asked with
  | nil => intro line; rfl
  | cons entry rest ih =>
    intro line
    simp only [grants, List.map_cons, ih]

variable {line : Blocking}

/-- A sender that need not sleep goes when it has its turn. -/
theorem next_of_go {asked : Time} {meter : Meter} {start : Time}
    (hstart : max asked line.free = start) (h : line.meter.shot round start = (meter, 0)) :
    line.next round asked = { meter, free := start } := by
  simp only [next, hstart, h, if_true]

/-- A sender that has to sleep goes when its sleep is over. -/
theorem next_of_sleep {asked : Time} {meter : Meter} {start wait : Time}
    (hstart : max asked line.free = start) (h : line.meter.shot round start = (meter, wait))
    (hwait : wait ≠ 0) :
    line.next round asked
      = { meter := meter.finishWait (timerEnd start wait), free := timerEnd start wait } := by
  simp only [next, hstart, h, hwait, if_false]

theorem next_minWait (asked : Time) :
    (line.next round asked).meter.minWait = line.meter.minWait := by
  unfold next
  dsimp only
  split
  · exact (Meter.shot_limit round line.meter _).2
  · exact (Meter.shot_limit round line.meter _).2

theorem after_minWait (asked : List (Time × α)) :
    ∀ line : Blocking, (line.after round asked).meter.minWait = line.meter.minWait := by
  induction asked with
  | nil => intro line; rfl
  | cons entry rest ih =>
    intro line
    exact (ih _).trans (next_minWait entry.1)

/-- A sleep ends before the clock does; so whoever asks before that goes before that. -/
theorem next_free_le {asked : Time} (hasked : asked ≤ endOfTime) (hfree : line.free ≤ endOfTime) :
    (line.next round asked).free ≤ endOfTime := by
  unfold next
  dsimp only
  split
  · exact max_le hasked hfree
  · exact timerEnd_le_endOfTime _ _

/-- Nobody goes before its turn. -/
theorem free_le_next (hmin : 0 ≤ line.meter.minWait) {asked : Time} (hasked : asked ≤ endOfTime)
    (hfree : line.free ≤ endOfTime) : line.free ≤ (line.next round asked).free := by
  unfold next
  dsimp only
  split
  · exact le_max_right _ _
  · next hsleep =>
    have hwait := hmin.trans (Meter.minWait_le_shot hsleep)
    exact (le_max_right _ _).trans (le_timerEnd hwait (max_le hasked hfree))

theorem free_le_grants (asked : List (Time × α)) :
    ∀ line : Blocking, 0 ≤ line.meter.minWait → line.free ≤ endOfTime →
      (∀ entry ∈ asked, entry.1 ≤ endOfTime) →
      ∀ granted ∈ line.grants round asked, line.free ≤ granted.1 := by
  induction asked with
  | nil =>
    intro line _ _ _ granted h
    cases h
  | cons entry rest ih =>
    intro line hmin hfree hasked granted h
    have hentry := hasked entry (List.mem_cons_self ..)
    have hnext : line.free ≤ (line.next round entry.1).free := free_le_next hmin hentry hfree
    rcases List.mem_cons.1 h with rfl | hrest
    · exact hnext
    · exact hnext.trans (ih _ (by rw [next_minWait]; exact hmin) (next_free_le hentry hfree)
        (fun later hlater => hasked later (List.mem_cons_of_mem _ hlater)) granted hrest)

end Blocking

/-! ## 2. Prompt runs -/

namespace Watch

/-- Nobody is given up, the clock does not pass its end, a timer or a wake, and it stands still
during a wake. -/
def Prompt (watch : Watch α) : Move α → Prop
  | .acquire _ => True
  | .cancel => False
  | .pass now =>
    now ≤ endOfTime ∧ watch.rung = 0 ∧ ∀ expiry, watch.alarm = some expiry → now ≤ expiry
  | .ring => True
  | .wake clock => clock = fun _ => watch.now

/-- The clock may go on to the time for which the timer is set. -/
theorem prompt_pass {watch : Watch α} {now expiry : Time} (hend : now ≤ endOfTime)
    (hrung : watch.rung = 0) (hset : watch.alarm = some expiry) (hbefore : now ≤ expiry) :
    watch.Prompt (.pass now) := by
  refine ⟨hend, hrung, ?_⟩
  intro expiry' hset'
  rw [hset] at hset'
  cases hset'
  exact hbefore

/-- A run in which every wake runs at the time for which its timer was set. -/
def PromptRun (round : Number.Rounding) (watch : Watch α) (past : List (Watch α × Move α))
    (watch' : Watch α) : Prop :=
  Run round watch past watch' ∧ ∀ entry ∈ past, entry.1.Prompt entry.2

/-- The senders that ask in a run, with the times at which they do. -/
def arrivals (past : List (Watch α × Move α)) : List (Time × α) :=
  past.filterMap fun entry =>
    match entry.2 with
    | .acquire sender => some (entry.1.now, sender)
    | _ => none

/-- Nobody's asking takes time. -/
theorem turn_acquire_now (watch : Watch α) (sender : α) :
    (watch.turn round (.acquire sender)).1.now = watch.now := by
  simp only [Watch.turn]
  split
  · rfl
  · rfl
  · rfl

theorem arrivals_append (past past' : List (Watch α × Move α)) :
    arrivals (past ++ past') = arrivals past ++ arrivals past' := List.filterMap_append

namespace PromptRun

variable {watch watch' watch'' : Watch α} {past past' : List (Watch α × Move α)}

theorem nil (watch : Watch α) : PromptRun round watch [] watch :=
  ⟨.nil watch, fun _ h => nomatch h⟩

theorem cons {move : Move α} (allowed : watch.Allows move) (hprompt : watch.Prompt move)
    (h : PromptRun round (watch.turn round move).1 past watch') :
    PromptRun round watch ((watch, move) :: past) watch' := by
  refine ⟨.cons allowed h.1, ?_⟩
  intro entry hentry
  rcases List.mem_cons.1 hentry with rfl | hrest
  · exact hprompt
  · exact h.2 entry hrest

/-- A sender can ask at any time. -/
theorem acquire (watch : Watch α) (sender : α) :
    PromptRun round watch [(watch, .acquire sender)] (watch.turn round (.acquire sender)).1 :=
  @cons α round watch _ [] (.acquire sender) trivial trivial (.nil _)

theorem trans (h : PromptRun round watch past watch') (h' : PromptRun round watch' past' watch'') :
    PromptRun round watch (past ++ past') watch'' := by
  refine ⟨h.1.trans h'.1, ?_⟩
  intro entry hentry
  rcases List.mem_append.1 hentry with hfirst | hsecond
  · exact h.2 entry hfirst
  · exact h'.2 entry hsecond

end PromptRun

/-! ## 3. The simulation -/

/-- A watch that has the blocking algorithm behind it: of the senders that `asked`, those that are
`gone` went as the algorithm lets them go. -/
inductive InTurn (round : Number.Rounding) (line : Blocking) (asked gone : List (Time × α)) :
    Watch α → Prop
  /-- All have gone, and the meter is the algorithm's. -/
  | idle {meter : Meter} {now : Time} (hgone : gone = line.grants round asked)
    (hmeter : (line.after round asked).meter = meter)
    (hfree : (line.after round asked).free ≤ now) (hend : now ≤ endOfTime) :
    InTurn round line asked gone { limiter := { meter }, now }
  /-- The algorithm is in the middle of a sender's sleep; the senders behind it have asked. -/
  | asleep {done rest : List (Time × α)} {sleeper : Time × α} {meter : Meter}
    {now start wait : Time} {alarm : Option Time} {rung : Nat}
    (hasked : asked = done ++ sleeper :: rest) (hgone : gone = line.grants round done)
    (hstart : max sleeper.1 (line.after round done).free = start)
    (hshot : (line.after round done).meter.shot round start = (meter, wait)) (hwait : wait ≠ 0)
    (hrest : ∀ entry ∈ rest, entry.1 ≤ timerEnd start wait) (hnow : now ≤ timerEnd start wait)
    (halarm : alarm = some (timerEnd start wait) ∧ rung = 0 ∨
      alarm = none ∧ rung = 1 ∧ now = timerEnd start wait) :
    InTurn round line asked gone
      { limiter := { meter, sleeper := some sleeper.2, waiting := rest.map Prod.snd }, now, alarm,
        rung }

namespace InTurn

variable {line : Blocking} {asked done rest : List (Time × α)} {watch watch' : Watch α}

/-- A shot at `now` that goes: the sender goes as the algorithm's does. -/
theorem after_go (entry : Time × α) {meter : Meter} {now : Time}
    (hturn : max entry.1 (line.after round done).free = now)
    (hshot : (line.after round done).meter.shot round now = (meter, 0)) :
    line.after round (done ++ [entry]) = { meter, free := now } ∧
      line.grants round (done ++ [entry]) = line.grants round done ++ [(now, entry.2)] := by
  have hnext := Blocking.next_of_go hturn hshot
  constructor
  · rw [Blocking.after_concat, hnext]
  · rw [Blocking.grants_concat, hnext]

/-- A sleep that is over: the sender goes as the algorithm's does. -/
theorem after_sleep (entry : Time × α) {meter : Meter} {start wait : Time}
    (hturn : max entry.1 (line.after round done).free = start)
    (hshot : (line.after round done).meter.shot round start = (meter, wait)) (hwait : wait ≠ 0) :
    line.after round (done ++ [entry])
        = { meter := meter.finishWait (timerEnd start wait), free := timerEnd start wait } ∧
      line.grants round (done ++ [entry])
        = line.grants round done ++ [(timerEnd start wait, entry.2)] := by
  have hnext := Blocking.next_of_sleep hturn hshot hwait
  constructor
  · rw [Blocking.after_concat, hnext]
  · rw [Blocking.grants_concat, hnext]

/-- A shot at `now` that has to sleep: both begin the same sleep. -/
theorem of_sleep (hmin : 0 ≤ line.meter.minWait) (entry : Time × α) (rest : List (Time × α))
    {meter : Meter} {now wait : Time} (hend : now ≤ endOfTime)
    (hturn : max entry.1 (line.after round done).free = now)
    (hshot : (line.after round done).meter.shot round now = (meter, wait)) (hwait : wait ≠ 0)
    (hrest : ∀ later ∈ rest, later.1 ≤ now) :
    InTurn round line (done ++ entry :: rest) (line.grants round done)
      { limiter := { meter, sleeper := some entry.2, waiting := rest.map Prod.snd }, now,
        alarm := some (timerEnd now wait) } := by
  have hlong : 0 ≤ wait := by
    have hle : (line.after round done).meter.minWait
        ≤ ((line.after round done).meter.shot round now).2 :=
      Meter.minWait_le_shot (by rw [hshot]; exact hwait)
    rw [Blocking.after_minWait, hshot] at hle
    exact hmin.trans hle
  have hover : now ≤ timerEnd now wait := le_timerEnd hlong hend
  exact .asleep rfl rfl hturn hshot hwait
    (fun later hlater => (hrest later hlater).trans hover) hover (.inl ⟨rfl, rfl⟩)

/-- **A wake's queue.**  Senders that asked no later than the time at which the last one went take
their turns at that time. -/
theorem drain (hmin : 0 ≤ line.meter.minWait) {now : Time} (hend : now ≤ endOfTime)
    (rest : List (Time × α)) :
    ∀ done : List (Time × α),
      (line.after round done).free = now → (∀ entry ∈ rest, entry.1 ≤ now) →
      InTurn round line (done ++ rest)
        (line.grants round done ++ (Limiter.drainAlong round now (fun _ => now)
          (line.after round done).meter (rest.map Prod.snd)).gone)
        (ofRousing (Limiter.drainAlong round now (fun _ => now)
          (line.after round done).meter (rest.map Prod.snd))) := by
  induction rest with
  | nil =>
    intro done hfree _
    simp only [List.map_nil, Limiter.drainAlong, List.append_nil, ofRousing]
    exact .idle rfl rfl hfree.le hend
  | cons entry rest ih =>
    intro done hfree hrest
    have hturn : max entry.1 (line.after round done).free = now := by
      rw [hfree]
      exact max_eq_right (hrest entry (List.mem_cons_self ..))
    have hlater : ∀ later ∈ rest, later.1 ≤ now :=
      fun later hmem => hrest later (List.mem_cons_of_mem _ hmem)
    rcases hshot : (line.after round done).meter.shot round now with ⟨meter, wait⟩
    by_cases hwait : wait = 0
    · subst hwait
      obtain ⟨hafter, hgrants⟩ := after_go entry hturn hshot
      have hnext := ih (done ++ [entry]) (by rw [hafter]) hlater
      rw [hafter, hgrants] at hnext
      simp only [List.map_cons, Limiter.drainAlong, hshot, if_true]
      simpa only [List.append_assoc, List.singleton_append, ofRousing, Rousing.alarm] using hnext
    · simp only [List.map_cons, Limiter.drainAlong, hshot, hwait, if_false, List.append_nil,
        ofRousing]
      exact of_sleep hmin entry rest hend hturn hshot hwait hlater

/-! One lemma for each prompt move. -/

theorem acquire (hmin : 0 ≤ line.meter.minWait) {gone : List (Time × α)}
    (h : InTurn round line asked gone watch) (sender : α) :
    InTurn round line (asked ++ [(watch.now, sender)])
      (gone ++ (watch.turn round (.acquire sender)).2)
      (watch.turn round (.acquire sender)).1 := by
  cases h with
  | @idle meter now hgone hmeter hfree hend =>
    have hturn : max now (line.after round asked).free = now := max_eq_left hfree
    rcases hshot : meter.shot round now with ⟨meter', wait⟩
    rw [← hmeter] at hshot
    by_cases hwait : wait = 0
    · subst hwait
      obtain ⟨hafter, hgrants⟩ := after_go (now, sender) hturn hshot
      rw [hmeter] at hshot
      simp only [Watch.turn, Limiter.acquire, Option.isSome_none, Bool.false_eq_true, if_false,
        hshot, if_true]
      rw [hgone, ← hgrants]
      exact .idle rfl (by rw [hafter]) (by rw [hafter]) hend
    · have hsleep := of_sleep hmin (now, sender) [] hend hturn hshot hwait
        (List.forall_mem_nil _)
      rw [hmeter] at hshot
      simp only [Watch.turn, Limiter.acquire, Option.isSome_none, Bool.false_eq_true, if_false,
        hshot, hwait, List.append_nil]
      rw [hgone]
      exact hsleep
  | @asleep done rest sleeper meter now start wait alarm rung hasked hgone hstart hshot hwait
      hrest hnow halarm =>
    -- Behind a sleeper a sender only waits.
    simp only [Watch.turn, Limiter.acquire, Option.isSome_some, if_true, List.append_nil]
    have hqueue : rest.map Prod.snd ++ [sender] = (rest ++ [(now, sender)]).map Prod.snd := by
      rw [List.map_append]
      rfl
    rw [hqueue]
    refine .asleep ?_ hgone hstart hshot hwait ?_ hnow halarm
    · rw [hasked, List.append_assoc]
      rfl
    · intro entry hentry
      rcases List.mem_append.1 hentry with hold | hnew
      · exact hrest entry hold
      · rw [List.mem_singleton.1 hnew]
        exact hnow

theorem pass {gone : List (Time × α)} (h : InTurn round line asked gone watch) {later : Time}
    (hlater : watch.now ≤ later) (hprompt : watch.Prompt (.pass later)) :
    InTurn round line asked gone { watch with now := later } := by
  obtain ⟨hend, hrung, hbefore⟩ := hprompt
  cases h with
  | idle hgone hmeter hfree => exact .idle hgone hmeter (hfree.trans hlater) hend
  | asleep hasked hgone hstart hshot hwait hrest hnow halarm =>
    rcases halarm with ⟨hset, _⟩ | ⟨-, hone, -⟩
    · exact .asleep hasked hgone hstart hshot hwait hrest (hbefore _ hset) (.inl ⟨hset, hrung⟩)
    · exact absurd (hrung.symm.trans hone) (by decide)

theorem ring {gone : List (Time × α)} (h : InTurn round line asked gone watch)
    (hallowed : watch.Allows .ring) :
    InTurn round line asked gone { watch with alarm := none, rung := watch.rung + 1 } := by
  obtain ⟨expiry, hset, hdue⟩ := hallowed
  cases h with
  | idle => cases hset
  | asleep hasked hgone hstart hshot hwait hrest hnow halarm =>
    rcases halarm with ⟨hset', hrung⟩ | ⟨hno, -, -⟩
    · have hexpiry : expiry = _ := Option.some.inj (hset.symm.trans hset')
      refine .asleep hasked hgone hstart hshot hwait hrest hnow (.inr ⟨rfl, ?_, ?_⟩)
      · rw [hrung]
      · exact hnow.antisymm (hexpiry ▸ hdue)
    · exact absurd (hset.symm.trans hno) (by simp)

theorem wake (hmin : 0 ≤ line.meter.minWait) {gone : List (Time × α)}
    (h : InTurn round line asked gone watch) (hposted : 0 < watch.rung) :
    InTurn round line asked (gone ++ (watch.turn round (.wake fun _ => watch.now)).2)
      (watch.turn round (.wake fun _ => watch.now)).1 := by
  cases h with
  | idle => cases hposted
  | @asleep done rest sleeper meter now start wait alarm rung hasked hgone hstart hshot hwait
      hrest hnow halarm =>
    rcases halarm with ⟨-, hrung⟩ | ⟨hno, hrung, hdue⟩
    · rw [hrung] at hposted
      cases hposted
    · -- The sleeper goes at the end of its sleep, as the algorithm's does.
      obtain ⟨hafter, hgrants⟩ := after_sleep sleeper hstart hshot hwait
      have hend : now ≤ endOfTime := hnow.trans (timerEnd_le_endOfTime start wait)
      rw [← hdue] at hafter hgrants hrest
      have hqueue := drain hmin hend rest (done ++ [sleeper]) (by rw [hafter]) hrest
      rw [hafter, hgrants] at hqueue
      simp only [Watch.turn, Limiter.wakeAlong, hno, hrung]
      rw [hasked, hgone]
      simpa [ofRousing, Rousing.alarm] using hqueue

/-- **One prompt move keeps the two in step.** -/
theorem turn (hmin : 0 ≤ line.meter.minWait) {gone : List (Time × α)} {move : Move α}
    (h : InTurn round line asked gone watch) (hallowed : watch.Allows move)
    (hprompt : watch.Prompt move) :
    InTurn round line (asked ++ arrivals [(watch, move)]) (gone ++ (watch.turn round move).2)
      (watch.turn round move).1 := by
  -- Only a sender that asks is an arrival.
  cases move with
  | acquire sender => exact h.acquire hmin sender
  | cancel => exact hprompt.elim
  | pass later =>
    simp only [arrivals, Watch.turn, List.filterMap_cons, List.filterMap_nil, List.append_nil]
    exact h.pass hallowed hprompt
  | ring =>
    simp only [arrivals, Watch.turn, List.filterMap_cons, List.filterMap_nil, List.append_nil]
    exact h.ring hallowed
  | wake clock =>
    obtain rfl : clock = fun _ => watch.now := hprompt
    simp only [arrivals, List.filterMap_cons, List.filterMap_nil, List.append_nil]
    exact h.wake hmin hallowed.1

/-- **A prompt run keeps the two in step.** -/
theorem run (hmin : 0 ≤ line.meter.minWait) {past : List (Watch α × Move α)}
    (hrun : Run round watch past watch') (hprompt : ∀ entry ∈ past, entry.1.Prompt entry.2) :
    ∀ {asked gone : List (Time × α)}, InTurn round line asked gone watch →
      InTurn round line (asked ++ arrivals past) (gone ++ Watch.gone round past) watch' := by
  induction hrun with
  | nil =>
    intro asked gone h
    simpa only [arrivals, Watch.gone, List.filterMap_nil, List.flatMap_nil, List.append_nil] using h
  | @cons watch watch' move past allowed _ ih =>
    intro asked gone h
    have hturn := h.turn hmin allowed (hprompt _ (List.mem_cons_self ..))
    have hrest := ih (fun entry hentry => hprompt entry (List.mem_cons_of_mem _ hentry)) hturn
    rw [gone_cons, ← List.append_assoc, ← List.singleton_append, arrivals_append,
      ← List.append_assoc]
    exact hrest

/-! ## 4. Where the simulation leads -/

/-- The senders that have gone are a front part of those the algorithm lets go. -/
theorem front {gone : List (Time × α)} (h : InTurn round line asked gone watch) :
    gone <+: line.grants round asked := by
  cases h with
  | idle hgone => rw [hgone]
  | asleep hasked hgone =>
    rw [hasked, hgone, Blocking.grants_append]
    exact List.prefix_append _ _

/-- No sender whose time has passed is missing. -/
theorem punctual (hmin : 0 ≤ line.meter.minWait) {gone : List (Time × α)}
    (h : InTurn round line asked gone watch) (n : Nat) (hn : n < (line.grants round asked).length)
    (hpassed : (line.grants round asked)[n].1 < watch.now) : n < gone.length := by
  cases h with
  | idle hgone =>
    rw [hgone]
    exact hn
  | @asleep done rest sleeper meter now start wait alarm rung hasked hgone hstart hshot hwait hrest
      hnow halarm =>
    by_contra hlate
    have hlater : (line.grants round done).length ≤ n := by
      rw [← hgone]
      omega
    have hmem : (line.grants round asked)[n]
        ∈ (line.after round done).grants round (sleeper :: rest) := by
      simp only [hasked, Blocking.grants_append, List.getElem_append_right hlater]
      exact List.getElem_mem _
    -- Whoever is behind the sleeper goes no earlier than the sleeper.
    have hend : timerEnd start wait ≤ (line.grants round asked)[n].1 := by
      have hnext := Blocking.next_of_sleep hstart hshot hwait
      have hclock := timerEnd_le_endOfTime start wait
      rcases List.mem_cons.1 hmem with heq | hbehind
      · rw [heq, hnext]
      · have hle := Blocking.free_le_grants rest _
          (by rw [Blocking.next_minWait, Blocking.after_minWait]; exact hmin)
          (by rw [hnext]; exact hclock) (fun entry hentry => (hrest entry hentry).trans hclock)
          _ hbehind
        rw [hnext] at hle
        exact hle
    exact absurd (hend.trans_lt hpassed) (not_lt.2 hnow)

/-- Whoever sleeps does so until its timer, or a wake that is due now. -/
theorem expiry {gone : List (Time × α)} (h : InTurn round line asked gone watch)
    (hsleeper : watch.limiter.sleeper.isSome) :
    ∃ expiry, watch.now ≤ expiry ∧ expiry ≤ endOfTime ∧
      (watch.alarm = some expiry ∧ watch.rung = 0 ∨ 0 < watch.rung ∧ watch.now = expiry) := by
  cases h with
  | idle => cases hsleeper
  | asleep hasked hgone hstart hshot hwait hrest hnow halarm =>
    refine ⟨_, hnow, timerEnd_le_endOfTime _ _, ?_⟩
    rcases halarm with hset | ⟨-, hrung, hdue⟩
    · exact .inl hset
    · exact .inr ⟨hrung ▸ Nat.one_pos, hdue⟩

/-- With nobody asleep there is no timer and no wake, and all have gone. -/
theorem quiet {gone : List (Time × α)} (h : InTurn round line asked gone watch)
    (hsleeper : watch.limiter.sleeper = none) :
    watch.alarm = none ∧ watch.rung = 0 ∧ gone = line.grants round asked := by
  cases h with
  | idle hgone => exact ⟨rfl, rfl, hgone⟩
  | asleep => cases hsleeper

end InTurn

/-! ## 5. Prompt runs go on -/

namespace PromptRun

variable {watch : Watch α} {sleeper : α}

/-- The clock can go on to where nothing is in its way. -/
theorem exists_pass (round : Number.Rounding) {later : Time} (hlater : watch.now ≤ later)
    (hprompt : watch.Prompt (.pass later)) :
    ∃ past watch', PromptRun round watch past watch' ∧ arrivals past = [] ∧ watch'.now = later :=
  ⟨[(watch, .pass later)], _,
    .cons (show watch.Allows (.pass later) from hlater) hprompt (.nil _), rfl, rfl⟩

/-- A posted wake can run at once, and lets the sleeper go. -/
theorem exists_wake (round : Number.Rounding) (hsleeper : watch.limiter.sleeper = some sleeper)
    (hposted : 0 < watch.rung) :
    ∃ past watch', PromptRun round watch past watch' ∧ arrivals past = [] ∧
      gone round past ≠ [] ∧ watch'.now = watch.now := by
  refine ⟨[(watch, .wake fun _ => watch.now)], _,
    .cons ⟨hposted, le_rfl, fun _ _ _ => Int.le_refl _⟩ rfl (.nil _), rfl, ?_, ?_⟩
  · rw [gone_cons]
    simp [Watch.turn, Limiter.wakeAlong, hsleeper]
  · simp only [Watch.turn, Limiter.wakeAlong_still]
    rfl

/-- A timer can run out, and its wake lets the sleeper go. -/
theorem exists_ring (round : Number.Rounding) {expiry : Time}
    (hsleeper : watch.limiter.sleeper = some sleeper) (hnow : watch.now ≤ expiry)
    (hend : expiry ≤ endOfTime) (hset : watch.alarm = some expiry) (hrung : watch.rung = 0) :
    ∃ past watch', PromptRun round watch past watch' ∧ arrivals past = [] ∧
      gone round past ≠ [] ∧ watch'.now = expiry := by
  let due : Watch α := { watch with now := expiry }
  have hdue : due.Allows .ring := ⟨expiry, hset, le_rfl⟩
  obtain ⟨past, watch', hrun, harrivals, hgone, hnow'⟩ :=
    exists_wake round (show (due.turn round .ring).1.limiter.sleeper = some sleeper from hsleeper)
      (Nat.succ_pos _)
  exact ⟨(watch, .pass expiry) :: (due, .ring) :: past, watch',
    .cons (show watch.Allows (.pass expiry) from hnow) (prompt_pass hend hrung hset le_rfl)
      (.cons hdue trivial hrun), harrivals, hgone, hnow'⟩

end PromptRun

namespace InTurn

variable {line : Blocking} {asked : List (Time × α)}

theorem length_le {gone : List (Time × α)} {watch : Watch α}
    (h : InTurn round line asked gone watch) : gone.length ≤ asked.length := by
  calc gone.length
      ≤ (line.grants round asked).length := h.front.length_le
    _ = ((line.grants round asked).map Prod.snd).length := (List.length_map _).symm
    _ = asked.length := by rw [Blocking.grants_senders, List.length_map]

/-- Whoever sleeps can be woken, at the time for which the timer was set; so one more has gone. -/
theorem exists_woken (hmin : 0 ≤ line.meter.minWait) {gone : List (Time × α)} {watch : Watch α}
    (h : InTurn round line asked gone watch) {sleeper : α}
    (hsleeper : watch.limiter.sleeper = some sleeper) :
    ∃ past watch', PromptRun round watch past watch' ∧ arrivals past = [] ∧
      InTurn round line asked (gone ++ Watch.gone round past) watch' ∧
      gone.length < (gone ++ Watch.gone round past).length ∧
      (watch.alarm = some watch'.now ∧ watch.rung = 0 ∨
        0 < watch.rung ∧ watch'.now = watch.now) := by
  have hwake : ∃ past watch', PromptRun round watch past watch' ∧ arrivals past = [] ∧
      Watch.gone round past ≠ [] ∧ (watch.alarm = some watch'.now ∧ watch.rung = 0 ∨
        0 < watch.rung ∧ watch'.now = watch.now) := by
    obtain ⟨expiry, hnow, hend, ⟨hset, hrung⟩ | ⟨hposted, hdue⟩⟩ :=
      h.expiry (by rw [hsleeper]; rfl)
    · obtain ⟨past, watch', hrun, harrivals, hgone, hnow'⟩ :=
        PromptRun.exists_ring round hsleeper hnow hend hset hrung
      exact ⟨past, watch', hrun, harrivals, hgone, .inl ⟨by rw [hnow']; exact hset, hrung⟩⟩
    · obtain ⟨past, watch', hrun, harrivals, hgone, hnow'⟩ :=
        PromptRun.exists_wake round hsleeper hposted
      exact ⟨past, watch', hrun, harrivals, hgone, .inr ⟨hposted, hnow'⟩⟩
  obtain ⟨past, watch', hrun, harrivals, hgone, hnow'⟩ := hwake
  have hnext := InTurn.run hmin hrun.1 hrun.2 h
  rw [harrivals, List.append_nil] at hnext
  refine ⟨past, watch', hrun, harrivals, hnext, ?_, hnow'⟩
  have hmore : 0 < (Watch.gone round past).length := List.length_pos_of_ne_nil hgone
  rw [List.length_append]
  omega

/-- Without further senders the clock can go on to any later time.  Every wake on the way lets
somebody go, so those who are left bound the wakes. -/
theorem exists_later (hmin : 0 ≤ line.meter.minWait) {gone : List (Time × α)} {watch : Watch α}
    (h : InTurn round line asked gone watch) {later : Time} (hlater : watch.now ≤ later)
    (hend : later ≤ endOfTime) :
    ∃ past watch', PromptRun round watch past watch' ∧ arrivals past = [] ∧ watch'.now = later := by
  induction hleft : asked.length - gone.length using Nat.strong_induction_on
    generalizing gone watch with
  | _ left ih =>
    cases hsleeper : watch.limiter.sleeper with
    | none =>
      obtain ⟨hset, hrung, -⟩ := h.quiet hsleeper
      refine PromptRun.exists_pass round hlater ⟨hend, hrung, ?_⟩
      intro expiry hexpiry
      exact absurd (hset.symm.trans hexpiry) (by simp)
    | some sleeper =>
      by_cases hfirst : watch.Prompt (.pass later)
      · exact PromptRun.exists_pass round hlater hfirst
      · obtain ⟨past, watch', hrun, harrivals, hnext, hmore, hnow'⟩ := h.exists_woken hmin hsleeper
        have hbefore : watch'.now ≤ later := by
          rcases hnow' with ⟨hset, hrung⟩ | ⟨-, hsame⟩
          · by_contra hafter
            exact hfirst (prompt_pass hend hrung hset (not_le.1 hafter).le)
          · exact hsame.trans_le hlater
        have hbound := hnext.length_le
        obtain ⟨past', watch'', hrun', harrivals', hlast⟩ := ih _ (by omega) hnext hbefore rfl
        refine ⟨past ++ past', watch'', hrun.trans hrun', ?_, hlast⟩
        rw [arrivals_append, harrivals, harrivals', List.append_nil]

/-- Without further senders the run can go on until all have gone. -/
theorem exists_all (hmin : 0 ≤ line.meter.minWait) {gone : List (Time × α)} {watch : Watch α}
    (h : InTurn round line asked gone watch) :
    ∃ past watch', PromptRun round watch past watch' ∧ arrivals past = [] ∧
      gone ++ Watch.gone round past = line.grants round asked := by
  induction hleft : asked.length - gone.length using Nat.strong_induction_on
    generalizing gone watch with
  | _ left ih =>
    cases hsleeper : watch.limiter.sleeper with
    | none =>
      obtain ⟨-, -, hall⟩ := h.quiet hsleeper
      exact ⟨[], watch, .nil watch, rfl, (List.append_nil gone).trans hall⟩
    | some sleeper =>
      obtain ⟨past, watch', hrun, harrivals, hnext, hmore, -⟩ := h.exists_woken hmin hsleeper
      have hbound := hnext.length_le
      obtain ⟨past', watch'', hrun', harrivals', hall⟩ := ih _ (by omega) hnext rfl
      refine ⟨past ++ past', watch'', hrun.trans hrun', ?_, ?_⟩
      · rw [arrivals_append, harrivals, harrivals', List.append_nil]
      · rw [gone_append, ← List.append_assoc]
        exact hall

end InTurn

/-! ## 6. The refinement -/

/-- A fresh limiter is in step with the blocking algorithm, before anybody asks. -/
theorem InTurn.new (round : Number.Rounding) {limit : Nat} {limiter : Limiter α}
    (hnew : Limiter.new limit = .ok limiter) {now : Time} (hend : now ≤ endOfTime) :
    0 ≤ limiter.meter.minWait ∧
      InTurn round { meter := limiter.meter, free := now } [] [] { limiter, now } := by
  unfold Limiter.new Meter.new at hnew
  split at hnew
  · cases hnew
  · cases hnew
    exact ⟨Int.natCast_nonneg 1000000, .idle rfl rfl le_rfl hend⟩

/-- **A limiter refines the blocking algorithm.**  In a prompt run of a fresh limiter, the senders
that have gone are a front part of those the algorithm lets go, with its times and in order of
arrival; whoever's time has passed has gone; and the run can go on, without further senders, until
all have gone. -/
theorem PromptRun.refines_blocking {limit : Nat} {limiter : Limiter α} {now : Time}
    {watch : Watch α} {past : List (Watch α × Move α)} {granted : List (Time × α)}
    (hnew : Limiter.new limit = .ok limiter) (hend : now ≤ endOfTime)
    (hrun : PromptRun round { limiter, now } past watch)
    (hgranted : granted
      = Blocking.grants round { meter := limiter.meter, free := now } (arrivals past)) :
    granted.map Prod.snd = (arrivals past).map Prod.snd ∧
      gone round past <+: granted ∧
      (∀ n (hn : n < granted.length), granted[n].1 < watch.now → n < (gone round past).length) ∧
      ∃ past' watch', PromptRun round watch past' watch' ∧ arrivals past' = [] ∧
        gone round (past ++ past') = granted := by
  obtain ⟨hmin, hstart⟩ := InTurn.new round hnew hend
  have hstep := InTurn.run hmin hrun.1 hrun.2 hstart
  rw [List.nil_append, List.nil_append] at hstep
  subst hgranted
  refine ⟨Blocking.grants_senders _ _, hstep.front, hstep.punctual hmin, ?_⟩
  obtain ⟨past', watch', hrun', harrivals, hall⟩ := hstep.exists_all hmin
  exact ⟨past', watch', hrun', harrivals, (gone_append round past past').trans hall⟩

/-- Senders that ask in order of time do so in a prompt run. -/
theorem exists_promptRun {limit : Nat} {limiter : Limiter α} {now : Time}
    (hnew : Limiter.new limit = .ok limiter) (hend : now ≤ endOfTime) (asked : List (Time × α)) :
    (∀ entry ∈ asked, now ≤ entry.1 ∧ entry.1 ≤ endOfTime) →
    asked.Pairwise (fun first second => first.1 ≤ second.1) →
    ∃ past watch, PromptRun round { limiter, now } past watch ∧ arrivals past = asked ∧
      ∀ later, now ≤ later → (∀ entry ∈ asked, entry.1 ≤ later) → watch.now ≤ later := by
  obtain ⟨hmin, hstart⟩ := InTurn.new round hnew hend
  induction asked using List.reverseRecOn with
  | nil =>
    intro _ _
    exact ⟨[], _, .nil _, rfl, fun later hlater _ => hlater⟩
  | append_singleton asked entry ih =>
    intro hwithin hsorted
    obtain ⟨hbefore, -, hlast⟩ := List.pairwise_append.1 hsorted
    obtain ⟨past, watch, hrun, harrivals, hnow⟩ :=
      ih (fun other hother => hwithin other (List.mem_append_left _ hother)) hbefore
    have hstep := InTurn.run hmin hrun.1 hrun.2 hstart
    obtain ⟨hafter, hclock⟩ := hwithin entry (by simp)
    have hentry : watch.now ≤ entry.1 := by
      refine hnow entry.1 hafter ?_
      intro other hother
      exact hlast other hother entry (List.mem_singleton.2 rfl)
    obtain ⟨past', watch', hrun', harrivals', hnow'⟩ := hstep.exists_later hmin hentry hclock
    refine ⟨past ++ past' ++ [(watch', .acquire entry.2)], _,
      (hrun.trans hrun').trans (.acquire watch' entry.2), ?_, ?_⟩
    · rw [arrivals_append, arrivals_append, harrivals, harrivals', List.append_nil]
      change asked ++ [(watch'.now, entry.2)] = asked ++ [entry]
      rw [hnow']
    · intro later _ hall
      rw [turn_acquire_now, hnow']
      exact hall entry (by simp)

/-- Three senders at ten a second, the third while the second one sleeps. -/
def threeInTurn : List (Watch Nat × Move Nat) :=
  trail Number.binary64 { limiter := { meter := { limit := 10 } }, now := 0 }
    [.acquire 1, .acquire 2, .pass 50000000, .acquire 3, .pass 100000000, .ring,
      .wake fun _ => 100000000]

/-- The second sender goes after a tenth of a second; the run can go on until the third has gone,
a tenth of a second later. -/
theorem PromptRun.refines_blocking_of_three :
    gone Number.binary64 threeInTurn = [(0, 1), (100000000, 2)] ∧
      ∃ past watch, PromptRun Number.binary64 { limiter := { meter := { limit := 10 } }, now := 0 }
          (threeInTurn ++ past) watch ∧
        gone Number.binary64 (threeInTurn ++ past) = [(0, 1), (100000000, 2), (200000000, 3)] := by
  have hgranted : Blocking.grants Number.binary64 { meter := { limit := 10 }, free := 0 }
      (arrivals threeInTurn) = [(0, 1), (100000000, 2), (200000000, 3)] := by decide +kernel
  have hrun : PromptRun Number.binary64 { limiter := { meter := { limit := 10 } }, now := 0 }
      threeInTurn _ :=
    .cons trivial trivial <| .cons trivial trivial <|
    .cons (by simp only [Allows]; decide +kernel)
      (@prompt_pass Nat _ _ 100000000 (by decide) (by decide +kernel) (by decide +kernel)
        (by decide)) <|
    .cons trivial trivial <|
    .cons (by simp only [Allows]; decide +kernel)
      (@prompt_pass Nat _ _ 100000000 (by decide) (by decide +kernel) (by decide +kernel)
        (by decide)) <|
    .cons ⟨100000000, by decide +kernel, by decide +kernel⟩ trivial <|
    .cons ⟨by decide +kernel, by decide +kernel, fun _ _ _ => Int.le_refl _⟩
      (by funext; decide +kernel) <|
    .nil _
  obtain ⟨-, -, -, past, watch, hmore, -, hgone⟩ := PromptRun.refines_blocking
    (show Limiter.new 10 = .ok { meter := { limit := 10 } } from rfl) (by decide) hrun
    hgranted.symm
  exact ⟨by decide +kernel, past, watch, hrun.trans hmore, hgone⟩

/-- Two senders at one a second, half a second before the clock ends. -/
def twoInTurn : List (Watch Nat × Move Nat) :=
  trail Number.binary64 { limiter := { meter := { limit := 1 } }, now := 0 }
    [.pass (endOfTime - 500000000), .acquire 1, .acquire 2, .pass endOfTime, .ring,
      .wake fun _ => endOfTime]

/-- **The last sleeper goes with the clock.**  The second sender takes its shot when the first one
has gone, and has to sleep a second; its wake runs exactly when its timer expires, and that is half
a second later. -/
theorem PromptRun.woken_with_the_clock :
    let meter : Meter := { limit := 1 }
    let start : Time := endOfTime - 500000000
    let first := meter.shot Number.binary64 start
    let second := first.1.shot Number.binary64 (max start start)
    Limiter.new 1 = .ok ({ meter } : Limiter Nat) ∧
      (∃ watch, PromptRun Number.binary64 { limiter := { meter }, now := 0 } twoInTurn watch) ∧
      arrivals twoInTurn = [(start, 1), (start, 2)] ∧ first.2 = 0 ∧ second.2 = 1000000000 ∧
      gone Number.binary64 twoInTurn = [(start, 1), (endOfTime, 2)] ∧
      endOfTime ≠ max start start + second.2 := by
  intro meter start first second
  have hrun : PromptRun Number.binary64 { limiter := { meter }, now := 0 } twoInTurn _ :=
    .cons (by simp only [Allows]; decide +kernel)
      ⟨by decide, by decide +kernel, fun _ hset => nomatch hset⟩ <|
    .cons trivial trivial <| .cons trivial trivial <|
    .cons (by simp only [Allows]; decide +kernel)
      (@prompt_pass Nat _ _ endOfTime le_rfl (by decide +kernel) (by decide +kernel) le_rfl) <|
    .cons ⟨endOfTime, by decide +kernel, by decide +kernel⟩ trivial <|
    .cons ⟨by decide +kernel, by decide +kernel, fun _ _ _ => Int.le_refl _⟩
      (by funext; decide +kernel) <|
    .nil _
  exact ⟨rfl, ⟨_, hrun⟩, by decide +kernel, by decide +kernel, by decide +kernel,
    by decide +kernel, by decide +kernel⟩

end Watch

end IcmpEcho.Rate
