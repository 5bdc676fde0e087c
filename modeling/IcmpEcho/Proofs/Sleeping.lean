/-
# A sleep that an old wake ends

A sender that is put to sleep is told to go when the wake of its sleep runs.  A wake is posted when
the timer expires, and cannot be taken back; and a wake that runs does not ask whose it is: if the
flag is set, it ends the sleep there is.

So if the senders are given up while a wake is posted, and another sender is put to sleep before
that wake runs, the wake ends the new sleep at once (`woken_too_early`).  A limiter that is never
given up at such a moment ends each sleep by its own wake, when it is over (`Calm`).

A `Diary` says what happened in a use of a limiter: when each sleep was begun and for how long,
which wake ended which sleep, which wakes were posted when the senders were given up, and who was
told what.  **A sender is told to go when its sleep is over** (`sleeps_its_time`), or the wake of an
earlier sleep ended it, and then the senders were once given up with a wake posted.

No timer can be set past the end of the clock: a sleep that would last longer is over when the clock
ends (`Sleep.over`).
-/
import Mathlib
import IcmpEcho.Proofs.Custody

namespace IcmpEcho.Rate

variable {α : Type} {round : Number.Rounding}

namespace Custody

/-! ## 1. A diary -/

/-- A sleep that was begun. -/
structure Sleep (α : Type) where
  number : Nat
  sender : α
  start : Time
  wait : Time
  deriving DecidableEq

/-- When the timer of a sleep expires: the clock has an end. -/
def Sleep.over (sleep : Sleep α) : Time := timerEnd sleep.start sleep.wait

/-- A sleep that was ended by a wake. -/
structure Rousal (α : Type) where
  /-- The sleep that was ended. -/
  sleep : Nat
  sender : α
  /-- The sleep whose timer posted the wake. -/
  wake : Nat
  time : Time
  deriving DecidableEq

/-- What happened in the use of a limiter. -/
structure Diary (α : Type) where
  slept : List (Sleep α) := []
  roused : List (Rousal α) := []
  /-- The wakes that were posted, for each time the senders were given up. -/
  givenUp : List (List Nat) := []
  /-- The senders that were told, with what and when. -/
  told : List (α × ErrorCode × Time) := []

namespace Diary

/-- A sender asks, and goes or is put to sleep or waits. -/
def acquire (round : Number.Rounding) (diary : Diary α) (custody : Custody α) (sender : α) :
    Diary α :=
  let now := custody.watch.now
  match (custody.watch.limiter.acquire round now sender).2 with
  | .go => { diary with told := diary.told ++ [(sender, .success, now)] }
  | .sleep wait =>
    { diary with
      slept := diary.slept ++ [{ number := custody.latest + 1, sender, start := now, wait }] }
  | .queue => diary

/-- The sleep that begins with a wake. -/
def begun (number : Nat) (rousing : Rousing α) : List (Sleep α) :=
  match rousing.limiter.sleeper, rousing.wait with
  | some sender, some wait => [{ number, sender, start := rousing.now, wait }]
  | _, _ => []

/-- A wake ends the sleep there is, and another one may begin. -/
def wake (round : Number.Rounding) (diary : Diary α) (custody : Custody α) (clock : Nat → Time) :
    Diary α :=
  let now := custody.watch.now
  { diary with
    roused := diary.roused ++ custody.watch.limiter.sleeper.toList.map fun sender =>
      { sleep := custody.latest, sender, wake := custody.posted.headD 0, time := now }
    slept := diary.slept
      ++ begun (custody.latest + 1) (custody.watch.limiter.wakeAlong round now clock) }

/-- The first of some senders is told. -/
def tell (diary : Diary α) (senders : List α) (code : ErrorCode) (now : Time) : Diary α :=
  { diary with told := diary.told ++ (senders.head?.map fun sender => (sender, code, now)).toList }

/-- The diary after an act; it is taken down before the act. -/
def after (round : Number.Rounding) (diary : Diary α) (custody : Custody α) : Act α → Diary α
  | .move (.acquire sender) => diary.acquire round custody sender
  | .move .cancel => { diary with givenUp := diary.givenUp ++ [custody.posted] }
  | .move (.wake clock) => diary.wake round custody clock
  | .release => diary.tell custody.batch .success custody.watch.now
  | .refuse => diary.tell custody.refused .aborted custody.watch.now
  | .move (.pass _) => diary
  | .move .ring => diary

/-- The diary of some acts. -/
def afterAll (round : Number.Rounding) : Diary α → Custody α → List (Act α) → Diary α
  | diary, _, [] => diary
  | diary, custody, act :: acts =>
    afterAll round (diary.after round custody act) (custody.after round act) acts

end Diary

/-- One act after another, each as it is allowed. -/
def AllowsAll (round : Number.Rounding) : Custody α → List (Act α) → Prop
  | _, [] => True
  | custody, act :: acts => custody.Allows act ∧ AllowsAll round (custody.after round act) acts

/-! ## 2. What is noted of an act -/

variable {custody custody' : Custody α} {diary : Diary α} {senders : List α}

/-- **What becomes of a sender that asks,** and what is noted of it.  It waits behind the sleeper,
or it is told to go, or it is put to sleep. -/
theorem ask_cases (round : Number.Rounding) (custody : Custody α) (diary : Diary α) (sender : α) :
    let watch := custody.watch
    let limiter := watch.limiter
    (limiter.sleeper.isSome = true ∧ diary.acquire round custody sender = diary ∧
        custody.acquire round sender = { custody with watch :=
          { watch with limiter := { limiter with waiting := limiter.waiting ++ [sender] } } }) ∨
      limiter.sleeper = none ∧ ∃ meter,
        (diary.acquire round custody sender
            = { diary with told := diary.told ++ [(sender, .success, watch.now)] } ∧
          custody.acquire round sender = { custody with
            watch := { watch with limiter := { limiter with meter } }
            told := custody.told ++ [(sender, .success)] }) ∨
        ∃ wait, diary.acquire round custody sender
            = { diary with slept := diary.slept
                  ++ [{ number := custody.latest + 1, sender, start := watch.now, wait }] } ∧
          custody.acquire round sender = { custody with
            watch := { watch with
              limiter := { limiter with meter, sleeper := some sender }
              alarm := some (timerEnd watch.now wait) }
            sleeping := true
            latest := custody.latest + 1 } := by
  intro watch limiter
  rcases limiter.acquire_cases round watch.now sender with
    ⟨hs, hacquire⟩ | ⟨hs, meter, hacquire | ⟨wait, hacquire⟩⟩
  · left
    refine ⟨hs, ?_, ?_⟩
    · simp only [Diary.acquire, hacquire, watch, limiter]
    · simp only [acquire, Watch.turn, hacquire, watch, limiter]
  · right
    refine ⟨hs, meter, .inl ⟨?_, ?_⟩⟩
    · simp only [Diary.acquire, hacquire, watch, limiter]
    · simp only [acquire, Watch.turn, hacquire, watch, limiter]
  · right
    refine ⟨hs, meter, .inr ⟨wait, ?_, ?_⟩⟩
    · simp only [Diary.acquire, hacquire, watch, limiter]
    · simp only [acquire, Watch.turn, hacquire, watch, limiter]

/-- **What a wake does,** and what is noted of it.  Without a sleeper it only is posted no more.
Otherwise the sleeper goes, and some that wait behind it; the next one, if there is one, is put to
sleep. -/
theorem wake_cases (round : Number.Rounding) (custody : Custody α) (diary : Diary α)
    {clock : Nat → Time} (hnow : custody.watch.now ≤ clock 0) (hclock : Monotone clock) :
    let watch := custody.watch
    let spent := { custody with posted := custody.posted.tail }
    (watch.limiter.sleeper = none ∧ diary.wake round custody clock = diary ∧
        custody.wake round clock
          = { spent with watch := { watch with rung := watch.rung - 1 }, sleeping := false }) ∨
      ∃ sleeper, watch.limiter.sleeper = some sleeper ∧ ∃ gone meter now, watch.now ≤ now ∧
        let rousal := { sleep := custody.latest, sender := sleeper, wake := custody.posted.headD 0,
                        time := watch.now }
        let roused := { diary with roused := diary.roused ++ [rousal] }
        let freed := { spent with batch := custody.batch ++ sleeper :: gone }
        (watch.limiter.waiting = gone ∧ diary.wake round custody clock = roused ∧
            custody.wake round clock
              = { freed with
                  watch := { limiter := { meter }, now, alarm := watch.alarm,
                             rung := watch.rung - 1 }
                  sleeping := false }) ∨
          ∃ next rest wait, watch.limiter.waiting = gone ++ next :: rest ∧
            diary.wake round custody clock
              = { roused with slept := diary.slept
                    ++ [{ number := custody.latest + 1, sender := next, start := now, wait }] } ∧
            custody.wake round clock
              = { freed with
                  watch := { limiter := { meter, sleeper := some next, waiting := rest }, now,
                             alarm := some (timerEnd now wait), rung := watch.rung - 1 }
                  sleeping := true
                  latest := custody.latest + 1 } := by
  intro watch spent
  cases hs : watch.limiter.sleeper with
  | none =>
    left
    have hrousing : watch.limiter.wakeAlong round watch.now clock
        = { limiter := watch.limiter, now := watch.now } := by
      simp only [Limiter.wakeAlong, hs]
    refine ⟨rfl, ?_, ?_⟩
    · simp [Diary.wake, hrousing, hs, Diary.begun, watch]
    · simp [Custody.wake, Watch.turn, hrousing, Rousing.alarm, spent, watch]
  | some sleeper =>
    right
    obtain ⟨hlater, -⟩ := Limiter.drainAlong_later round watch.limiter.waiting watch.now clock
      (watch.limiter.meter.finishWait watch.now) hnow hclock
    obtain ⟨gone, meter, now,
        ⟨hwaiting, hdrain⟩ | ⟨next, rest, wait, hwaiting, hdrain⟩⟩ :=
      Limiter.drainAlong_cases round watch.limiter.waiting watch.now clock
        (watch.limiter.meter.finishWait watch.now)
    all_goals
      rw [hdrain] at hlater
      refine ⟨sleeper, rfl, gone.map Prod.snd, meter, now, hlater, ?_⟩
    · left
      refine ⟨hwaiting, ?_, ?_⟩
      · simp [Diary.wake, Limiter.wakeAlong, hs, hdrain, Diary.begun, watch]
      · simp [Custody.wake, Watch.turn, Limiter.wakeAlong, hs, hdrain, Rousing.alarm, spent, watch]
    · right
      refine ⟨next, rest, wait, hwaiting, ?_, ?_⟩
      · simp [Diary.wake, Limiter.wakeAlong, hs, hdrain, Diary.begun, watch]
      · simp [Custody.wake, Watch.turn, Limiter.wakeAlong, hs, hdrain, Rousing.alarm, spent, watch]

/-! ## 3. Each wake belongs to a sleep that is over -/

/-- What a diary says of the sleeps and of the wakes that are posted. -/
structure Timed (diary : Diary α) (custody : Custody α) : Prop where
  numbered : ∀ sleep ∈ diary.slept, sleep.number ≤ custody.latest
  once : ∀ sleep ∈ diary.slept, ∀ sleep' ∈ diary.slept,
    sleep.number = sleep'.number → sleep = sleep'
  sleeper : ∀ sender, custody.watch.limiter.sleeper = some sender →
    ∃ sleep ∈ diary.slept, sleep.number = custody.latest ∧ sleep.sender = sender
  timer : ∀ expiry, custody.watch.alarm = some expiry →
    ∃ sleep ∈ diary.slept, sleep.number = custody.latest ∧ sleep.over = expiry
  due : ∀ wake ∈ custody.posted,
    ∃ sleep ∈ diary.slept, sleep.number = wake ∧ sleep.over ≤ custody.watch.now
  roused : ∀ rousal ∈ diary.roused, rousal.time ≤ custody.watch.now ∧ rousal.wake ≤ rousal.sleep ∧
    ∃ sleep ∈ diary.slept, sleep.number = rousal.wake ∧ sleep.over ≤ rousal.time

namespace Timed

theorem fresh (limiter : Limiter α) (now : Time) (h : limiter.sleeper = none) :
    Timed {} ({ watch := { limiter, now } } : Custody α) where
  numbered _ hmem := nomatch hmem
  once _ hmem := nomatch hmem
  sleeper sender hs := by
    rw [h] at hs
    cases hs
  timer _ hnone := nomatch hnone
  due _ hmem := nomatch hmem
  roused _ hmem := nomatch hmem

/-- Time passes, wakes are posted no more, the sleeper or the timer is given up. -/
theorem settle (h : Timed diary custody) (hlatest : custody'.latest = custody.latest)
    (hnow : custody.watch.now ≤ custody'.watch.now)
    (hsleeper : ∀ sender, custody'.watch.limiter.sleeper = some sender →
      custody.watch.limiter.sleeper = some sender)
    (halarm : ∀ expiry, custody'.watch.alarm = some expiry → custody.watch.alarm = some expiry)
    (hposted : custody'.posted ⊆ custody.posted) : Timed diary custody' where
  numbered sleep hsleep := hlatest ▸ h.numbered sleep hsleep
  once := h.once
  sleeper sender hs := hlatest ▸ h.sleeper sender (hsleeper sender hs)
  timer expiry hexpiry := hlatest ▸ h.timer expiry (halarm expiry hexpiry)
  due wake hwake := by
    obtain ⟨sleep, hsleep, hnumber, hover⟩ := h.due wake (hposted hwake)
    exact ⟨sleep, hsleep, hnumber, hover.trans hnow⟩
  roused rousal hrousal := by
    obtain ⟨htime, hrest⟩ := h.roused rousal hrousal
    exact ⟨htime.trans hnow, hrest⟩

/-- A sleep begins, and the timer is set for it. -/
theorem begin (h : Timed diary custody) {sleep : Sleep α}
    (hnumber : sleep.number = custody.latest + 1)
    (hlatest : custody'.latest = custody.latest + 1)
    (hnow : custody.watch.now ≤ custody'.watch.now)
    (hsleeper : custody'.watch.limiter.sleeper = some sleep.sender)
    (halarm : custody'.watch.alarm = some sleep.over)
    (hposted : custody'.posted ⊆ custody.posted) :
    Timed { diary with slept := diary.slept ++ [sleep] } custody' := by
  have hold : ∀ {old}, old ∈ diary.slept → old ∈ diary.slept ++ [sleep] :=
    fun hmem => List.mem_append_left _ hmem
  have hnew : sleep ∈ diary.slept ++ [sleep] := List.mem_append_right _ (List.mem_singleton_self _)
  have hless : ∀ old ∈ diary.slept, old.number < sleep.number := by
    intro old hmem
    have := h.numbered old hmem
    omega
  constructor
  case numbered =>
    intro old hmem
    rcases List.mem_append.1 hmem with hmem | hmem
    · have := h.numbered old hmem
      omega
    · rw [List.mem_singleton.1 hmem]
      omega
  case once =>
    intro a ha b hb hab
    rcases List.mem_append.1 ha with ha | ha <;> rcases List.mem_append.1 hb with hb | hb
    · exact h.once a ha b hb hab
    · rw [List.mem_singleton.1 hb] at hab
      exact absurd hab (hless a ha).ne
    · rw [List.mem_singleton.1 ha] at hab
      exact absurd hab (hless b hb).ne'
    · rw [List.mem_singleton.1 ha, List.mem_singleton.1 hb]
  case sleeper =>
    intro sender hs
    exact ⟨sleep, hnew, hnumber.trans hlatest.symm, Option.some.inj (hsleeper.symm.trans hs)⟩
  case timer =>
    intro expiry hexpiry
    exact ⟨sleep, hnew, hnumber.trans hlatest.symm, Option.some.inj (halarm.symm.trans hexpiry)⟩
  case due =>
    intro wake hwake
    obtain ⟨old, hmem, hwas, hover⟩ := h.due wake (hposted hwake)
    exact ⟨old, hold hmem, hwas, hover.trans hnow⟩
  case roused =>
    intro rousal hrousal
    obtain ⟨htime, hwake, old, hmem, hrest⟩ := h.roused rousal hrousal
    exact ⟨htime.trans hnow, hwake, old, hold hmem, hrest⟩

/-- The latest sleep is ended by a wake that is posted. -/
theorem rouse (h : Timed diary custody) {wake : Nat} (hwake : wake ∈ custody.posted)
    (sender : α) :
    Timed { diary with roused := diary.roused ++ [{ sleep := custody.latest, sender, wake,
                                                    time := custody.watch.now }] } custody := by
  refine { h with roused := fun rousal hrousal => ?_ }
  rcases List.mem_append.1 hrousal with hold | hnew
  · exact h.roused rousal hold
  · obtain rfl := List.mem_singleton.1 hnew
    obtain ⟨sleep, hsleep, rfl, hover⟩ := h.due wake hwake
    exact ⟨le_rfl, h.numbered sleep hsleep, sleep, hsleep, rfl, hover⟩

theorem headD_mem {wakes : List Nat} (h : 0 < wakes.length) : wakes.headD 0 ∈ wakes := by
  cases wakes with
  | nil => cases h
  | cons wake rest => exact List.mem_cons_self

/-- **One act** keeps the diary. -/
theorem after (h : Timed diary custody) (hkept : Kept senders custody) {act : Act α}
    (hact : custody.Allows act) :
    Timed (diary.after round custody act) (custody.after round act) := by
  cases act with
  | move move =>
    cases move with
    | acquire sender =>
      rcases custody.ask_cases round diary sender with
        ⟨-, hdiary, hask⟩ | ⟨-, meter, ⟨hdiary, hask⟩ | ⟨wait, hdiary, hask⟩⟩
      · simp only [Diary.after, Custody.after, hdiary, hask]
        exact { h with }
      · simp only [Diary.after, Custody.after, hdiary, hask]
        exact { h with }
      · simp only [Diary.after, Custody.after, hdiary, hask]
        exact h.begin rfl rfl le_rfl rfl rfl fun _ hmem => hmem
    | cancel =>
      exact { h with
        sleeper := fun sender hnone => by cases hnone
        timer := fun expiry hnone => by cases hnone }
    | pass now => exact h.settle rfl hact (fun _ hs => hs) (fun _ ha => ha) fun _ hmem => hmem
    | ring =>
      obtain ⟨expiry, halarm, hover⟩ := hact
      refine { h with timer := fun _ hnone => by cases hnone
                      due := fun wake hwake => ?_ }
      rcases List.mem_append.1 hwake with hold | hnew
      · exact h.due wake hold
      · obtain ⟨sleep, hsleep, hnumber, rfl⟩ := h.timer expiry halarm
        rw [List.mem_singleton.1 hnew]
        exact ⟨sleep, hsleep, hnumber, hover⟩
    | wake clock =>
      obtain ⟨⟨hrung, hnow, hclock⟩, -⟩ := hact
      have hmine : custody.posted.headD 0 ∈ custody.posted := headD_mem (hkept.wakes ▸ hrung)
      have htail : custody.posted.tail ⊆ custody.posted := List.tail_subset _
      -- The sleep there is ends by the first wake that is posted, whose timer was due.
      rcases custody.wake_cases round diary hnow hclock with
        ⟨-, hdiary, hwake⟩ | ⟨sleeper, -, gone, meter, now, hlater,
          ⟨-, hdiary, hwake⟩ | ⟨next, rest, wait, -, hdiary, hwake⟩⟩
      · simp only [Diary.after, Custody.after, hdiary, hwake]
        exact h.settle rfl le_rfl (fun _ hs => hs) (fun _ ha => ha) htail
      · simp only [Diary.after, Custody.after, hdiary, hwake]
        exact (h.rouse hmine sleeper).settle rfl hlater (fun _ hnone => by cases hnone)
          (fun _ ha => ha) htail
      · simp only [Diary.after, Custody.after, hdiary, hwake]
        exact (h.rouse hmine sleeper).begin rfl rfl hlater rfl rfl htail
  | release => exact { h with }
  | refuse => exact { h with }

end Timed

/-! ## 4. Without a wake left behind -/

/-- Whenever the senders were given up, no wake was posted. -/
def Diary.GivenUpInTime (diary : Diary α) : Prop := ∀ posted ∈ diary.givenUp, posted = []

/-- Each sleep is ended by its own wake, and a wake that is posted is that of the sleep there is. -/
structure Calm (diary : Diary α) (custody : Custody α) : Prop where
  own : ∀ rousal ∈ diary.roused, rousal.wake = rousal.sleep
  mail : custody.posted = [] ∨
    custody.posted = [custody.latest] ∧ custody.watch.alarm = none ∧ custody.sleeping = true
  timer : ∀ expiry, custody.watch.alarm = some expiry → custody.sleeping = true

namespace Calm

/-- Who is not asleep has no wake posted. -/
theorem posted_eq (h : Calm diary custody) (hawake : custody.sleeping = false) :
    custody.posted = [] := by
  rcases h.mail with hnone | ⟨-, -, hsleeps⟩
  · exact hnone
  · rw [hawake] at hsleeps
    cases hsleeps

/-- **One act** leaves no wake behind, if it does not give up with one posted. -/
theorem after (h : Calm diary custody) (hkept : Kept senders custody) {act : Act α}
    (hact : custody.Allows act) (htime : (diary.after round custody act).GivenUpInTime) :
    Calm (diary.after round custody act) (custody.after round act) := by
  cases act with
  | move move =>
    cases move with
    | acquire sender =>
      rcases custody.ask_cases round diary sender with
        ⟨-, hdiary, hask⟩ | ⟨hs, meter, ⟨hdiary, hask⟩ | ⟨wait, hdiary, hask⟩⟩
      · simp only [Diary.after, Custody.after, hdiary, hask]
        exact { h with }
      · simp only [Diary.after, Custody.after, hdiary, hask]
        exact { h with }
      · have hawake : custody.sleeping = false := by
          rw [hkept.flag, hs]
          rfl
        simp only [Diary.after, Custody.after, hdiary, hask]
        exact { h with mail := .inl (h.posted_eq hawake), timer := fun _ _ => rfl }
    | cancel =>
      have hnone : custody.posted = [] :=
        htime custody.posted (List.mem_append_right _ (List.mem_singleton_self _))
      exact { h with mail := .inl hnone, timer := fun expiry hset => by cases hset }
    | pass now => exact { h with }
    | ring =>
      obtain ⟨expiry, halarm, -⟩ := hact
      have hnone : custody.posted = [] := by
        rcases h.mail with hnone | ⟨-, hunset, -⟩
        · exact hnone
        · rw [halarm] at hunset
          cases hunset
      refine { h with mail := .inr ⟨?_, rfl, h.timer expiry halarm⟩
                      timer := fun expiry hset => by cases hset }
      simp only [Custody.after, hnone, List.nil_append]
    | wake clock =>
      obtain ⟨⟨hrung, hnow, hclock⟩, -⟩ := hact
      -- A wake is posted, so it is that of the sleep there is, and the only one.
      obtain ⟨hmail, hunset, hsleeps⟩ : custody.posted = [custody.latest] ∧
          custody.watch.alarm = none ∧ custody.sleeping = true := by
        refine h.mail.resolve_left fun hnone => ?_
        rw [hkept.wakes, hnone] at hrung
        cases hrung
      have hown : ∀ sender, ∀ rousal ∈ diary.roused ++ [{
          sleep := custody.latest, sender, wake := custody.posted.headD 0,
          time := custody.watch.now }], rousal.wake = rousal.sleep := by
        intro sender rousal hrousal
        rcases List.mem_append.1 hrousal with hold | hnew
        · exact h.own rousal hold
        · rw [List.mem_singleton.1 hnew, hmail]
          rfl
      have htail : custody.posted.tail = [] := by
        rw [hmail]
        rfl
      rcases custody.wake_cases round diary hnow hclock with
        ⟨hs, -, -⟩ | ⟨sleeper, -, gone, meter, now, -,
          ⟨-, hdiary, hwake⟩ | ⟨next, rest, wait, -, hdiary, hwake⟩⟩
      · rw [hkept.flag, hs] at hsleeps
        cases hsleeps
      · simp only [Diary.after, Custody.after, hdiary, hwake]
        refine ⟨hown sleeper, .inl htail, fun expiry hset => ?_⟩
        rw [hunset] at hset
        cases hset
      · simp only [Diary.after, Custody.after, hdiary, hwake]
        exact ⟨hown sleeper, .inl htail, fun _ _ => rfl⟩
  | release => exact { h with }
  | refuse => exact { h with }

end Calm

/-! ## 5. Each sender sleeps once, and is told when it was roused -/

/-- A sleeper is nowhere else. -/
theorem Kept.sleeper_apart (h : Kept senders custody) (hdistinct : senders.Nodup) {sender : α}
    (hs : custody.watch.limiter.sleeper = some sender) :
    sender ∈ senders ∧ sender ∉ custody.watch.limiter.waiting ∧ sender ∉ custody.batch ∧
      sender ∉ custody.told.map Prod.fst := by
  classical
  have hheld : custody.watch.limiter.held = sender :: custody.watch.limiter.waiting := by
    rw [Limiter.held, hs]
    rfl
  have hcount : senders.count sender ≤ 1 := List.nodup_iff_count_le_one.1 hdistinct sender
  have hplaces : senders.count sender = (custody.told.map Prod.fst).count sender
      + custody.watch.limiter.held.count sender + custody.batch.count sender
      + custody.refused.count sender := h.places (· == sender)
  rw [hheld, List.count_cons_self] at hplaces
  refine ⟨h.order.subset (by rw [hheld]; exact List.mem_cons_self), ?_, ?_, ?_⟩
  all_goals
    refine List.count_eq_zero.1 ?_
    omega

/-- What a diary says of each sender. -/
structure Named (senders : List α) (diary : Diary α) (custody : Custody α) : Prop where
  asked : ∀ sleep ∈ diary.slept, sleep.sender ∈ senders
  queue : ∀ sleep ∈ diary.slept, sleep.sender ∉ custody.watch.limiter.waiting
  sleeper : ∀ sleep ∈ diary.slept, custody.watch.limiter.sleeper = some sleep.sender →
    sleep.number = custody.latest
  batch : ∀ sleep ∈ diary.slept, sleep.sender ∈ custody.batch →
    ∃ rousal ∈ diary.roused, rousal.sleep = sleep.number ∧ rousal.time ≤ custody.watch.now
  told : ∀ sleep ∈ diary.slept, ∀ time, (sleep.sender, .success, time) ∈ diary.told →
    ∃ rousal ∈ diary.roused, rousal.sleep = sleep.number ∧ rousal.time ≤ time
  listed : diary.told.map (fun entry => (entry.1, entry.2.1)) = custody.told

namespace Named

theorem fresh (limiter : Limiter α) (now : Time) :
    Named [] {} ({ watch := { limiter, now } } : Custody α) where
  asked _ hmem := nomatch hmem
  queue _ hmem := nomatch hmem
  sleeper _ hmem := nomatch hmem
  batch _ hmem := nomatch hmem
  told _ hmem := nomatch hmem
  listed := rfl

/-- A sender that has not slept is put to sleep. -/
theorem begin (h : Named senders diary custody) {senders' : List α} {sleep : Sleep α}
    (hkept : Kept senders' custody') (hdistinct : senders'.Nodup) (hsenders : senders ⊆ senders')
    (hfresh : ∀ old ∈ diary.slept, old.sender ≠ sleep.sender)
    (hnumber : sleep.number = custody'.latest)
    (hsleeper : custody'.watch.limiter.sleeper = some sleep.sender)
    (hwaiting : custody'.watch.limiter.waiting ⊆ custody.watch.limiter.waiting)
    (hbatch : custody'.batch = custody.batch) (htold : custody'.told = custody.told)
    (hnow : custody.watch.now ≤ custody'.watch.now) :
    Named senders' { diary with slept := diary.slept ++ [sleep] } custody' := by
  -- Afterwards it is the sleeper; so it is in no batch, and was not told before it slept.
  obtain ⟨hasked, hnotWaiting, hnotBatch, hnotTold⟩ := hkept.sleeper_apart hdistinct hsleeper
  have hcases : ∀ {old}, old ∈ diary.slept ++ [sleep] → old ∈ diary.slept ∨ old = sleep :=
    fun hmem => (List.mem_append.1 hmem).imp_right List.mem_singleton.1
  constructor
  case asked =>
    intro old hmem
    rcases hcases hmem with hold | rfl
    · exact hsenders (h.asked old hold)
    · exact hasked
  case queue =>
    intro old hmem
    rcases hcases hmem with hold | rfl
    · exact fun hwaits => h.queue old hold (hwaiting hwaits)
    · exact hnotWaiting
  case sleeper =>
    intro old hmem hs
    rcases hcases hmem with hold | rfl
    · exact absurd (Option.some.inj (hs.symm.trans hsleeper)) (hfresh old hold)
    · exact hnumber
  case batch =>
    intro old hmem hin
    rcases hcases hmem with hold | rfl
    · obtain ⟨rousal, hrousal, hof, htime⟩ := h.batch old hold (hbatch ▸ hin)
      exact ⟨rousal, hrousal, hof, htime.trans hnow⟩
    · exact absurd hin hnotBatch
  case told =>
    intro old hmem time hin
    rcases hcases hmem with hold | rfl
    · exact h.told old hold time hin
    · refine absurd ?_ hnotTold
      rw [htold, ← h.listed, List.map_map]
      exact List.mem_map_of_mem hin
  case listed => exact h.listed.trans htold.symm

/-- The sleeper is roused, and some that wait behind it go with it. -/
theorem rouse (h : Named senders diary custody) {sleeper : α} {gone rest : List α} {now : Time}
    (hs : custody.watch.limiter.sleeper = some sleeper)
    (hwaiting : custody.watch.limiter.waiting = gone ++ rest) (wake : Nat) (meter : Meter)
    (hnow : custody.watch.now ≤ now) :
    Named senders
      { diary with roused := diary.roused ++ [{ sleep := custody.latest, sender := sleeper, wake,
                                                time := custody.watch.now }] }
      { custody with
        watch := { custody.watch with limiter := { meter, waiting := rest }, now }
        batch := custody.batch ++ sleeper :: gone } where
  asked := h.asked
  queue sleep hsleep hin := by
    refine h.queue sleep hsleep ?_
    rw [hwaiting]
    exact List.mem_append_right _ hin
  sleeper sleep _ hnone := nomatch hnone
  batch sleep hsleep hin := by
    -- Of those that go, only the sleeper has slept; the others waited.
    rcases List.mem_append.1 hin with hold | hnew
    · obtain ⟨rousal, hrousal, hof, htime⟩ := h.batch sleep hsleep hold
      exact ⟨rousal, List.mem_append_left _ hrousal, hof, htime.trans hnow⟩
    · rcases List.mem_cons.1 hnew with heq | hgone
      · have hlatest := h.sleeper sleep hsleep (heq ▸ hs)
        exact ⟨_, List.mem_append_right _ (List.mem_singleton_self _), hlatest.symm, hnow⟩
      · refine absurd ?_ (h.queue sleep hsleep)
        rw [hwaiting]
        exact List.mem_append_left _ hgone
  told sleep hsleep time hin := by
    obtain ⟨rousal, hrousal, hrest⟩ := h.told sleep hsleep time hin
    exact ⟨rousal, List.mem_append_left _ hrousal, hrest⟩
  listed := h.listed

/-- The first of some senders is told; if it is told to go, it was roused. -/
theorem tell (h : Named senders diary custody) {waiting batch : List α} {code : ErrorCode}
    (hgo : code = .success → waiting = custody.batch) (hbatch : batch ⊆ custody.batch)
    (refused : List α) :
    Named senders (diary.tell waiting code custody.watch.now)
      { custody with
        batch, refused, told := custody.told ++ (waiting.head?.map (·, code)).toList } where
  asked := h.asked
  queue := h.queue
  sleeper := h.sleeper
  batch sleep hsleep hin := h.batch sleep hsleep (hbatch hin)
  told sleep hsleep time hin := by
    rcases List.mem_append.1 hin with hold | hnew
    · exact h.told sleep hsleep time hold
    · obtain ⟨sender, hhead, heq⟩ := Option.map_eq_some_iff.1 (Option.mem_toList.1 hnew)
      obtain ⟨rfl, rfl, rfl⟩ :
          sender = sleep.sender ∧ code = .success ∧ custody.watch.now = time := by
        simpa using heq
      rw [hgo rfl] at hhead
      exact h.batch sleep hsleep (List.mem_of_mem_head? hhead)
  listed := by
    rw [← h.listed]
    cases hhead : waiting.head? <;> simp [Diary.tell, hhead]

theorem unasked (h : Named senders diary custody) : Named (senders ++ []) diary custody := by
  rwa [List.append_nil]

/-- **One act** keeps the diary. -/
theorem after (h : Named senders diary custody) (hkept : Kept senders custody) {act : Act α}
    (hact : custody.Allows act) (hdistinct : (senders ++ act.asks).Nodup) :
    Named (senders ++ act.asks) (diary.after round custody act) (custody.after round act) := by
  have hkept' := hkept.after round act
  have hlater : senders ⊆ senders ++ act.asks := List.subset_append_left _ _
  cases act with
  | move move =>
    cases move with
    | acquire sender =>
      have hfresh : ∀ sleep ∈ diary.slept, sleep.sender ≠ sender := by
        rintro sleep hsleep rfl
        exact (List.disjoint_of_nodup_append hdistinct) (h.asked sleep hsleep)
          (List.mem_singleton_self _)
      rcases custody.ask_cases round diary sender with
        ⟨-, hdiary, hask⟩ | ⟨-, meter, ⟨hdiary, hask⟩ | ⟨wait, hdiary, hask⟩⟩
      · simp only [Diary.after, Custody.after, hdiary, hask]
        refine { h with asked := fun sleep hsleep => hlater (h.asked sleep hsleep)
                        queue := fun sleep hsleep hin => ?_ }
        rcases List.mem_append.1 hin with hold | hnew
        · exact h.queue sleep hsleep hold
        · exact hfresh sleep hsleep (List.mem_singleton.1 hnew)
      · simp only [Diary.after, Custody.after, hdiary, hask]
        refine { h with asked := fun sleep hsleep => hlater (h.asked sleep hsleep)
                        told := fun sleep hsleep time hin => ?_
                        listed := by simp [h.listed] }
        rcases List.mem_append.1 hin with hold | hnew
        · exact h.told sleep hsleep time hold
        · exact absurd (congrArg Prod.fst (List.mem_singleton.1 hnew)) (hfresh sleep hsleep)
      · simp only [Diary.after, Custody.after, hdiary, hask]
          at hkept' ⊢
        exact h.begin hkept' hdistinct hlater hfresh rfl rfl (fun _ hin => hin) rfl rfl le_rfl
    | cancel =>
      exact unasked { h with
        queue := fun sleep hsleep hin => by cases hin
        sleeper := fun sleep hsleep hnone => by cases hnone }
    | pass now =>
      refine unasked { h with batch := fun sleep hsleep hin => ?_ }
      obtain ⟨rousal, hrousal, hof, htime⟩ := h.batch sleep hsleep hin
      exact ⟨rousal, hrousal, hof, htime.trans hact⟩
    | ring => exact unasked { h with }
    | wake clock =>
      obtain ⟨⟨-, hnow, hclock⟩, -⟩ := hact
      rcases custody.wake_cases round diary hnow hclock with
        ⟨-, hdiary, hwake⟩ | ⟨sleeper, hs, gone, meter, now, hlate,
          ⟨hwaiting, hdiary, hwake⟩ | ⟨next, rest, wait, hwaiting, hdiary, hwake⟩⟩
      · simp only [Diary.after, Custody.after, hdiary, hwake]
        exact unasked { h with }
      · simp only [Diary.after, Custody.after, hdiary, hwake]
        have hroused := h.rouse hs (hwaiting.trans (List.append_nil gone).symm)
          (custody.posted.headD 0) meter hlate
        exact unasked { hroused with }
      · have hroused := h.rouse hs hwaiting (custody.posted.headD 0) meter hlate
        simp only [Diary.after, Custody.after, hdiary, hwake] at hkept' ⊢
        refine hroused.begin hkept' hdistinct hlater ?_ rfl rfl (List.subset_cons_self _ _) rfl rfl
          le_rfl
        rintro sleep hsleep rfl
        exact hroused.queue sleep hsleep List.mem_cons_self
  | release => exact (h.tell (fun _ => rfl) (List.tail_subset _) custody.refused).unasked
  | refuse =>
    have hcode : ErrorCode.aborted ≠ .success := by decide
    exact (h.tell (fun hgo => absurd hgo hcode) (fun _ hin => hin) custody.refused.tail).unasked

end Named

/-! ## 6. Runs -/

theorem Diary.givenUp_subset (round : Number.Rounding) (diary : Diary α) (custody : Custody α)
    (act : Act α) : diary.givenUp ⊆ (diary.after round custody act).givenUp := by
  cases act with
  | move move =>
    cases move with
    | acquire sender =>
      rcases custody.ask_cases round diary sender with
        ⟨-, hdiary, hask⟩ | ⟨-, meter, ⟨hdiary, hask⟩ | ⟨wait, hdiary, hask⟩⟩
      all_goals
        simp only [Diary.after, hdiary]
        exact List.Subset.refl _
    | cancel => exact List.subset_append_left _ _
    | pass now => exact List.Subset.refl _
    | ring => exact List.Subset.refl _
    | wake clock => exact List.Subset.refl _
  | release => exact List.Subset.refl _
  | refuse => exact List.Subset.refl _

/-- A diary that is true to the custody it is kept of. -/
structure Faithful (senders : List α) (diary : Diary α) (custody : Custody α) : Prop where
  kept : Kept senders custody
  timed : Timed diary custody
  calm : diary.GivenUpInTime → Calm diary custody
  named : Named senders diary custody

namespace Faithful

theorem fresh (meter : Meter) (now : Time) :
    Faithful [] {} ({ watch := { limiter := { meter }, now } } : Custody α) where
  kept := .fresh meter now
  timed := .fresh { meter } now rfl
  calm _ :=
    { own := fun _ hmem => nomatch hmem
      mail := .inl rfl
      timer := fun _ hset => nomatch hset }
  named := .fresh { meter } now

/-- **One act** keeps a diary faithful. -/
theorem after (h : Faithful senders diary custody) {act : Act α} (hact : custody.Allows act)
    (hdistinct : (senders ++ act.asks).Nodup) :
    Faithful (senders ++ act.asks) (diary.after round custody act)
      (custody.after round act) where
  kept := h.kept.after round act
  timed := h.timed.after h.kept hact
  calm htime :=
    (h.calm fun posted hmem =>
      htime posted (diary.givenUp_subset round custody act hmem)).after h.kept hact htime
  named := h.named.after h.kept hact hdistinct

/-- **A whole run** keeps a diary faithful. -/
theorem afterAll {acts : List (Act α)} (h : Faithful senders diary custody)
    (hacts : AllowsAll round custody acts) (hdistinct : (senders ++ asked acts).Nodup) :
    Faithful (senders ++ asked acts) (diary.afterAll round custody acts)
      (custody.afterAll round acts) := by
  induction acts generalizing senders diary custody with
  | nil => simpa [asked, Diary.afterAll, Custody.afterAll] using h
  | cons act acts ih =>
    have hasked : senders ++ asked (act :: acts) = (senders ++ act.asks) ++ asked acts :=
      (List.append_assoc _ _ _).symm
    rw [hasked] at hdistinct ⊢
    exact ih (h.after hacts.1 hdistinct.of_append_left) hacts.2 hdistinct

end Faithful

/-- **A sleep lasts as long as it was begun for, unless an old wake ends it.**

A limiter was used in any way by senders that each ask once.  A sender that was put to sleep and was
told to go was told so when its sleep was over; or its sleep was ended by the wake of an earlier
sleep, which was over by then, and once the senders were given up while a wake was posted. -/
theorem sleeps_its_time {meter : Meter} {now : Time} {acts : List (Act α)}
    (hacts : AllowsAll round { watch := { limiter := { meter }, now } } acts)
    (hdistinct : (asked acts).Nodup) :
    let fresh : Custody α := { watch := { limiter := { meter }, now } }
    let diary := Diary.afterAll round {} fresh acts
    diary.told.map (fun entry => (entry.1, entry.2.1)) = (fresh.afterAll round acts).told ∧
      ∀ sleep ∈ diary.slept, ∀ time, (sleep.sender, .success, time) ∈ diary.told →
        sleep.over ≤ time ∨
          (∃ rousal ∈ diary.roused, rousal.sleep = sleep.number ∧ rousal.time ≤ time ∧
            rousal.wake < rousal.sleep ∧
            ∃ old ∈ diary.slept, old.number = rousal.wake ∧ old.over ≤ rousal.time) ∧
          ∃ posted ∈ diary.givenUp, posted ≠ [] := by
  intro fresh diary
  have hfaithful : Faithful (asked acts) diary (fresh.afterAll round acts) :=
    (Faithful.fresh meter now).afterAll hacts hdistinct
  obtain ⟨-, htimed, hcalm, hnamed⟩ := hfaithful
  refine ⟨hnamed.listed, fun sleep hsleep time htold => ?_⟩
  obtain ⟨rousal, hrousal, hof, hbefore⟩ := hnamed.told sleep hsleep time htold
  obtain ⟨-, hle, old, hold, hnumber, hover⟩ := htimed.roused rousal hrousal
  rcases hle.lt_or_eq with hless | hown
  · right
    refine ⟨⟨rousal, hrousal, hof, hbefore, hless, old, hold, hnumber, hover⟩, ?_⟩
    by_contra hnone
    push Not at hnone
    exact hless.ne ((hcalm hnone).own rousal hrousal)
  · left
    obtain rfl : old = sleep :=
      htimed.once old hold sleep hsleep (hnumber.trans (hown.trans hof))
    exact hover.trans hbefore

/-- A limiter of ten senders a second.  The second sender is given up in the middle of its sleep,
and the third sleeps after it. -/
def givenUpEarly : List (Act Nat) :=
  [.move (.acquire 1), .move (.acquire 2), .move (.pass 50000000), .move .cancel, .refuse,
    .move (.acquire 3), .move (.pass 150000000), .move .ring,
    .move (.wake fun _ => 150000000), .release]

/-- The third sender sleeps as long as if there had been no other. -/
theorem sleeps_its_time_of_given_up_early :
    let fresh : Custody Nat := { watch := { limiter := { meter := { limit := 10 } }, now := 0 } }
    let diary := Diary.afterAll Number.binary64 {} fresh givenUpEarly
    let sleep : Sleep Nat := { number := 2, sender := 3, start := 50000000, wait := 100000000 }
    AllowsAll Number.binary64 fresh givenUpEarly ∧ (asked givenUpEarly).Nodup ∧
      sleep ∈ diary.slept ∧ (3, .success, 150000000) ∈ diary.told ∧ diary.givenUp = [[]] ∧
      sleep.over ≤ 150000000 := by
  intro fresh diary sleep
  have hacts : AllowsAll Number.binary64 fresh givenUpEarly :=
    ⟨trivial, trivial, by simp only [Allows, Watch.Allows]; decide +kernel, trivial,
      ⟨by decide +kernel, by decide +kernel⟩, trivial,
      by simp only [Allows, Watch.Allows]; decide +kernel,
      ⟨150000000, by decide +kernel, by decide +kernel⟩,
      ⟨⟨by decide +kernel, by decide +kernel, fun _ _ _ => Int.le_refl _⟩, by decide +kernel⟩,
      by simp only [Allows]; decide +kernel, trivial⟩
  have hdistinct : (asked givenUpEarly).Nodup := by decide
  have hslept : sleep ∈ diary.slept := by decide +kernel
  have htold : (3, ErrorCode.success, 150000000) ∈ diary.told := by decide +kernel
  have hgivenUp : diary.givenUp = [[]] := by decide +kernel
  refine ⟨hacts, hdistinct, hslept, htold, hgivenUp, ?_⟩
  rcases (sleeps_its_time hacts hdistinct).2 sleep hslept 150000000 htold with
    hover | ⟨-, posted, hposted, hsome⟩
  · exact hover
  · rw [hgivenUp] at hposted
    exact absurd (List.mem_singleton.1 hposted) hsome

/-- A limiter of ten senders a second.  The second sender is given up when its wake is posted, and
the fourth is put to sleep before that wake runs. -/
def givenUpTooLate : List (Act Nat) :=
  [.move (.acquire 1), .move (.acquire 2), .move (.pass 100000000), .move .ring, .move .cancel,
    .move (.acquire 3), .move (.acquire 4), .move (.wake fun _ => 100000000), .release]

/-- A limiter of one sender a second.  The second sender is put to sleep half a second before the
end of the clock. -/
def sleepPastTheEnd : List (Act Nat) :=
  [.move (.pass (endOfTime - 500000000)), .move (.acquire 1), .move (.acquire 2),
    .move (.pass endOfTime), .move .ring, .move (.wake fun _ => endOfTime), .release]

/-- **Not every sleep lasts as long as it was begun for.**  The wake of the second sender tells the
fourth to go when it has not slept at all; and nobody sleeps on when the clock has ended. -/
theorem woken_too_early :
    (let fresh : Custody Nat := { watch := { limiter := { meter := { limit := 10 } }, now := 0 } }
      let diary := Diary.afterAll Number.binary64 {} fresh givenUpTooLate
      let sleep : Sleep Nat := { number := 2, sender := 4, start := 100000000, wait := 100000000 }
      AllowsAll Number.binary64 fresh givenUpTooLate ∧ (asked givenUpTooLate).Nodup ∧
        sleep ∈ diary.slept ∧ (4, .success, 100000000) ∈ diary.told ∧
        ¬ sleep.start + sleep.wait ≤ 100000000) ∧
      let fresh : Custody Nat := { watch := { limiter := { meter := { limit := 1 } }, now := 0 } }
      let diary := Diary.afterAll Number.binary64 {} fresh sleepPastTheEnd
      let sleep : Sleep Nat :=
        { number := 1, sender := 2, start := endOfTime - 500000000, wait := 1000000000 }
      AllowsAll Number.binary64 fresh sleepPastTheEnd ∧ (asked sleepPastTheEnd).Nodup ∧
        sleep ∈ diary.slept ∧ (2, .success, endOfTime) ∈ diary.told ∧
        ¬ sleep.start + sleep.wait ≤ endOfTime := by
  refine ⟨?_, ?_⟩
  · intro fresh diary sleep
    have hacts : AllowsAll Number.binary64 fresh givenUpTooLate :=
      ⟨trivial, trivial, by simp only [Allows, Watch.Allows]; decide +kernel,
        ⟨100000000, by decide +kernel, by decide +kernel⟩, trivial, trivial, trivial,
        ⟨⟨by decide +kernel, by decide +kernel, fun _ _ _ => Int.le_refl _⟩, by decide +kernel⟩,
        by simp only [Allows]; decide +kernel, trivial⟩
    exact ⟨hacts, by decide, by decide +kernel, by decide +kernel, by decide⟩
  · intro fresh diary sleep
    have hacts : AllowsAll Number.binary64 fresh sleepPastTheEnd :=
      ⟨by simp only [Allows, Watch.Allows]; decide +kernel, trivial, trivial,
        by simp only [Allows, Watch.Allows]; decide +kernel,
        ⟨endOfTime, by decide +kernel, by decide +kernel⟩,
        ⟨⟨by decide +kernel, by decide +kernel, fun _ _ _ => Int.le_refl _⟩, by decide +kernel⟩,
        by simp only [Allows]; decide +kernel, trivial⟩
    exact ⟨hacts, by decide, by decide +kernel, by decide +kernel, by decide +kernel⟩

end Custody

end IcmpEcho.Rate
