/-
# A limiter in use

A `Limiter` keeps no timer and reads no clock.  A `Watch` is a limiter with both: the clock, when
its one timer is set to expire, and how many wakes are on their way.  A timer that expires posts a
wake, and **a wake that is posted cannot be taken back**: giving the timer up, or setting it anew,
only forgets an expiry that has not been posted yet.

`Watch.Run` is any order of moves: a sender arrives (also one that arrives from inside the call of
a sender that was just let go), the senders are given up, the clock goes on, a timer that is due
expires, a posted wake runs.  A wake reads the clock anew for every sender it takes up; the engine's
clock stands still while a task is performed, and then a wake is `Limiter.wake`
(`Limiter.wakeAlong_still`).

The clock has an end, and no timer can be set past it: a sleep that would last longer is over for
its timer when the clock ends (`timerEnd`).
-/
import IcmpEcho.Rate.Limiter

namespace IcmpEcho.Rate

variable {α : Type}

/-- When the timer of a sleep expires.  No timer can be set past the end of the clock. -/
def timerEnd (start wait : Time) : Time := min (start + wait) endOfTime

theorem timerEnd_le_endOfTime (start wait : Time) : timerEnd start wait ≤ endOfTime :=
  Int.min_le_right ..

/-- A sleep that the clock has room for lasts as long as it should. -/
theorem timerEnd_of_le {start wait : Time} (h : start + wait ≤ endOfTime) :
    timerEnd start wait = start + wait := Int.min_eq_left h

/-- A timer that expires before the clock ends was set for the whole sleep. -/
theorem timerEnd_of_lt {start wait : Time} (h : timerEnd start wait < endOfTime) :
    timerEnd start wait = start + wait := by
  rcases Int.le_total (start + wait) endOfTime with hroom | hlate
  · exact timerEnd_of_le hroom
  · rw [timerEnd, Int.min_eq_right hlate] at h
    exact absurd h (Int.lt_irrefl _)

/-- A timer expires no earlier than it is set, as long as the clock has not ended. -/
theorem le_timerEnd {start wait : Time} (hwait : 0 ≤ wait) (hstart : start ≤ endOfTime) :
    start ≤ timerEnd start wait := Int.le_min.2 ⟨Int.le_add_of_nonneg_right hwait, hstart⟩

/-! ## 1. A wake that reads a clock -/

/-- What a wake leaves, with the times at which it was decided. -/
structure Rousing (α : Type) where
  limiter : Limiter α
  /-- The senders that go, in order, each with the time of the decision. -/
  gone : List (Time × α) := []
  /-- The sleep that the next sleeper has to make. -/
  wait : Option Time := none
  /-- The last reading of the clock. -/
  now : Time

namespace Limiter

/-- Lets waiting senders go as `drain` does; `clock` is read once for each, after `now`. -/
def drainAlong (round : Number.Rounding) (now : Time) (clock : Nat → Time) (meter : Meter) :
    List α → Rousing α
  | [] => { limiter := { meter }, now }
  | sender :: rest =>
    let (meter, wait) := meter.shot round (clock 0)
    if wait = 0 then
      let rousing := drainAlong round (clock 0) (fun n => clock (n + 1)) meter rest
      { rousing with gone := (clock 0, sender) :: rousing.gone }
    else
      { limiter := { meter, sleeper := some sender, waiting := rest }
        wait := some wait
        now := clock 0 }

/-- A sleep that ends at `now`, with the readings that follow. -/
def wakeAlong (round : Number.Rounding) (limiter : Limiter α) (now : Time) (clock : Nat → Time) :
    Rousing α :=
  match limiter.sleeper with
  | none => { limiter, now }
  | some sleeper =>
    let rousing := drainAlong round now clock (limiter.meter.finishWait now) limiter.waiting
    { rousing with gone := (now, sleeper) :: rousing.gone }

/-- What a wake leaves when all of it is decided at one time. -/
def Wake.rousing (now : Time) (wake : Wake α) : Rousing α where
  limiter := wake.limiter
  gone := wake.released.map fun sender => (now, sender)
  wait := wake.wait
  now := now

theorem drainAlong_still (round : Number.Rounding) (now : Time) (senders : List α) :
    ∀ meter : Meter,
      drainAlong round now (fun _ => now) meter senders
        = (drain round now meter senders).rousing now := by
  induction senders with
  | nil => intro meter; rfl
  | cons sender rest ih =>
    intro meter
    simp only [drainAlong, drain]
    split
    · rw [ih]
      rfl
    · rfl

/-- **A wake under a clock that stands still** is the limiter's own. -/
theorem wakeAlong_still (round : Number.Rounding) (limiter : Limiter α) (now : Time) :
    limiter.wakeAlong round now (fun _ => now) = (limiter.wake round now).rousing now := by
  cases hs : limiter.sleeper with
  | none =>
    simp only [wakeAlong, wake, hs]
    rfl
  | some sleeper =>
    simp only [wakeAlong, wake, hs, drainAlong_still]
    rfl

/-- A wake ends no earlier than it begins, and whoever it lets go goes in between. -/
theorem drainAlong_later (round : Number.Rounding) (senders : List α) :
    ∀ (now : Time) (clock : Nat → Time) (meter : Meter), now ≤ clock 0 →
      (∀ ⦃m n : Nat⦄, m ≤ n → clock m ≤ clock n) →
      now ≤ (drainAlong round now clock meter senders).now ∧
        ∀ entry ∈ (drainAlong round now clock meter senders).gone, now ≤ entry.1 := by
  induction senders with
  | nil =>
    intro now clock meter _ _
    exact ⟨Int.le_refl now, fun _ hmem => nomatch hmem⟩
  | cons sender rest ih =>
    intro now clock meter hnow hclock
    simp only [drainAlong]
    split
    · obtain ⟨hlater, hgone⟩ := ih (clock 0) (fun n => clock (n + 1))
        (meter.shot round (clock 0)).1 (hclock (Nat.zero_le 1))
        fun _ _ hle => hclock (Nat.succ_le_succ hle)
      refine ⟨Int.le_trans hnow hlater, ?_⟩
      intro entry hentry
      rcases List.mem_cons.1 hentry with rfl | hrest
      · exact hnow
      · exact Int.le_trans hnow (hgone entry hrest)
    · exact ⟨hnow, fun _ hmem => nomatch hmem⟩

end Limiter

/-- When the timer of the next sleep expires. -/
def Rousing.alarm (rousing : Rousing α) : Option Time := rousing.wait.map (timerEnd rousing.now)

/-! ## 2. Moves -/

/-- A limiter, the clock and the timer it sleeps by. -/
structure Watch (α : Type) where
  limiter : Limiter α
  now : Time
  /-- When the timer expires, if it is set. -/
  alarm : Option Time := none
  /-- The wakes that are posted and have not run. -/
  rung : Nat := 0

/-- What happens to a watch. -/
inductive Move (α : Type)
  /-- A sender asks to send. -/
  | acquire (sender : α)
  /-- All senders held are given up. -/
  | cancel
  /-- The clock goes on. -/
  | pass (now : Time)
  /-- The timer expires and posts a wake. -/
  | ring
  /-- A posted wake runs; these are the readings of the clock after its first. -/
  | wake (clock : Nat → Time)

namespace Watch

/-- The watch after a wake that left no other wake behind. -/
def ofRousing (rousing : Rousing α) : Watch α where
  limiter := rousing.limiter
  now := rousing.now
  alarm := rousing.alarm

/-- The clock never goes back, a timer never expires early, and only a posted wake runs. -/
def Allows (watch : Watch α) : Move α → Prop
  | .acquire _ => True
  | .cancel => True
  | .pass now => watch.now ≤ now
  | .ring => ∃ expiry, watch.alarm = some expiry ∧ expiry ≤ watch.now
  | .wake clock =>
    0 < watch.rung ∧ watch.now ≤ clock 0 ∧ ∀ ⦃m n : Nat⦄, m ≤ n → clock m ≤ clock n

/-- The watch after a move, and the senders that the move lets go, in the order and with the times
of the decisions. -/
def turn (round : Number.Rounding) (watch : Watch α) : Move α → Watch α × List (Time × α)
  | .acquire sender =>
    let (limiter, admission) := watch.limiter.acquire round watch.now sender
    match admission with
    | .go => ({ watch with limiter }, [(watch.now, sender)])
    | .sleep wait => ({ watch with limiter, alarm := some (timerEnd watch.now wait) }, [])
    | .queue => ({ watch with limiter }, [])
  | .cancel => ({ watch with limiter := watch.limiter.cancel.1, alarm := none }, [])
  | .pass now => ({ watch with now }, [])
  | .ring => ({ watch with alarm := none, rung := watch.rung + 1 }, [])
  | .wake clock =>
    let rousing := watch.limiter.wakeAlong round watch.now clock
    -- A sleep that follows sets the timer anew; otherwise it is left as it is.
    ({ limiter := rousing.limiter, now := rousing.now, alarm := rousing.alarm <|> watch.alarm,
       rung := watch.rung - 1 }, rousing.gone)

/-- **Time goes on with every move**, and nobody goes before the move that lets it go. -/
theorem turn_later {watch : Watch α} {move : Move α} (round : Number.Rounding)
    (hallowed : watch.Allows move) :
    watch.now ≤ (watch.turn round move).1.now ∧
      ∀ entry ∈ (watch.turn round move).2, watch.now ≤ entry.1 := by
  have hnobody : ∀ entry ∈ ([] : List (Time × α)), watch.now ≤ entry.1 :=
    fun _ hmem => nomatch hmem
  cases move with
  | acquire sender =>
    simp only [turn]
    split
    · refine ⟨Int.le_refl _, fun entry hentry => ?_⟩
      obtain rfl := List.mem_singleton.1 hentry
      exact Int.le_refl _
    · exact ⟨Int.le_refl _, hnobody⟩
    · exact ⟨Int.le_refl _, hnobody⟩
  | cancel => exact ⟨Int.le_refl _, hnobody⟩
  | pass now => exact ⟨hallowed, hnobody⟩
  | ring => exact ⟨Int.le_refl _, hnobody⟩
  | wake clock =>
    obtain ⟨-, hclock, hmono⟩ := hallowed
    simp only [turn, Limiter.wakeAlong]
    split
    · exact ⟨Int.le_refl _, hnobody⟩
    · obtain ⟨hlater, hgone⟩ := Limiter.drainAlong_later round watch.limiter.waiting watch.now
        clock (watch.limiter.meter.finishWait watch.now) hclock hmono
      refine ⟨hlater, fun entry hentry => ?_⟩
      rcases List.mem_cons.1 hentry with rfl | hrest
      · exact Int.le_refl _
      · exact hgone entry hrest

/-! ## 3. Runs -/

/-- One move after another; each is listed with the watch it was made on. -/
inductive Run (round : Number.Rounding) :
    Watch α → List (Watch α × Move α) → Watch α → Prop
  | nil (watch : Watch α) : Run round watch [] watch
  | cons {watch watch' : Watch α} {move : Move α} {past : List (Watch α × Move α)}
    (allowed : watch.Allows move) (rest : Run round (watch.turn round move).1 past watch') :
    Run round watch ((watch, move) :: past) watch'

/-- What a run of some moves lists. -/
def trail (round : Number.Rounding) : Watch α → List (Move α) → List (Watch α × Move α)
  | _, [] => []
  | watch, move :: moves => (watch, move) :: trail round (watch.turn round move).1 moves

/-- The senders let go in a run, in order, with the times of the decisions. -/
def gone (round : Number.Rounding) (past : List (Watch α × Move α)) : List (Time × α) :=
  past.flatMap fun entry => (entry.1.turn round entry.2).2

theorem gone_cons (round : Number.Rounding) (watch : Watch α) (move : Move α)
    (past : List (Watch α × Move α)) :
    gone round ((watch, move) :: past) = (watch.turn round move).2 ++ gone round past := rfl

theorem gone_append (round : Number.Rounding) (past past' : List (Watch α × Move α)) :
    gone round (past ++ past') = gone round past ++ gone round past' := List.flatMap_append

/-- Nobody goes before the run that lets it go. -/
theorem Run.le_gone {round : Number.Rounding} {watch watch' : Watch α}
    {past : List (Watch α × Move α)} (h : Run round watch past watch') :
    ∀ entry ∈ gone round past, watch.now ≤ entry.1 := by
  induction h with
  | nil => exact fun _ hmem => nomatch hmem
  | cons allowed _ ih =>
    obtain ⟨hlater, hgone⟩ := turn_later round allowed
    intro entry hentry
    rcases List.mem_append.1 hentry with hfirst | hrest
    · exact hgone entry hfirst
    · exact Int.le_trans hlater (ih entry hrest)

theorem Run.trans {round : Number.Rounding} {watch watch' watch'' : Watch α}
    {past past' : List (Watch α × Move α)} (h : Run round watch past watch')
    (h' : Run round watch' past' watch'') : Run round watch (past ++ past') watch'' := by
  induction h with
  | nil => exact h'
  | cons allowed _ ih => exact .cons allowed (ih h')

end Watch

end IcmpEcho.Rate
