/-
# One sender at a time through a meter

A limiter serialises the senders of one socket through a `Meter`.  The sender whose shot has to
sleep is the *sleeper*; while there is one, later senders wait behind it in order of arrival.
When the sleep is over the sleeper goes, and after it the waiting senders, until one of them has
to sleep in its turn.

No sender gets lost: one that arrives goes or is held last (`acquire_held`), and a wake lets go of
a front part of those that are held (`wake_held`).

A limiter keeps no timer of its own.  `acquire` and `wake` say how long a sleep is to be set;
whoever runs the limiter calls `wake` when it is over.
-/
import IcmpEcho.Rate.Meter

namespace IcmpEcho.Rate

/-- The senders held behind a meter. -/
structure Limiter (α : Type) where
  meter : Meter
  /-- The sender that sleeps until its shot is paid. -/
  sleeper : Option α := none
  /-- The senders behind the sleeper, in order of arrival. -/
  waiting : List α := []
  deriving Repr

namespace Limiter

variable {α : Type}

/-- A fresh limiter; a limit of zero is refused. -/
def new (limit : Nat) : Except Failure (Limiter α) :=
  (Meter.new limit 1000000).map fun meter => { meter }

/-- The senders held, in order of arrival. -/
def held (limiter : Limiter α) : List α := limiter.sleeper.toList ++ limiter.waiting

/-! ## 1. A sender arrives -/

/-- What becomes of a sender that arrives. -/
inductive Admission
  /-- It may send at once. -/
  | go
  /-- It has to sleep this long. -/
  | sleep (wait : Time)
  /-- It waits behind the sleeper. -/
  | queue
  deriving DecidableEq, Repr

/-- A sender asks to send at `now`. -/
def acquire (round : Number.Rounding) (limiter : Limiter α) (now : Time) (sender : α) :
    Limiter α × Admission :=
  if limiter.sleeper.isSome then
    ({ limiter with waiting := limiter.waiting ++ [sender] }, .queue)
  else
    let (meter, wait) := limiter.meter.shot round now
    if wait = 0 then ({ limiter with meter }, .go)
    else ({ limiter with meter, sleeper := some sender }, .sleep wait)

/-- A sender that goes is not held; any other is held last. -/
theorem acquire_held (round : Number.Rounding) (limiter : Limiter α) (now : Time) (sender : α)
    (h : limiter.sleeper.isNone → limiter.waiting = []) :
    (limiter.acquire round now sender).2 = .go ∧
        (limiter.acquire round now sender).1.held = limiter.held ∨
      (limiter.acquire round now sender).2 ≠ .go ∧
        (limiter.acquire round now sender).1.held = limiter.held ++ [sender] := by
  unfold acquire
  split
  · right
    simp [held]
  · next hs =>
    have hnone : limiter.sleeper = none := by simpa using hs
    have hw : limiter.waiting = [] := h (by simp [hnone])
    simp only []
    split
    · left
      simp [held]
    · right
      simp [held, hw, hnone]

/-! ## 2. A sleep is over -/

/-- What a wake does: the limiter after it, the senders it lets go in order, and the sleep that
the next sleeper has to make. -/
structure Wake (α : Type) where
  limiter : Limiter α
  released : List α := []
  wait : Option Time := none

/-- Lets waiting senders go one after another until one has to sleep. -/
def drain (round : Number.Rounding) (now : Time) (meter : Meter) : List α → Wake α
  | [] => { limiter := { meter } }
  | sender :: rest =>
    let (meter, wait) := meter.shot round now
    if wait = 0 then
      let wake := drain round now meter rest
      { wake with released := sender :: wake.released }
    else { limiter := { meter, sleeper := some sender, waiting := rest }, wait := some wait }

/-- A sleep that ends at `now`.  Without a sleeper there is nothing to do. -/
def wake (round : Number.Rounding) (limiter : Limiter α) (now : Time) : Wake α :=
  match limiter.sleeper with
  | none => { limiter }
  | some sleeper =>
    let wake := drain round now (limiter.meter.finishWait now) limiter.waiting
    { wake with released := sleeper :: wake.released }

theorem drain_held (round : Number.Rounding) (now : Time) (senders : List α) :
    ∀ meter : Meter,
      (drain round now meter senders).released ++ (drain round now meter senders).limiter.held
        = senders := by
  induction senders with
  | nil => intro meter; rfl
  | cons sender rest ih =>
    intro meter
    simp only [drain]
    split
    · simp only [List.cons_append, ih]
    · rfl

/-- **A wake loses no sender:** those it lets go and those still held are the ones that were held,
in the same order. -/
theorem wake_held (round : Number.Rounding) (limiter : Limiter α) (now : Time)
    (h : limiter.sleeper.isSome) :
    (limiter.wake round now).released ++ (limiter.wake round now).limiter.held = limiter.held := by
  obtain ⟨sleeper, hs⟩ := Option.isSome_iff_exists.1 h
  simp only [wake, hs, held, Option.toList_some, List.cons_append, List.nil_append]
  congr 1
  exact drain_held round now limiter.waiting _

/-! ## 3. Giving up -/

/-- Lets go of every sender; the caller has to tell them, in this order. -/
def cancel (limiter : Limiter α) : Limiter α × List α :=
  ({ limiter with sleeper := none, waiting := [] }, limiter.held)

end Limiter

end IcmpEcho.Rate
