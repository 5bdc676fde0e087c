/-
# Every sender is in one place

A limiter is given senders and tells each of them, once, that it may send or that it was given up.
Between the two a sender sleeps or waits in the limiter, or the limiter has let go of it and it has
not been told yet: a wake lets go of a batch of senders, which are told one after another, and a
sender that is given up is told by a task.  A sender that is told may ask anew before the rest of
its batch is told; so a limiter can be asked, given up and put to sleep in the middle of a batch.

`Custody` is a `Watch` with these places, and with what the limiter knows of its sleep: a flag, and
a number for each sleep, by which a wake that is posted says whose it is.  `Custody.Run` is any order
of moves in which a wake or a refusal does not run before the batch is told.

**Nobody is held twice or forgotten** (`Run.everyone_held_once`).  Those that asked are those that
were told and those that are held, each in one place.  While the flag is set there is a sleeper, and
its timer is set or its wake is posted; while it is not set nobody waits.  Giving up turns away
exactly those that the limiter holds.
-/
import IcmpEcho.Proofs.Watch

namespace IcmpEcho.Rate

variable {α : Type} {round : Number.Rounding}

/-! ## 1. What a limiter does with its senders -/

namespace Limiter

/-- A sender that asks waits behind the sleeper, or goes, or is put to sleep. -/
theorem acquire_cases (round : Number.Rounding) (limiter : Limiter α) (now : Time) (sender : α) :
    (limiter.sleeper.isSome = true ∧ limiter.acquire round now sender
        = ({ limiter with waiting := limiter.waiting ++ [sender] }, .queue)) ∨
      limiter.sleeper = none ∧ ∃ meter,
        limiter.acquire round now sender = ({ limiter with meter }, .go) ∨
          ∃ wait, limiter.acquire round now sender
            = ({ limiter with meter, sleeper := some sender }, .sleep wait) := by
  by_cases hs : limiter.sleeper.isSome = true
  · exact .inl ⟨hs, by rw [acquire, if_pos hs]⟩
  · refine .inr ⟨by simpa using hs, (limiter.meter.shot round now).1, ?_⟩
    by_cases hgo : (limiter.meter.shot round now).2 = 0
    · left
      simp only [acquire, if_neg hs, if_pos hgo]
    · right
      refine ⟨(limiter.meter.shot round now).2, ?_⟩
      simp only [acquire, if_neg hs, if_neg hgo]

/-- Waiting senders go until there are none, or until one is put to sleep. -/
theorem drainAlong_cases (round : Number.Rounding) (senders : List α) :
    ∀ (now : Time) (clock : Nat → Time) (meter : Meter), ∃ gone meter' now',
      (senders = gone.map Prod.snd ∧
          drainAlong round now clock meter senders
            = { limiter := { meter := meter' }, gone, now := now' }) ∨
        ∃ sleeper rest wait, senders = gone.map Prod.snd ++ sleeper :: rest ∧
          drainAlong round now clock meter senders
            = { limiter := { meter := meter', sleeper := some sleeper, waiting := rest }
                gone, wait := some wait, now := now' } := by
  induction senders with
  | nil =>
    intro now clock meter
    exact ⟨[], meter, now, .inl ⟨rfl, rfl⟩⟩
  | cons sender rest ih =>
    intro now clock meter
    by_cases hgo : (meter.shot round (clock 0)).2 = 0
    · simp only [drainAlong, if_pos hgo]
      obtain ⟨gone, meter', now', hcases⟩ :=
        ih (clock 0) (fun n => clock (n + 1)) (meter.shot round (clock 0)).1
      refine ⟨(clock 0, sender) :: gone, meter', now', ?_⟩
      rcases hcases with ⟨rfl, hdrain⟩ | ⟨sleeper, rest', wait, rfl, hdrain⟩
      · left
        rw [hdrain]
        exact ⟨rfl, rfl⟩
      · right
        rw [hdrain]
        exact ⟨sleeper, rest', wait, rfl, rfl⟩
    · simp only [drainAlong, if_neg hgo]
      exact ⟨[], _, clock 0, .inr ⟨sender, rest, _, rfl, rfl⟩⟩

/-- What a wake lets go and what is still held are what was held, in the same order. -/
theorem wakeAlong_held (round : Number.Rounding) (limiter : Limiter α) (now : Time)
    (clock : Nat → Time) :
    (limiter.wakeAlong round now clock).gone.map Prod.snd
      ++ (limiter.wakeAlong round now clock).limiter.held = limiter.held := by
  cases hs : limiter.sleeper with
  | none => simp [wakeAlong, hs]
  | some sleeper =>
    obtain ⟨gone, meter, now', ⟨hwaiting, hdrain⟩ | ⟨next, rest, wait, hwaiting, hdrain⟩⟩ :=
      drainAlong_cases round limiter.waiting now clock (limiter.meter.finishWait now)
    · simp only [wakeAlong, hs, hdrain]
      simp [held, hs, hwaiting]
    · simp only [wakeAlong, hs, hdrain]
      simp [held, hs, hwaiting]

/-- A wake leaves a sleeper and sets a timer for it, or leaves nobody. -/
theorem wakeAlong_sleeper (round : Number.Rounding) (limiter : Limiter α) (now : Time)
    (clock : Nat → Time)
    (h : limiter.sleeper = none → limiter.waiting = []) :
    let rousing := limiter.wakeAlong round now clock
    rousing.alarm.isSome = rousing.limiter.sleeper.isSome ∧
      (rousing.limiter.sleeper = none → rousing.limiter.waiting = []) := by
  cases hs : limiter.sleeper with
  | none =>
    simp only [wakeAlong, hs]
    exact ⟨rfl, fun _ => h hs⟩
  | some sleeper =>
    obtain ⟨gone, meter, now', ⟨-, hdrain⟩ | ⟨next, rest, wait, -, hdrain⟩⟩ :=
      drainAlong_cases round limiter.waiting now clock (limiter.meter.finishWait now)
    · rw [wakeAlong, hs]
      simp [hdrain, Rousing.alarm]
    · rw [wakeAlong, hs]
      simp [hdrain, Rousing.alarm]

end Limiter

/-! ## 2. Where senders are -/

/-- A limiter in use, with the senders that it has let go and not told yet. -/
structure Custody (α : Type) where
  watch : Watch α
  /-- A sleep was begun and has not ended. -/
  sleeping : Bool := false
  /-- The number of the sleep that was begun last. -/
  latest : Nat := 0
  /-- The sleeps whose wakes are posted. -/
  posted : List Nat := []
  /-- The senders that a wake has let go. -/
  batch : List α := []
  /-- The senders that were given up, each with its task posted. -/
  refused : List α := []
  /-- The senders that were told, in order, with what they were told. -/
  told : List (α × ErrorCode) := []

namespace Custody

/-- What happens to the senders. -/
inductive Act (α : Type)
  /-- A move of the watch. -/
  | move (move : Move α)
  /-- The next sender of the batch is told that it may send. -/
  | release
  /-- The next sender that was given up is told so. -/
  | refuse

/-- The senders that were not told, each listed once for each place it is in. -/
def held (custody : Custody α) : List α :=
  custody.watch.limiter.held ++ custody.batch ++ custody.refused

/-- A batch is told before another task runs.  All else can happen at any time. -/
def Allows (custody : Custody α) : Act α → Prop
  | .move (.wake clock) => custody.watch.Allows (.wake clock) ∧ custody.batch = []
  | .move move => custody.watch.Allows move
  | .release => custody.batch ≠ []
  | .refuse => custody.batch = [] ∧ custody.refused ≠ []

/-- A sender asks.  One that may go at once is told from inside. -/
def acquire (round : Number.Rounding) (custody : Custody α) (sender : α) : Custody α :=
  let asked := { custody with watch := (custody.watch.turn round (.acquire sender)).1 }
  match (custody.watch.limiter.acquire round custody.watch.now sender).2 with
  | .go => { asked with told := custody.told ++ [(sender, .success)] }
  | .sleep _ => { asked with sleeping := true, latest := custody.latest + 1 }
  | .queue => asked

/-- A posted wake runs. -/
def wake (round : Number.Rounding) (custody : Custody α) (clock : Nat → Time) : Custody α :=
  let rousing := custody.watch.limiter.wakeAlong round custody.watch.now clock
  { custody with
    watch := (custody.watch.turn round (.wake clock)).1
    sleeping := rousing.alarm.isSome
    latest := if rousing.alarm.isSome then custody.latest + 1 else custody.latest
    posted := custody.posted.tail
    batch := custody.batch ++ rousing.gone.map Prod.snd }

/-- All senders that the limiter holds are given up. -/
def cancel (round : Number.Rounding) (custody : Custody α) : Custody α :=
  { custody with
    watch := (custody.watch.turn round .cancel).1
    sleeping := false
    refused := custody.refused ++ custody.watch.limiter.cancel.2 }

/-- What an act leaves. -/
def after (round : Number.Rounding) (custody : Custody α) : Act α → Custody α
  | .move (.acquire sender) => custody.acquire round sender
  | .move .cancel => custody.cancel round
  | .move (.pass now) => { custody with watch := (custody.watch.turn round (.pass now)).1 }
  | .move .ring =>
    { custody with
      watch := (custody.watch.turn round .ring).1
      posted := custody.posted ++ [custody.latest] }
  | .move (.wake clock) => custody.wake round clock
  | .release =>
    { custody with
      batch := custody.batch.tail
      told := custody.told ++ (custody.batch.head?.map (·, ErrorCode.success)).toList }
  | .refuse =>
    { custody with
      refused := custody.refused.tail
      told := custody.told ++ (custody.refused.head?.map (·, ErrorCode.aborted)).toList }

/-- The sender that asks in an act. -/
def Act.asks : Act α → List α
  | .move (.acquire sender) => [sender]
  | _ => []

/-- One act after another. -/
inductive Run (round : Number.Rounding) : Custody α → List (Act α) → Custody α → Prop
  | nil (custody : Custody α) : Run round custody [] custody
  | cons {custody custody' : Custody α} {act : Act α} {acts : List (Act α)}
    (allowed : custody.Allows act) (rest : Run round (custody.after round act) acts custody') :
    Run round custody (act :: acts) custody'

/-- The senders that ask in a run, in order. -/
def asked (acts : List (Act α)) : List α := acts.flatMap Act.asks

/-! ## 3. What one act keeps -/

variable {custody custody' : Custody α} {senders : List α}

/-- **Nobody is held twice or forgotten.** -/
structure Kept (senders : List α) (custody : Custody α) : Prop where
  flag : custody.sleeping = custody.watch.limiter.sleeper.isSome
  queue : custody.watch.limiter.sleeper = none → custody.watch.limiter.waiting = []
  timer : custody.sleeping = true →
    custody.watch.alarm.isSome ∨ custody.latest ∈ custody.posted
  wakes : custody.watch.rung = custody.posted.length
  /-- Those that asked were told, or are held by the limiter, in the batch or as refused. -/
  places : ∀ p : α → Bool, senders.countP p
    = (custody.told.map Prod.fst).countP p + custody.watch.limiter.held.countP p
      + custody.batch.countP p + custody.refused.countP p
  order : custody.watch.limiter.held.Sublist senders
  codes : ∀ entry ∈ custody.told, entry.2 = .success ∨ entry.2 = .aborted

namespace Kept

theorem fresh (meter : Meter) (now : Time) :
    Kept [] ({ watch := { limiter := { meter }, now } } : Custody α) where
  flag := rfl
  queue _ := rfl
  timer h := nomatch h
  wakes := rfl
  places _ := rfl
  order := .refl _
  codes _ h := nomatch h

theorem acquire (h : Kept senders custody) (sender : α) :
    Kept (senders ++ [sender]) (custody.acquire round sender) := by
  have hplaces := h.places
  have hlater := h.order.trans (List.sublist_append_left senders [sender])
  rcases custody.watch.limiter.acquire_cases round custody.watch.now sender with
    ⟨hs, hacquire⟩ | ⟨hs, meter, hacquire | ⟨wait, hacquire⟩⟩
  · simp only [Custody.acquire, Watch.turn, hacquire]
    refine { h with queue := fun hnone => ?_, places := fun p => ?_, order := ?_ }
    · rw [hnone] at hs
      cases hs
    · simp only [List.countP_append, hplaces p, Limiter.held]
      omega
    · rw [Limiter.held, ← List.append_assoc]
      exact h.order.append (.refl _)
  · simp only [Custody.acquire, Watch.turn, hacquire]
    refine { h with places := fun p => ?_, order := hlater, codes := fun entry hentry => ?_ }
    · simp only [List.countP_append, hplaces p, Limiter.held, List.map_append, List.map_cons,
        List.map_nil]
      omega
    · rcases List.mem_append.1 hentry with hold | hnew
      · exact h.codes entry hold
      · obtain rfl := List.mem_singleton.1 hnew
        exact .inl rfl
  · have hempty : custody.watch.limiter.held = [] := by
      rw [Limiter.held, hs, h.queue hs]
      rfl
    simp only [Custody.acquire, Watch.turn, hacquire]
    refine { h with
      flag := rfl
      queue := fun hnone => absurd hnone (Option.some_ne_none _)
      timer := fun _ => .inl rfl
      places := fun p => ?_
      order := ?_ }
    · simp only [List.countP_append, hplaces p, hempty]
      simp only [Limiter.held, h.queue hs, Option.toList_some, List.append_nil, List.countP_nil]
      omega
    · simp only [Limiter.held, h.queue hs, Option.toList_some, List.append_nil]
      exact List.sublist_append_right senders [sender]

theorem wake (h : Kept senders custody) (clock : Nat → Time) :
    Kept senders (custody.wake round clock) := by
  obtain ⟨hflag, hqueue⟩ :=
    custody.watch.limiter.wakeAlong_sleeper round custody.watch.now clock h.queue
  have hheld :=
    custody.watch.limiter.wakeAlong_held round custody.watch.now clock
  unfold Custody.wake
  simp only [Watch.turn]
  generalize custody.watch.limiter.wakeAlong round custody.watch.now clock = rousing at *
  refine { h with
    flag := hflag
    queue := hqueue
    timer := fun hsleeps => ?_
    wakes := by rw [List.length_tail, h.wakes]
    places := fun p => ?_
    order := ?_ }
  · obtain ⟨expiry, hexpiry⟩ := Option.isSome_iff_exists.1 hsleeps
    exact .inl (by rw [hexpiry]; rfl)
  · rw [h.places p, ← hheld]
    simp only [List.countP_append]
    omega
  · refine .trans ?_ h.order
    rw [← hheld]
    exact List.sublist_append_right _ _

theorem cancel (h : Kept senders custody) : Kept senders (custody.cancel round) where
  flag := rfl
  queue _ := rfl
  timer hsleeps := nomatch hsleeps
  wakes := h.wakes
  places p := by
    simp only [Custody.cancel, Watch.turn, Limiter.cancel, Limiter.held, h.places p,
      List.countP_append, Option.toList_none, List.countP_nil]
    omega
  order := List.nil_sublist senders
  codes := h.codes

/-- The first of some senders is told. -/
theorem countP_tell (p : α → Bool) (told : List (α × ErrorCode)) (waiting : List α)
    (code : ErrorCode) :
    ((told ++ (waiting.head?.map (·, code)).toList).map Prod.fst).countP p + waiting.tail.countP p
      = (told.map Prod.fst).countP p + waiting.countP p := by
  cases waiting with
  | nil => simp
  | cons sender rest =>
    simp [List.countP_cons]
    omega

theorem mem_tell {told : List (α × ErrorCode)} {waiting : List α} {code : ErrorCode}
    {entry : α × ErrorCode} (h : entry ∈ told ++ (waiting.head?.map (·, code)).toList) :
    entry ∈ told ∨ entry.2 = code := by
  rcases List.mem_append.1 h with hold | hnew
  · exact .inl hold
  · obtain ⟨sender, -, rfl⟩ := Option.map_eq_some_iff.1 (Option.mem_toList.1 hnew)
    exact .inr rfl

/-- Nobody asks. -/
theorem unasked (h : Kept senders custody) : Kept (senders ++ []) custody := by
  rwa [List.append_nil]

/-- **One act** keeps everyone in one place. -/
theorem after (round : Number.Rounding) (h : Kept senders custody) (act : Act α) :
    Kept (senders ++ act.asks) (custody.after round act) := by
  cases act with
  | move move =>
    cases move with
    | acquire sender => exact h.acquire sender
    | cancel => exact h.cancel.unasked
    | pass now => exact unasked { h with }
    | ring =>
      exact unasked { h with
        timer := fun _ => .inr (by simp [Custody.after])
        wakes := by simp [Custody.after, Watch.turn, h.wakes] }
    | wake clock => exact (h.wake clock).unasked
  | release =>
    refine unasked { h with places := fun p => ?_, codes := fun entry hentry => ?_ }
    · have htold := countP_tell p custody.told custody.batch .success
      have hplaces := h.places p
      simp only [Custody.after]
      omega
    · exact (mem_tell hentry).elim (h.codes entry) .inl
  | refuse =>
    refine unasked { h with places := fun p => ?_, codes := fun entry hentry => ?_ }
    · have htold := countP_tell p custody.told custody.refused .aborted
      have hplaces := h.places p
      simp only [Custody.after]
      omega
    · exact (mem_tell hentry).elim (h.codes entry) .inr

end Kept

/-! ## 4. Runs -/

variable {acts : List (Act α)} {meter : Meter} {now : Time}

/-- **A whole run** keeps everyone in one place. -/
theorem Run.kept (h : Run round custody acts custody') :
    ∀ {senders : List α}, Kept senders custody → Kept (senders ++ asked acts) custody' := by
  induction h with
  | nil => exact fun hkept => hkept.unasked
  | @cons custody custody' act acts allowed rest ih =>
    intro senders hkept
    have hlast := ih (hkept.after round act)
    rwa [List.append_assoc] at hlast

/-- The limiter lets a sender wait exactly while the flag is set. -/
theorem Kept.queue_iff (h : Kept senders custody) (sender : α) :
    (custody.watch.limiter.acquire round custody.watch.now sender).2 = .queue
      ↔ custody.sleeping = true := by
  rw [h.flag]
  unfold Limiter.acquire
  split
  · next hs => exact ⟨fun _ => hs, fun _ => rfl⟩
  · next hs =>
    dsimp only
    split
    · exact ⟨(nomatch ·), fun hsome => absurd hsome hs⟩
    · exact ⟨(nomatch ·), fun hsome => absurd hsome hs⟩

/-- **Every sender is held in one place until it is told, and told once.**

A limiter was used in any way.  Those that asked are those that were told, of success or of being
given up, and those that are held: by the limiter, in the batch or with a task posted.  The limiter
sleeps exactly while it has a sleeper, and lets others wait only then; the timer of that sleep is
set, or its wake is posted, and a wake lets the sleeper go.  Giving up turns away exactly those that
the limiter holds, in the order in which they asked. -/
theorem Run.everyone_held_once
    (h : Run round { watch := { limiter := { meter }, now } } acts custody) :
    (asked acts).Perm (custody.told.map Prod.fst ++ custody.held) ∧
      ((asked acts).Nodup → (custody.told.map Prod.fst ++ custody.held).Nodup) ∧
      (∀ entry ∈ custody.told, entry.2 = .success ∨ entry.2 = .aborted) ∧
      custody.sleeping = custody.watch.limiter.sleeper.isSome ∧
      (∀ sender, (custody.watch.limiter.acquire round custody.watch.now sender).2 = .queue
        ↔ custody.sleeping = true) ∧
      (custody.sleeping = false → custody.watch.limiter.waiting = []) ∧
      (custody.sleeping = true → custody.watch.alarm.isSome ∨ custody.latest ∈ custody.posted) ∧
      custody.watch.rung = custody.posted.length ∧
      (∀ sleeper, custody.watch.limiter.sleeper = some sleeper → ∀ clock,
        sleeper ∈ (custody.after round (.move (.wake clock))).batch) ∧
      custody.watch.limiter.held.Sublist (asked acts) ∧
      custody.after round (.move .cancel) = { custody with
        watch := { custody.watch with
          limiter := { meter := custody.watch.limiter.meter }, alarm := none }
        sleeping := false
        refused := custody.refused ++ custody.watch.limiter.held } := by
  classical
  have hkept : Kept (asked acts) custody := h.kept (.fresh meter now)
  have hplaces : (asked acts).Perm (custody.told.map Prod.fst ++ custody.held) := by
    refine List.perm_iff_count.2 fun sender => ?_
    have hcount := hkept.places (· == sender)
    simp only [held, List.count, List.countP_append, hcount]
    omega
  refine ⟨hplaces, hplaces.nodup_iff.1, hkept.codes, hkept.flag, hkept.queue_iff, ?_, hkept.timer,
    hkept.wakes, ?_, hkept.order, rfl⟩
  · intro hawake
    rw [hkept.flag] at hawake
    exact hkept.queue (by simpa using hawake)
  · intro sleeper hs clock
    refine List.mem_append_right _ ?_
    simp [Limiter.wakeAlong, hs]

/-- The custody after some acts. -/
def afterAll (round : Number.Rounding) (custody : Custody α) (acts : List (Act α)) : Custody α :=
  acts.foldl (Custody.after round) custody

/-- A limiter of ten senders a second.  Two senders are given up when the wake for the first of them
is already posted; that wake then ends the sleep of another one, which asks again when it is
told. -/
def givenUpWhenRung : List (Act Nat) :=
  [.move (.acquire 1), .move (.acquire 2), .move (.acquire 3), .move (.pass 100000000), .move .ring,
    .move .cancel, .move (.acquire 4), .move (.acquire 5), .move (.acquire 6),
    .move (.wake fun _ => 100000000), .release, .move (.acquire 7), .refuse, .refuse]

/-- Those that were given up were told so; the sixth sleeps, the seventh waits behind it. -/
theorem Run.everyone_held_once_of_given_up :
    let custody : Custody Nat :=
      afterAll id { watch := { limiter := { meter := { limit := 10 } }, now := 0 } } givenUpWhenRung
    custody.told = [(1, .success), (4, .success), (5, .success), (2, .aborted), (3, .aborted)] ∧
      custody.held = [6, 7] ∧ custody.sleeping = true ∧
      (asked givenUpWhenRung).Perm (custody.told.map Prod.fst ++ custody.held) ∧
      (custody.told.map Prod.fst ++ custody.held).Nodup := by
  intro custody
  have hrun : Run id { watch := { limiter := { meter := { limit := 10 } }, now := 0 } }
      givenUpWhenRung custody :=
    .cons trivial <| .cons trivial <| .cons trivial <|
    .cons (by simp only [Allows, Watch.Allows]; decide +kernel) <|
    .cons ⟨100000000, by decide +kernel, by decide +kernel⟩ <|
    .cons trivial <| .cons trivial <| .cons trivial <| .cons trivial <|
    .cons ⟨⟨by decide +kernel, by decide +kernel, fun _ _ _ => Int.le_refl _⟩,
      by decide +kernel⟩ <|
    .cons (by simp only [Allows]; decide +kernel) <|
    .cons trivial <|
    .cons ⟨by decide +kernel, by decide +kernel⟩ <|
    .cons ⟨by decide +kernel, by decide +kernel⟩ <|
    .nil _
  obtain ⟨hperm, hnodup, -⟩ := hrun.everyone_held_once
  exact ⟨by decide +kernel, by decide +kernel, by decide +kernel, hperm, hnodup (by decide)⟩

end Custody

end IcmpEcho.Rate
