/-
# What one task does about sends

A limiter that wakes lets go of a front part of the senders that it holds (`Engine.wake_releases`),
on a socket that has failed with the reason of the failure, and nothing is sent.

`Conveys` puts this together with what a row does (`Ferries`) and with the ends that are told: what
becomes of the sends of an engine while it does one thing, whatever it is.  It is kept by rows that
follow (`Conveys.ferries`).
-/
import IcmpEcho.Proofs.Ferrying

namespace IcmpEcho

variable {e e' e'' : Engine} {k : SocketId} {client : SendClient} {record : RawSocket}
  {clients clients' : List SendClient}

/-! ## 1. The wake of a limiter -/

/-- The senders of a socket are let go one after another, and nothing else happens. -/
structure Releases (k : SocketId) (senders : List Sender) (e e' : Engine) : Prop where
  sockets : e'.sockets = e.sockets
  limiters : e'.limiters = e.limiters
  metered : e.Metered → e'.Metered
  due : ∀ q p, e.due q p ≤ e'.due q p
  all : ∀ q, e'.due q (fun _ => true) = e.due q (fun _ => true) + senders.countP (Sender.isOf q)
  told : e'.rawEnds = e.rawEnds
  sent : ∀ other, other ≠ k → e'.sentFrom other = e.sentFrom other
  failed : (e.fatalOf k).isError →
    (∀ q p, p (e.fatalOf k) → e'.due q p = e.due q p + senders.countP (Sender.isOf q)) ∧
      ∀ other, e'.sentFrom other = e.sentFrom other

namespace Releases

theorem nil (k : SocketId) (e : Engine) : Releases k [] e e where
  sockets := rfl
  limiters := rfl
  metered hm := hm
  due _ _ := Nat.le_refl _
  all _ := rfl
  told := rfl
  sent _ _ := rfl
  failed _ := ⟨fun _ _ _ => rfl, fun _ => rfl⟩

theorem cons {packet : Bytes} {destination : Address} {senders : List Sender}
    (h : Releases k senders (e.launch k packet destination client) e') :
    Releases k (.datagram k packet destination client :: senders) e e' := by
  obtain ⟨code, hends, hfailed⟩ := @Ends.launch e k packet destination client
  have hfatal : (e.launch k packet destination client).fatalOf k = e.fatalOf k := by
    simp only [Engine.fatalOf, hends.sockets]
  have hone : ∀ q : SendClient → Bool,
      (Sender.datagram k packet destination client).isOf q = q client := fun _ => rfl
  have hcount : ∀ (q : SendClient → Bool) (p : ErrorCode → Bool), p code → ∀ n,
      (e.launch k packet destination client).due q p + n
        = e.due q p + (if q client then n + 1 else n) := by
    intro q p hp n
    rw [hends.due, hp]
    cases q client
    · rfl
    · simp only [Bool.and_true, Bool.toNat_true, if_true]
      omega
  refine
    { sockets := h.sockets.trans hends.sockets
      limiters := h.limiters.trans hends.limiters
      metered := fun hm => h.metered (hends.metered hm)
      due := fun q p => ?_
      all := fun q => ?_
      told := h.told.trans hends.told
      sent := fun other hne => (h.sent other hne).trans (hends.sent other hne)
      failed := fun hf => ?_ }
  · have hle := h.due q p
    rw [hends.due] at hle
    omega
  · rw [h.all, hcount q _ rfl, List.countP_cons, hone]
    split
    · rfl
    · rfl
  · obtain ⟨hcode, hsilent⟩ := hfailed hf
    obtain ⟨hdue, hquiet⟩ := h.failed (by rwa [hfatal])
    refine ⟨fun q p hp => ?_, fun other => (hquiet other).trans (hsilent other)⟩
    rw [hdue q p (by rwa [hfatal]), hcount q p (by rwa [hcode]), List.countP_cons, hone]
    split
    · rfl
    · rfl

theorem letGo (senders : List Sender) :
    ∀ {e : Engine} (_ : ∀ sender ∈ senders,
        ∃ packet destination client, sender = .datagram k packet destination client),
      Releases k senders e (senders.foldl Engine.letGo e) := by
  induction senders with
  | nil => exact fun _ => nil k _
  | cons sender senders ih =>
    intro e h
    obtain ⟨packet, destination, client, rfl⟩ := h sender List.mem_cons_self
    exact cons (ih fun other hother => h other (List.mem_cons_of_mem _ hother))

end Releases

namespace Rate.Limiter

/-- Whether somebody sleeps or not, a wake loses no sender. -/
theorem wake_front {α : Type} (round : Number.Rounding) (limiter : Limiter α) (now : Time) :
    (limiter.wake round now).released ++ (limiter.wake round now).limiter.held = limiter.held := by
  by_cases h : limiter.sleeper.isSome
  · exact wake_held round limiter now h
  · have hnone : limiter.sleeper = none := by simpa using h
    simp only [wake, hnone, List.nil_append]

end Rate.Limiter

namespace Engine

/-- **What the wake of a limiter does**: a front part of the senders that it holds is let go. -/
theorem wake_releases (hm : e.Metered) (k : LimiterId) :
    ∃ released mid, Releases k released mid (e.wakeLimiter k) ∧ mid.Metered ∧
      mid.sockets = e.sockets ∧ (∀ other, (e.limiter? other).isSome → (mid.limiter? other).isSome) ∧
      e.heldBy k = released ++ mid.heldBy k ∧
      (∀ other, other ≠ k → mid.heldBy other = e.heldBy other) ∧
      (∀ q p, mid.due q p = e.due q p) ∧ mid.rawEnds = e.rawEnds ∧
      ∀ other, mid.sentFrom other = e.sentFrom other := by
  cases hvalue : e.limiter? k with
  | none =>
    have hsame : e.wakeLimiter k = e := by simp only [wakeLimiter, hvalue]
    rw [hsame]
    exact ⟨[], e, .nil k e, hm, rfl, fun _ h => h, rfl, fun _ _ => rfl, fun _ _ => rfl, rfl,
      fun _ => rfl⟩
  | some value =>
    let wake := value.wake rounding e.now
    obtain ⟨record, hrecord⟩ := hm.exists_socket hvalue
    have hheld : e.heldBy k = value.held := (hm.heldBy hrecord).trans (heldIn_of_some hvalue)
    have hfront : wake.released ++ wake.limiter.held = value.held :=
      Rate.Limiter.wake_front rounding value e.now
    have hsenders : ∀ sender ∈ value.held,
        ∃ packet destination client, sender = .datagram k packet destination client :=
      fun sender hsender => hm.senders k sender (by rwa [heldIn_of_some hvalue])
    have hset : (e.setLimiter k wake.limiter).Metered := by
      refine hm.setLimiter hvalue (fun sender hsender => hsenders sender ?_)
        fun other hother hopen => ?_
      · rw [← hfront]
        exact List.mem_append_right _ hsender
      · have hempty := (hm.shut k other hother hopen).1
        rw [heldIn_of_some hvalue, ← hfront] at hempty
        exact (List.append_eq_nil_iff.1 hempty).2
    have hbeside : Beside (e.setLimiter k wake.limiter) (e.rouse k wake) := by
      unfold rouse
      split
      · exact .refl _
      · exact .setAlarm _ _
    have hsockets : (e.rouse k wake).sockets = e.sockets := by
      unfold rouse
      split
      · rfl
      · rw [(Aside.setAlarm rfl).sockets]
        rfl
    have hby := hm.heldBy_setLimiter hvalue wake.limiter
    refine ⟨wake.released, e.rouse k wake, ?_, hbeside.metered hset, hsockets, fun other hother => ?_,
      ?_, fun other hne => ?_, hbeside.due, hbeside.rawEnds, hbeside.sentFrom⟩
    · have hwake : e.wakeLimiter k = wake.released.foldl letGo (e.rouse k wake) := by
        simp only [wakeLimiter, hvalue]
        rfl
      rw [hwake]
      refine .letGo wake.released fun sender hsender => hsenders sender ?_
      rw [← hfront]
      exact List.mem_append_left _ hsender
    · rw [limiter?, hbeside.limiters]
      change ((e.setLimiter k wake.limiter).limiter? other).isSome
      rw [limiter?_setLimiter hvalue]
      split
      · rfl
      · exact hother
    · rw [hbeside.heldBy, hby, if_pos rfl, hheld, hfront]
    · rw [hbeside.heldBy, hby, if_neg hne]

end Engine

/-! ## 2. One thing that is done -/

/-- Of the senders that a socket holds a front part has its turn, if its limiter wakes, and ends with
the reason of the failure, if there is one.  The others stay, or end with `ErrorCode.aborted`, if the
socket is closed. -/
structure Parts (wakes : Prop) (ended : (SendClient → Bool) → (ErrorCode → Bool) → Nat)
    (k : SocketId) (fatal : ErrorCode) (turned left : List Sender) (e e' : Engine) : Prop where
  held : e.heldBy k = turned ++ left
  wakes : turned ≠ [] → wakes
  turned : fatal.isError → ∀ q p, p fatal →
    e.due q p + turned.countP (Sender.isOf q) ≤ e'.due q p + ended q p
  stay : ∀ record', e'.sockets[k]? = some record' → record'.isOpen →
    (fatal.isError → e'.heldBy k = left) ∧
      ∀ q, left.countP (Sender.isOf q) ≤ (e'.heldBy k).countP (Sender.isOf q)
  shut : ∀ record', e'.sockets[k]? = some record' → record'.isOpen = false →
    e'.heldBy k = [] ∧ ∀ q, e.due q (· = .aborted) + left.countP (Sender.isOf q)
      ≤ e'.due q (· = .aborted) + ended q (· = .aborted)

/-- What happens to the sends of an engine in one go: which limiter wakes, which socket fails with
which code, what was due and is ended now, what of it is told, and which clients submit. -/
structure Conveys (wakes : SocketId → Prop) (fails : SocketId → ErrorCode → Prop)
    (ended : (SendClient → Bool) → (ErrorCode → Bool) → Nat) (told : List Event)
    (clients : List SendClient) (e e' : Engine) : Prop where
  metered : e'.Metered
  /-- A socket that has failed stays as it failed; it fails by being closed, or as `fails` says. -/
  sockets : ∀ (k : SocketId) (record : RawSocket), e.sockets[k]? = some record →
    ∃ record', e'.sockets[k]? = some record' ∧ (record.fatal.isError → record'.fatal = record.fatal) ∧
      (record.isOpen = false → record'.isOpen = false) ∧
      (record'.fatal = record.fatal ∨ record'.isOpen = false ∧ record'.fatal = .aborted ∨
        fails k record'.fatal)
  /-- A new socket works, or was closed at once. -/
  fresh : ∀ (k : SocketId) (record' : RawSocket), e.sockets[k]? = none →
    e'.sockets[k]? = some record' →
    record'.fatal.isError = false ∨ record'.isOpen = false ∧ record'.fatal = .aborted
  furnished : ∀ k, (e.limiter? k).isSome → (e'.limiter? k).isSome
  told : e'.rawEnds = told ++ e.rawEnds
  /-- What is due stays due, with its code, until it is ended. -/
  due : ∀ q p, e.due q p ≤ e'.due q p + ended q p
  /-- No send gets lost, and none is there twice. -/
  total : ∀ q, e'.held q + e'.due q (fun _ => true) + ended q (fun _ => true)
    = e.held q + e.due q (fun _ => true) + clients.countP q
  /-- From a failed socket nothing is sent. -/
  silent : ∀ (k : SocketId) (record : RawSocket), e.sockets[k]? = some record →
    record.fatal.isError → e'.sentFrom k = e.sentFrom k
  turns : ∀ (k : SocketId) (record : RawSocket), e.sockets[k]? = some record →
    ∃ turned left, Parts (wakes k) ended k record.fatal turned left e e'

variable {wakes : SocketId → Prop} {fails : SocketId → ErrorCode → Prop}
  {ended : (SendClient → Bool) → (ErrorCode → Bool) → Nat} {told : List Event}

/-- A closed socket holds nobody. -/
theorem Engine.Metered.heldBy_of_shut (hm : e.Metered) (hrecord : e.sockets[k]? = some record)
    (hopen : record.isOpen = false) : e.heldBy k = [] :=
  (hm.heldBy hrecord).trans (hm.shut k record hrecord hopen).1

/-- Nobody has a turn, and all that a socket holds stays. -/
theorem Parts.of_same {wakes : Prop} {fatal : ErrorCode} (hm : e'.Metered)
    (hheld : e'.heldBy k = e.heldBy k) (hdue : ∀ q p, e.due q p ≤ e'.due q p + ended q p) :
    ∃ turned left, Parts wakes ended k fatal turned left e e' := by
  refine ⟨[], e.heldBy k, rfl, fun hne => absurd rfl hne, fun _ q p _ => hdue q p,
    fun record' _ _ => ⟨fun _ => hheld, fun q => by rw [hheld]⟩, fun record' hrecord' hopen => ?_⟩
  have hempty := hm.heldBy_of_shut hrecord' hopen
  refine ⟨hempty, fun q => ?_⟩
  rw [← hheld, hempty]
  exact hdue q _

namespace Conveys

/-- Nothing but a row is done. -/
theorem of_ferries (h : Ferries clients e e') :
    Conveys wakes fails (fun _ _ => 0) [] clients e e' where
  metered := h.metered
  sockets k record hrecord := by
    obtain ⟨record', hrecord', hages⟩ := h.sockets k record hrecord
    exact ⟨record', hrecord', hages.fatal, hages.closed, hages.cause.imp_right .inl⟩
  fresh := h.fresh
  furnished := h.furnished
  told := h.told
  due := h.due
  total := h.total
  silent := h.silent
  turns k record hrecord := by
    refine ⟨[], e.heldBy k, rfl, fun hne => absurd rfl hne, fun _ q p _ => h.due q p,
      fun record' hrecord' hopen => ⟨fun hf => ?_, ?_⟩, fun record' hrecord' hopen => ?_⟩
    · exact h.stays k record record' hrecord hf hrecord' hopen
    · exact h.grows k record record' hrecord hrecord' hopen
    · have hempty := h.metered.heldBy_of_shut hrecord' hopen
      refine ⟨hempty, fun q => ?_⟩
      have habort := h.aborts k q
      rw [hempty] at habort
      exact habort

/-- **A row that follows makes no difference.** -/
theorem ferries (h : Conveys wakes fails ended told clients e e') (h' : Ferries clients' e' e'') :
    Conveys wakes fails ended told (clients ++ clients') e e'' where
  metered := h'.metered
  sockets k record hrecord := by
    obtain ⟨record', hrecord', hkeeps, hshut, hcause⟩ := h.sockets k record hrecord
    obtain ⟨record'', hrecord'', hages⟩ := h'.sockets k record' hrecord'
    refine ⟨record'', hrecord'', fun hf => ?_, fun hopen => hages.closed (hshut hopen), ?_⟩
    · rw [hages.fatal (by rwa [hkeeps hf]), hkeeps hf]
    · rcases hages.cause with hsame | hclosed
      · rw [hsame]
        exact hcause.imp_right (Or.imp_left fun hclosed => ⟨hages.closed hclosed.1, hclosed.2⟩)
      · exact .inr (.inl hclosed)
  fresh k record'' hnone hrecord'' := by
    cases hmid : e'.sockets[k]? with
    | none => exact h'.fresh k record'' hmid hrecord''
    | some record' =>
      obtain ⟨other, hother, hages⟩ := h'.sockets k record' hmid
      obtain rfl := Option.some.inj (hrecord''.symm.trans hother)
      rcases hages.cause with hsame | hclosed
      · rw [hsame]
        exact (h.fresh k record' hnone hmid).imp_right fun hclosed =>
          ⟨hages.closed hclosed.1, hclosed.2⟩
      · exact .inr hclosed
  furnished k hk := h'.furnished k (h.furnished k hk)
  told := h'.told.trans h.told
  due q p := (h.due q p).trans (Nat.add_le_add_right (h'.due q p) _)
  total q := by
    have hfirst := h.total q
    have hrest := h'.total q
    rw [List.countP_append]
    omega
  silent k record hrecord hf := by
    obtain ⟨record', hrecord', hkeeps, -⟩ := h.sockets k record hrecord
    rw [h'.silent k record' hrecord' (by rwa [hkeeps hf]), h.silent k record hrecord hf]
  turns k record hrecord := by
    obtain ⟨turned, left, hparts⟩ := h.turns k record hrecord
    obtain ⟨record', hrecord', hkeeps, -⟩ := h.sockets k record hrecord
    have hopen' := hparts.stay record' hrecord'
    refine ⟨turned, left, hparts.held, hparts.wakes, fun hf q p hp => ?_,
      fun record'' hrecord'' hopen => ⟨fun hf => ?_, fun q => ?_⟩,
      fun record'' hrecord'' hopen => ?_⟩
    · exact (hparts.turned hf q p hp).trans (Nat.add_le_add_right (h'.due q p) _)
    · rw [h'.stays k record' record'' hrecord' (by rwa [hkeeps hf]) hrecord'' hopen]
      obtain ⟨other, hother, hages⟩ := h'.sockets k record' hrecord'
      obtain rfl := Option.some.inj (hrecord''.symm.trans hother)
      exact (hopen' (hages.isOpen hopen)).1 hf
    · obtain ⟨other, hother, hages⟩ := h'.sockets k record' hrecord'
      obtain rfl := Option.some.inj (hrecord''.symm.trans hother)
      exact ((hopen' (hages.isOpen hopen)).2 q).trans
        (h'.grows k record' record'' hrecord' hrecord'' hopen q)
    · have hempty := h'.metered.heldBy_of_shut hrecord'' hopen
      refine ⟨hempty, fun q => ?_⟩
      have haborts := h'.aborts k q
      have hdue := h.due q (· = .aborted)
      rw [hempty, List.countP_nil] at haborts
      cases hmid : record'.isOpen with
      | true =>
        have hcount := (hopen' hmid).2 q
        omega
      | false =>
        have hcount := (hparts.shut record' hrecord' hmid).2 q
        omega

/-- A task is taken off the queue first. -/
theorem of_task {front back : List Task} {task : Task} (hready : e.ready = front ++ task :: back)
    (h : Conveys wakes fails (fun _ _ => 0) told clients { e with ready := front ++ back } e') :
    Conveys wakes fails (fun q p => (task.ends q p).toNat) told clients e e' := by
  have hdue : ∀ q p, e.due q p
      = ({ e with ready := front ++ back } : Engine).due q p + (task.ends q p).toNat := by
    intro q p
    simp only [Engine.due, hready, List.countP_append, List.countP_cons]
    cases task.ends q p
    · rfl
    · simp only [if_true, Bool.toNat_true]
      omega
  refine { h with due := fun q p => ?_, total := fun q => ?_, turns := fun k record hrecord => ?_ }
  · rw [hdue]
    exact Nat.add_le_add_right (h.due q p) _
  · have hall := h.total q
    have hheld : ({ e with ready := front ++ back } : Engine).held q = e.held q := rfl
    rw [hdue]
    omega
  · obtain ⟨turned, left, hparts⟩ := h.turns k record hrecord
    refine ⟨turned, left, hparts.held, hparts.wakes, fun hf q p hp => ?_, hparts.stay,
      fun record' hrecord' hopen => ⟨(hparts.shut record' hrecord' hopen).1, fun q => ?_⟩⟩
    · have hcount := hparts.turned hf q p hp
      rw [hdue]
      omega
    · have hcount := (hparts.shut record' hrecord' hopen).2 q
      rw [hdue]
      omega

/-- That a raw send or receive has ended is told. -/
theorem recorded (h : Conveys wakes fails ended [] clients e e') {event : Event}
    (hend : event.isEnd) : Conveys wakes fails ended [event] clients e (e'.record event) := by
  have hfrom : ∀ k, event.isFrom k = false := by
    intro k
    cases event <;> simp_all [Event.isEnd, Event.isFrom]
  have htold : (e'.record event).rawEnds = event :: e'.rawEnds := List.filter_cons_of_pos hend
  have hsent : ∀ k, (e'.record event).sentFrom k = e'.sentFrom k := fun k =>
    List.filter_cons_of_neg (by simp [hfrom])
  refine { h with metered := { h.metered with }, told := ?_, silent := fun k record hrecord hf => ?_,
                  turns := fun k record hrecord => ?_ }
  · rw [htold, h.told]
    rfl
  · rw [hsent, h.silent k record hrecord hf]
  · obtain ⟨turned, left, hparts⟩ := h.turns k record hrecord
    exact ⟨turned, left, { hparts with }⟩

/-- **A limiter wakes.** -/
theorem wake (hm : e.Metered) (k : LimiterId) (hwakes : wakes k) :
    Conveys wakes fails (fun _ _ => 0) [] [] e (e.wakeLimiter k) := by
  obtain ⟨released, mid, h, hmid, hsockets, hlimiters, hheld, hothers, hdue, htold, hsent⟩ :=
    Engine.wake_releases hm k
  have hafter : (e.wakeLimiter k).sockets = e.sockets := h.sockets.trans hsockets
  have hby : ∀ other, (e.wakeLimiter k).heldBy other = mid.heldBy other := by
    intro other
    simp only [Engine.heldBy, Engine.heldIn, Engine.limiter?, h.sockets, h.limiters]
  have hmetered := h.metered hmid
  have hfatal : mid.fatalOf k = e.fatalOf k := by simp only [Engine.fatalOf, hsockets]
  have hreason : ∀ record, e.sockets[k]? = some record → e.fatalOf k = record.fatal := by
    intro record hrecord
    simp only [Engine.fatalOf, hrecord]
  refine
    { metered := hmetered
      sockets := fun other record hrecord =>
        ⟨record, by rwa [hafter], fun _ => rfl, fun hopen => hopen, .inl rfl⟩
      fresh := fun other record' hnone hrecord' => ?_
      furnished := fun other hother => ?_
      told := h.told.trans htold
      due := fun q p => (hdue q p).symm.le.trans (h.due q p)
      total := fun q => ?_
      silent := fun other record hrecord hf => ?_
      turns := fun other record hrecord => ?_ }
  · rw [hafter] at hrecord'
    exact absurd (hnone.symm.trans hrecord') (by simp)
  · rw [Engine.limiter?, h.limiters]
    exact hlimiters other hother
  · have hall : (e.wakeLimiter k).held q + released.countP (Sender.isOf q) = e.held q + 0 := by
      by_cases hk : k < e.sockets.size
      · refine @Engine.held_of_one e (e.wakeLimiter k) k q hk (congrArg Array.size hafter)
          (fun other hne => (hby other).trans (hothers other hne)) _ 0 ?_
        rw [hby, hheld, List.countP_append]
        omega
      · have hnone : e.sockets[k]? = none := Array.getElem?_eq_none (Nat.not_lt.1 hk)
        have hempty : e.heldBy k = [] := by simp only [Engine.heldBy, hnone]
        obtain ⟨hreleased, hkept⟩ := List.append_eq_nil_iff.1 (hheld.symm.trans hempty)
        have hsame : ∀ other, (e.wakeLimiter k).heldBy other = e.heldBy other := by
          intro other
          rw [hby]
          by_cases hne : other = k
          · rw [hne, hkept, hempty]
          · exact hothers other hne
        rw [hreleased, Engine.held, Engine.held, hafter]
        simp only [hsame, List.countP_nil]
    rw [h.all, hdue, List.countP_nil]
    omega
  · by_cases hother : other = k
    · subst hother
      have hfailed : (mid.fatalOf other).isError := by rwa [hfatal, hreason record hrecord]
      rw [(h.failed hfailed).2, hsent]
    · rw [h.sent other hother, hsent]
  · by_cases hother : other = k
    · subst hother
      refine ⟨released, mid.heldBy other, hheld, fun _ => hwakes, fun hf q p hp => ?_,
        fun record' _ _ => ⟨fun _ => hby other, fun q => by rw [hby]⟩,
        fun record' hrecord' hopen => ?_⟩
      · have hfailed : (mid.fatalOf other).isError := by rwa [hfatal, hreason record hrecord]
        rw [(h.failed hfailed).1 q p (by rwa [hfatal, hreason record hrecord]), hdue]
        exact Nat.le_refl _
      · have hempty := hmetered.heldBy_of_shut hrecord' hopen
        refine ⟨hempty, fun q => ?_⟩
        rw [← hby, hempty]
        exact (hdue q _).symm.le.trans (h.due q _)
    · exact Parts.of_same hmetered ((hby other).trans (hothers other hother))
        fun q p => (hdue q p).symm.le.trans (h.due q p)

theorem setFatal (hm : e.Metered) (hworks : ¬ (e.fatalOf k).isError) {code : ErrorCode}
    (hfails : fails k code) :
    Conveys wakes fails (fun _ _ => 0) [] [] e (e.setFatal k code) := by
  have hmetered := hm.setFatal hworks code
  refine
    { metered := hmetered
      sockets := fun other record hrecord => ?_
      fresh := fun other record hnone hrecord => ?_
      furnished := fun _ hother => hother
      told := rfl
      due := fun _ _ => Nat.le_refl _
      total := fun q => by rw [Engine.held_setFatal]; rfl
      silent := fun _ _ _ _ => rfl
      turns := fun other _ _ =>
        Parts.of_same hmetered (Engine.heldBy_setFatal e k code other) fun _ _ => Nat.le_refl _ }
  · obtain ⟨after, hafter, hsame, -, hopen, hcause⟩ := Engine.exists_setFatal hworks hrecord
    refine ⟨after, hafter, fun hf => by rw [hsame hf], hopen.trans,
      hcause.imp_right fun hnew => .inr ?_⟩
    obtain ⟨rfl, hfatal⟩ := hnew
    rwa [hfatal]
  · obtain ⟨before, hbefore⟩ := Engine.exists_of_setFatal hrecord
    exact absurd (hnone.symm.trans hbefore) (by simp)

/-- **A receive on a socket has failed**, and with it the socket, unless it had before. -/
theorem failSocket (hm : e.Metered) (k : SocketId) {code : ErrorCode}
    (hfails : fails k code) :
    Conveys wakes fails (fun _ _ => 0) [] [] e (e.failSocket k code) := by
  unfold Engine.failSocket
  split
  · exact of_ferries (.refl hm)
  · next hworks =>
    have hmetered := hm.setFatal hworks code
    exact (setFatal hm hworks hfails).ferries (.of_beside (.of_inward (.logDated _ _)) hmetered)

end Conveys

/-! ## 3. Tasks -/

/-- What is told when a task is performed at a time: how a raw send or receive ended. -/
def Task.tells (now : Time) : Task → List Event
  | .sent (.raw tag) code count => [.sent now tag code count]
  | .turnedAway (.datagram _ _ _ (.raw tag)) => [.sent now tag .aborted 0]
  | .received _ (.raw tag) code source data =>
    if code.isError then [.received now tag code .any []] else [.received now tag code source data]
  | .noReceive (.raw tag) code => [.received now tag code .any []]
  | _ => []

/-- The end of a raw receive is told after the socket has failed with it, if it has. -/
theorem Engine.perform_received (k : SocketId) (tag : String) (code : ErrorCode) (source : Address)
    (data : Bytes) :
    ∃ event, (Task.received k (.raw tag) code source data).tells e.now = [event] ∧ event.isEnd ∧
      e.perform (.received k (.raw tag) code source data)
        = (e.struck (.received k (.raw tag) code source data)).record event := by
  have hnow : (e.failSocket k code).now = e.now := by
    unfold Engine.failSocket
    split
    · rfl
    · exact (Inward.logDated _ _).now
  simp only [struck, perform, socketReceived, Task.tells]
  by_cases hcode : code.isError
  · by_cases haborted : code = .aborted
    · exact ⟨.received e.now tag code .any [], by simp [hcode], rfl, by simp [haborted, receiveEnded]⟩
    · exact ⟨.received e.now tag code .any [], by simp [hcode], rfl,
        by simp [hcode, haborted, receiveEnded, hnow]⟩
  · exact ⟨.received e.now tag code source data, by simp [hcode], rfl, by simp [hcode, receiveEnded]⟩

namespace Conveys

/-- Before all else that a task does a socket may fail. -/
theorem struck (hm : e.Metered) {task : Task}
    (hfails : ∀ k client code source data, task = .received k client code source data →
      code.isError → code ≠ .aborted → fails k code) :
    Conveys wakes fails (fun _ _ => 0) [] [] e (e.struck task) := by
  cases task with
  | received k client code source data =>
    simp only [Engine.struck]
    split
    · next hcode => exact failSocket hm k (hfails k client code source data rfl hcode.1 hcode.2)
    · exact of_ferries (.refl hm)
  | _ => exact of_ferries (.refl hm)

/-- A limiter that wakes submits nothing, and neither does the end of a raw send or receive. -/
theorem perform_apart (hm : e.Metered) {task : Task} (hapart : task.isApart) (hplain : task.isPlain)
    (hwakes : ∀ k code, task = .rang (.limiter k) code → wakes k)
    (hfails : ∀ k client code source data, task = .received k client code source data →
      code.isError → code ≠ .aborted → fails k code) :
    Conveys wakes fails (fun _ _ => 0) (task.tells e.now) [] e (e.perform task) := by
  have hstruck : Conveys wakes fails (fun _ _ => 0) [] [] e (e.struck task) := struck hm hfails
  have hrefl : Conveys wakes fails (fun _ _ => 0) [] [] e e := of_ferries (.refl hm)
  cases task with
  | rang alarm code =>
    cases alarm with
    | limiter k =>
      simp only [Engine.perform, Engine.rang]
      split
      · exact hrefl
      · exact wake hm k (hwakes k code rfl)
    | _ => cases hapart
  | turnedAway sender =>
    cases sender with
    | labelled limiter label again => cases hplain
    | datagram k packet destination client =>
      cases client with
      | call id token timer => cases hapart
      | raw tag => exact hrefl.recorded rfl
  | sent client code count =>
    cases client with
    | call id token timer => cases hapart
    | raw tag => exact hrefl.recorded rfl
  | received k client code source data =>
    cases client with
    | raw tag =>
      obtain ⟨event, htells, hend, hperform⟩ := e.perform_received k tag code source data
      rw [htells, hperform]
      exact hstruck.recorded hend
    | _ => cases hapart
  | noReceive client code =>
    cases client with
    | raw tag => exact hrefl.recorded rfl
    | _ => cases hapart
  | mail reader code letter =>
    cases reader with
    | labelled box label again =>
      refine of_ferries (.of_beside ?_ hm)
      simp only [Engine.perform, Engine.mailArrived, Engine.answerReader]
      split
      · exact .record rfl
      · exact (Beside.record rfl).trans (.of_inward (.askMail _ _))
    | pinger id => cases hapart
  | noPing id number caller code sequence => cases hapart
  | signalled code number => cases hapart

/-- What is not apart tells of no raw send or receive. -/
theorem tells_of_not_apart {task : Task} (hapart : task.isApart = false) (now : Time) :
    task.tells now = [] := by
  cases task with
  | turnedAway sender =>
    cases sender with
    | labelled limiter label again => rfl
    | datagram k packet destination client => cases client <;> first | rfl | cases hapart
  | sent client code count => cases client <;> first | rfl | cases hapart
  | received k client code source data => cases client <;> first | rfl | cases hapart
  | noReceive client code => cases client <;> first | rfl | cases hapart
  | _ => rfl

/-- **What a task does about sends**, once it is taken off the queue. -/
theorem perform (hm : e.Metered) {task : Task} (hplain : task.isPlain)
    (hwakes : ∀ k code, task = .rang (.limiter k) code → wakes k)
    (hfails : ∀ k client code source data, task = .received k client code source data →
      code.isError → code ≠ .aborted → fails k code) :
    ∃ clients, (∀ client ∈ clients, client.isCall) ∧
      Conveys wakes fails (fun _ _ => 0) (task.tells e.now) clients e (e.perform task) := by
  cases hapart : task.isApart with
  | true => exact ⟨[], by simp, perform_apart hm hapart hplain hwakes hfails⟩
  | false =>
    have hstruck : Conveys wakes fails (fun _ _ => 0) [] [] e (e.struck task) := struck hm hfails
    obtain ⟨clients, hcalls, hferries⟩ := Ferries.hauls (Engine.Hauls.perform hapart) hstruck.metered
    rw [tells_of_not_apart hapart]
    exact ⟨clients, hcalls, hstruck.ferries hferries⟩

end Conveys

end IcmpEcho
