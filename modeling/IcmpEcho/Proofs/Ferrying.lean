/-
# What becomes of the sends of a socket

Along a row of `Engine.Hauls` a send that is submitted stays, or its end is due, and nobody is let go
but by the closing of a socket, and then with `ErrorCode.aborted` (`Ferries.aborts`).  A socket that
has failed sends nothing more (`Ferries.silent`), and keeps what it holds until it is closed
(`Ferries.stays`).  **No raw send gets lost on the way and none is there twice** (`Ferries.total`).

`Ferries` is reflexive and transitive, so it is shown for the four things that a row consists of and
holds of the row (`Ferries.hauls`).
-/
import IcmpEcho.Proofs.Sends

namespace IcmpEcho

variable {e e' e'' : Engine} {k : SocketId} {client : SendClient} {record : RawSocket}
  {clients clients' : List SendClient}

/-- The client is a call of a pinger. -/
def SendClient.isCall : SendClient → Bool
  | .call _ _ _ => true
  | .raw _ => false

/-! ## 1. What becomes of sends -/

/-- `b` is a later state of socket `a`, which may have been closed. -/
structure RawSocket.Ages (a b : RawSocket) : Prop where
  limiter : b.limiter = a.limiter
  fatal : a.fatal.isError → b.fatal = a.fatal
  closed : a.isOpen = false → b.isOpen = false
  cause : b.fatal = a.fatal ∨ b.isOpen = false ∧ b.fatal = .aborted

namespace RawSocket

theorem Stands.ages {a b : RawSocket} (h : a.Stands b) : a.Ages b where
  limiter := h.limiter
  fatal _ := h.fatal
  closed hopen := h.isOpen.trans hopen
  cause := .inl h.fatal

theorem Ages.refl (a : RawSocket) : a.Ages a := Stands.ages ⟨rfl, rfl, rfl⟩

/-- A socket that is open was open before. -/
theorem Ages.isOpen {a b : RawSocket} (h : a.Ages b) (hopen : b.isOpen) : a.isOpen := by
  cases hshut : a.isOpen with
  | true => rfl
  | false =>
    rw [h.closed hshut] at hopen
    cases hopen

theorem Ages.trans {a b c : RawSocket} (h : a.Ages b) (h' : b.Ages c) : a.Ages c where
  limiter := h'.limiter.trans h.limiter
  fatal hfailed := by
    rw [h'.fatal (by rw [h.fatal hfailed]; exact hfailed), h.fatal hfailed]
  closed hopen := h'.closed (h.closed hopen)
  cause := by
    rcases h'.cause with hsame | hclosed
    · rcases h.cause with hbefore | ⟨hshut, haborted⟩
      · exact .inl (hsame.trans hbefore)
      · exact .inr ⟨h'.closed hshut, hsame.trans haborted⟩
    · exact .inr hclosed

end RawSocket

/-- What becomes of sends while those of some clients are submitted: a send stays, or its end is due;
nobody is let go but by a socket that is closed. -/
structure Ferries (clients : List SendClient) (e e' : Engine) : Prop where
  metered : e'.Metered
  sockets : ∀ (k : SocketId) (record : RawSocket), e.sockets[k]? = some record →
    ∃ record', e'.sockets[k]? = some record' ∧ record.Ages record'
  fresh : ∀ (k : SocketId) (record' : RawSocket), e.sockets[k]? = none →
    e'.sockets[k]? = some record' →
    record'.fatal.isError = false ∨ record'.isOpen = false ∧ record'.fatal = .aborted
  furnished : ∀ k, (e.limiter? k).isSome → (e'.limiter? k).isSome
  told : e'.rawEnds = e.rawEnds
  due : ∀ q p, e.due q p ≤ e'.due q p
  /-- No send gets lost, and none is there twice. -/
  total : ∀ q : SendClient → Bool,
    e'.held q + e'.due q (fun _ => true) = e.held q + e.due q (fun _ => true) + clients.countP q
  /-- From a failed socket nothing is sent. -/
  silent : ∀ (k : SocketId) (record : RawSocket), e.sockets[k]? = some record →
    record.fatal.isError → e'.sentFrom k = e.sentFrom k
  /-- A failed socket that is not closed goes on holding what it holds. -/
  stays : ∀ (k : SocketId) (record record' : RawSocket), e.sockets[k]? = some record →
    record.fatal.isError → e'.sockets[k]? = some record' → record'.isOpen →
    e'.heldBy k = e.heldBy k
  /-- A socket that is not closed lets nobody go. -/
  grows : ∀ (k : SocketId) (record record' : RawSocket), e.sockets[k]? = some record →
    e'.sockets[k]? = some record' → record'.isOpen →
    ∀ q, (e.heldBy k).countP (Sender.isOf q) ≤ (e'.heldBy k).countP (Sender.isOf q)
  /-- What is let go is turned away. -/
  aborts : ∀ k q, e.due q (· = .aborted) + (e.heldBy k).countP (Sender.isOf q)
    ≤ e'.due q (· = .aborted) + (e'.heldBy k).countP (Sender.isOf q)

namespace Ferries

theorem of_beside (h : Beside e e') (hm : e.Metered) : Ferries [] e e' where
  metered := h.metered hm
  sockets k record hrecord := by
    obtain ⟨record', hrecord', hstands⟩ := h.socket hrecord
    exact ⟨record', hrecord', hstands.ages⟩
  fresh k record' hnone hrecord' := by
    obtain ⟨record, hrecord, -⟩ := h.sockets k record' hrecord'
    exact absurd (hnone.symm.trans hrecord) (by simp)
  furnished k hk := by rwa [Engine.limiter?, h.limiters]
  told := h.rawEnds
  due q p := (h.due q p).ge
  total q := by rw [h.held, h.due, List.countP_nil, Nat.add_zero]
  silent k _ _ _ := h.sentFrom k
  stays k _ _ _ _ _ _ := h.heldBy k
  grows k _ _ _ _ _ q := by rw [h.heldBy]
  aborts k q := by rw [h.due, h.heldBy]

theorem refl (hm : e.Metered) : Ferries [] e e := of_beside (.refl e) hm

theorem trans (h : Ferries clients e e') (h' : Ferries clients' e' e'') :
    Ferries (clients ++ clients') e e'' where
  metered := h'.metered
  sockets k record hrecord := by
    obtain ⟨record', hrecord', hages⟩ := h.sockets k record hrecord
    obtain ⟨record'', hrecord'', hages'⟩ := h'.sockets k record' hrecord'
    exact ⟨record'', hrecord'', hages.trans hages'⟩
  fresh k record'' hnone hrecord'' := by
    cases hmid : e'.sockets[k]? with
    | none => exact h'.fresh k record'' hmid hrecord''
    | some record' =>
      obtain ⟨other, hother, hages⟩ := h'.sockets k record' hmid
      obtain rfl := Option.some.inj (hrecord''.symm.trans hother)
      rcases hages.cause with hsame | hclosed
      · rcases h.fresh k record' hnone hmid with hworks | ⟨hshut, haborted⟩
        · exact .inl (hsame ▸ hworks)
        · exact .inr ⟨hages.closed hshut, hsame.trans haborted⟩
      · exact .inr hclosed
  furnished k hk := h'.furnished k (h.furnished k hk)
  told := h'.told.trans h.told
  due q p := (h.due q p).trans (h'.due q p)
  total q := by
    rw [h'.total, h.total, List.countP_append]
    exact Nat.add_assoc _ _ _
  silent k record hrecord hfailed := by
    obtain ⟨record', hrecord', hages⟩ := h.sockets k record hrecord
    have hfailed' : record'.fatal.isError := by rwa [hages.fatal hfailed]
    rw [h'.silent k record' hrecord' hfailed', h.silent k record hrecord hfailed]
  stays k record record'' hrecord hfailed hrecord'' hopen := by
    obtain ⟨record', hrecord', hages⟩ := h.sockets k record hrecord
    obtain ⟨other, hother, hages'⟩ := h'.sockets k record' hrecord'
    obtain rfl := Option.some.inj (hrecord''.symm.trans hother)
    have hfailed' : record'.fatal.isError := by rwa [hages.fatal hfailed]
    rw [h'.stays k record' record'' hrecord' hfailed' hrecord'' hopen,
      h.stays k record record' hrecord hfailed hrecord' (hages'.isOpen hopen)]
  grows k record record'' hrecord hrecord'' hopen q := by
    obtain ⟨record', hrecord', hages⟩ := h.sockets k record hrecord
    obtain ⟨other, hother, hages'⟩ := h'.sockets k record' hrecord'
    obtain rfl := Option.some.inj (hrecord''.symm.trans hother)
    exact (h.grows k record record' hrecord hrecord' (hages'.isOpen hopen) q).trans
      (h'.grows k record' record'' hrecord' hrecord'' hopen q)
  aborts k q := (h.aborts k q).trans (h'.aborts k q)

/-- A send ends, and nothing was sent from a failed socket. -/
theorem of_ends {code : ErrorCode} (h : Ends k client code e e')
    (hsilent : ∀ (other : SocketId) (record : RawSocket), e.sockets[other]? = some record →
      record.fatal.isError → e'.sentFrom other = e.sentFrom other) (hm : e.Metered) :
    Ferries [client] e e' where
  metered := h.metered hm
  sockets other record hrecord := ⟨record, by rwa [h.sockets], .refl record⟩
  fresh other record' hnone hrecord' :=
    absurd (hnone.symm.trans (h.sockets ▸ hrecord')) (by simp)
  furnished other hk := by rwa [Engine.limiter?, h.limiters]
  told := h.told
  due q p := by
    rw [h.due]
    exact Nat.le_add_right _ _
  total q := by
    rw [h.held, h.due, List.countP_singleton]
    cases q client
    · rfl
    · simp [Nat.add_assoc]
  silent := hsilent
  stays other _ _ _ _ _ _ := h.heldBy other
  grows other _ _ _ _ _ q := by rw [h.heldBy]
  aborts other q := by
    rw [h.due, h.heldBy]
    omega

theorem launch (hm : e.Metered) (packet : Bytes) (destination : Address) (client : SendClient) :
    Ferries [client] e (e.launch k packet destination client) := by
  obtain ⟨code, hends, hfailed⟩ := @Ends.launch e k packet destination client
  refine of_ends hends (fun other record hrecord hother => ?_) hm
  by_cases heq : other = k
  · subst heq
    exact (hfailed (by simpa [Engine.fatalOf, hrecord] using hother)).2 other
  · exact hends.sent other heq

/-- The limiter of a socket that works gets other senders. -/
theorem setLimiter (hm : e.Metered) {old value : Rate.Limiter Sender}
    (h : e.limiter? k = some old) (hrecord : e.sockets[k]? = some record)
    (hworks : record.fatal.isError = false)
    (hsenders : ∀ sender ∈ value.held,
      ∃ packet destination client, sender = .datagram k packet destination client)
    (hmore : ∀ q, value.held.countP (Sender.isOf q)
      = old.held.countP (Sender.isOf q) + clients.countP q) :
    Ferries clients e (e.setLimiter k value) := by
  have hheld := hm.heldBy_setLimiter h value
  have hold : e.heldBy k = old.held := (hm.heldBy hrecord).trans (Engine.heldIn_of_some h)
  have hk : k < e.sockets.size := (Array.getElem?_eq_some_iff.1 hrecord).1
  have hle : ∀ other q, (e.heldBy other).countP (Sender.isOf q)
      ≤ ((e.setLimiter k value).heldBy other).countP (Sender.isOf q) := by
    intro other q
    rw [hheld]
    split
    · next heq =>
      rw [heq, hold, hmore]
      exact Nat.le_add_right _ _
    · exact Nat.le_refl _
  refine
    { metered := hm.setLimiter h hsenders fun record' hrecord' hopen => ?_
      sockets := fun other record hrecord => ⟨record, hrecord, .refl record⟩
      fresh := fun other record' hnone hrecord' =>
        absurd (hnone.symm.trans hrecord') (by simp)
      furnished := fun other hother => ?_
      told := rfl
      due := fun _ _ => Nat.le_refl _
      total := fun q => ?_
      silent := fun _ _ _ _ => rfl
      stays := fun other failed record' hfailed hf _ _ => ?_
      grows := fun other _ _ _ _ _ q => hle other q
      aborts := fun other q => Nat.add_le_add_left (hle other q) _ }
  · obtain rfl := Option.some.inj (hrecord.symm.trans hrecord')
    rcases (hm.shut k record hrecord hopen).2 with hfailed | hnone
    · exact absurd hfailed (by simp [hworks])
    · exact absurd (h.symm.trans hnone) (by simp)
  · rw [Engine.limiter?_setLimiter h]
    split
    · rfl
    · exact hother
  · have hone : (e.setLimiter k value).held q + 0 = e.held q + clients.countP q := by
      refine @Engine.held_of_one e (e.setLimiter k value) k q hk rfl (fun other hne => ?_) 0 _ ?_
      · rw [hheld, if_neg hne]
      · rw [hheld, if_pos rfl, hold, hmore, Nat.add_zero]
    have hdue : (e.setLimiter k value).due q (fun _ => true) = e.due q (fun _ => true) := rfl
    omega
  · rw [hheld]
    split
    · next heq =>
      subst heq
      obtain rfl := Option.some.inj (hrecord.symm.trans hfailed)
      exact absurd hf (by simp [hworks])
    · rfl

/-- **A datagram is submitted** to a socket that has a limiter. -/
theorem submit (hm : e.Metered) (hrecord : e.sockets[k]? = some record)
    (hlimiter : (e.limiter? k).isSome) (packet : Bytes) (destination : Address)
    (client : SendClient) : Ferries [client] e (e.submit k packet destination client) := by
  let sender : Sender := .datagram k packet destination client
  simp only [Engine.submit, hrecord]
  split
  · exact of_ends (.post k _ _ _) (fun _ _ _ _ => rfl) hm
  · next hworks =>
    obtain ⟨value, hvalue⟩ := Option.isSome_iff_exists.1 hlimiter
    obtain ⟨after, hbeside, hsockets, hask⟩ :=
      @Engine.ask_held e value k sender fun e => e.launch k packet destination client
    have hsenders : ∀ held ∈ value.held,
        ∃ packet destination client, held = .datagram k packet destination client :=
      fun held hheld => hm.senders k held (by rwa [Engine.heldIn_of_some hvalue])
    rw [hm.own k record hrecord, hvalue]
    change Ferries [client] e
      (e.ask k value sender fun e => e.launch k packet destination client)
    rcases hask with ⟨hsame, hgo⟩ | ⟨hperm, hheld⟩
    · have hset : Ferries [] e (e.setLimiter k after) := by
        refine setLimiter hm hvalue hrecord (by simpa using hworks) ?_ fun q => ?_
        · rwa [hsame]
        · rw [hsame, List.countP_nil, Nat.add_zero]
      have hasked := hset.trans (of_beside hbeside hset.metered)
      rw [hgo]
      exact hasked.trans (launch hasked.metered _ _ _)
    · have hset : Ferries [client] e (e.setLimiter k after) := by
        refine setLimiter hm hvalue hrecord (by simpa using hworks) (fun held hheld => ?_)
          fun q => ?_
        · rcases List.mem_cons.1 (hperm.mem_iff.1 hheld) with rfl | hold
          · exact ⟨_, _, _, rfl⟩
          · exact hsenders held hold
        · rw [hperm.countP_eq, List.countP_cons, List.countP_singleton]
          rfl
      rw [hheld]
      exact hset.trans (of_beside hbeside hset.metered)

/-- Whatever the socket is, nothing else is submitted. -/
theorem submit_any (hm : e.Metered) (k : SocketId) (packet : Bytes) (destination : Address)
    (client : SendClient) :
    ∃ clients, (∀ other ∈ clients, other = client) ∧
      Ferries clients e (e.submit k packet destination client) := by
  cases hrecord : e.sockets[k]? with
  | none =>
    have hsame : e.submit k packet destination client = e := by simp only [Engine.submit, hrecord]
    rw [hsame]
    exact ⟨[], by simp, refl hm⟩
  | some record =>
    cases hlimiter : e.limiter? k with
    | some value => exact ⟨[client], by simp, submit hm hrecord (by simp [hlimiter]) _ _ _⟩
    | none =>
      simp only [Engine.submit, hrecord, hm.own k record hrecord, hlimiter]
      split
      · exact ⟨[client], by simp, of_ends (.post k _ _ _) (fun _ _ _ _ => rfl) hm⟩
      · exact ⟨[], by simp, refl hm⟩

end Ferries

/-! ## 2. Closing -/

namespace Engine

/-- All senders that a limiter holds are turned away. -/
theorem cancelLimiter_eq (limiter : LimiterId) {value : Rate.Limiter Sender}
    (h : e.limiter? limiter = some value) :
    e.cancelLimiter limiter
      = { (e.cancelAlarm (.limiter limiter)).setLimiter limiter value.cancel.1 with
          ready := (e.cancelAlarm (.limiter limiter)).ready ++ value.held.map .turnedAway } := by
  have hposts : ∀ (senders : List Sender) (e : Engine),
      senders.foldl (fun e sender => e.post (.turnedAway sender)) e
        = { e with ready := e.ready ++ senders.map .turnedAway } := by
    intro senders
    induction senders with
    | nil => intro e; simp
    | cons sender senders ih =>
      intro e
      rw [List.foldl_cons, ih]
      simp [post]
  simp only [cancelLimiter, h]
  rw [hposts]
  rfl

/-- What giving up the sleep of the limiter of a socket does to its sends. -/
structure GivesUp (k : SocketId) (e e' : Engine) : Prop where
  limiterCount : e'.limiters.size = e.limiters.size
  limiter : ∀ other, (e'.limiter? other).isSome = (e.limiter? other).isSome
  heldIn : ∀ other, e'.heldIn other = if other = k then [] else e.heldIn other
  due : ∀ q p, e'.due q p
    = e.due q p + (e.heldIn k).countP fun sender => sender.isOf q && p .aborted
  told : e'.rawEnds = e.rawEnds
  sent : ∀ other, e'.sentFrom other = e.sentFrom other
  ready : ∀ task ∈ e'.ready, task.isSend → task ∈ e.ready ∨ ∃ sender ∈ e.heldIn k,
    task = .turnedAway sender
  timeline : ∀ entry ∈ e'.timeline, entry.2.isReady → entry ∈ e.timeline

/-- What goes on beside after that makes no difference. -/
theorem GivesUp.beside (h : GivesUp k e e') (hb : Beside e' e'') : GivesUp k e e'' where
  limiterCount := by rw [hb.limiters, h.limiterCount]
  limiter other := by rw [limiter?, hb.limiters]; exact h.limiter other
  heldIn other := by rw [hb.heldIn, h.heldIn]
  due q p := by rw [hb.due, h.due]
  told := hb.rawEnds.trans h.told
  sent other := by rw [hb.sentFrom, h.sent]
  ready task ht hsend := by
    have hmem : task ∈ e''.ready.filter Task.isSend := List.mem_filter.2 ⟨ht, hsend⟩
    rw [hb.ready] at hmem
    exact h.ready task (List.mem_filter.1 hmem).1 hsend
  timeline entry hentry hready := by
    have hmem : entry ∈ e''.timeline.filter (fun entry => entry.2.isReady) :=
      List.mem_filter.2 ⟨hentry, hready⟩
    rw [hb.timeline] at hmem
    exact h.timeline entry (List.mem_filter.1 hmem).1 hready

theorem cancelLimiter_givesUp (k : LimiterId) : GivesUp k e (e.cancelLimiter k) := by
  cases hvalue : e.limiter? k with
  | none =>
    have hsame : e.cancelLimiter k = e := by simp only [cancelLimiter, hvalue]
    have hempty : e.heldIn k = [] := by
      simp only [Engine.heldIn, hvalue, Option.map_none, Option.getD_none]
    rw [hsame]
    refine ⟨rfl, fun _ => rfl, fun other => ?_, fun q p => ?_, rfl, fun _ => rfl,
      fun task h _ => .inl h, fun _ h _ => h⟩
    · split
      · next heq => rw [heq, hempty]
      · rfl
    · simp [hempty]
  | some value =>
    let quiet := e.cancelAlarm (.limiter k)
    have hquiet : Beside e quiet := .cancelAlarm _
    have hvalue' : quiet.limiter? k = some value := by rw [limiter?, hquiet.limiters]; exact hvalue
    rw [cancelLimiter_eq k hvalue]
    refine ⟨?_, fun other => ?_, fun other => ?_, fun q p => ?_,
      hquiet.rawEnds, fun other => hquiet.sentFrom other, fun task ht hsend => ?_,
      fun entry hentry hready => ?_⟩
    · exact Array.size_modify.trans (congrArg Array.size hquiet.limiters)
    · have hset : (quiet.setLimiter k value.cancel.1).limiter? other
          = if k = other then some value.cancel.1 else quiet.limiter? other :=
        limiter?_setLimiter hvalue' _ _
      change ((quiet.setLimiter k value.cancel.1).limiter? other).isSome = _
      rw [hset]
      split
      · next heq => rw [← heq, hvalue]; rfl
      · rw [limiter?, hquiet.limiters]
        rfl
    · have hset := heldIn_setLimiter hvalue' value.cancel.1 other
      change (quiet.setLimiter k value.cancel.1).heldIn other = _
      rw [hset, hquiet.heldIn]
      simp only [Rate.Limiter.cancel, Rate.Limiter.held, eq_comm, Option.toList_none,
        List.append_nil]
    · rw [heldIn_of_some hvalue, ← hquiet.due q p]
      simp only [Engine.due, List.countP_append, List.countP_map]
      exact Nat.add_right_comm _ _ _
    · rcases List.mem_append.1 ht with hold | hnew
      · have hmem : task ∈ quiet.ready.filter Task.isSend := List.mem_filter.2 ⟨hold, hsend⟩
        rw [hquiet.ready] at hmem
        exact .inl (List.mem_filter.1 hmem).1
      · obtain ⟨sender, hsender, rfl⟩ := List.mem_map.1 hnew
        rw [heldIn_of_some hvalue]
        exact .inr ⟨sender, hsender, rfl⟩
    · have hmem : entry ∈ quiet.timeline.filter (fun entry => entry.2.isReady) :=
        List.mem_filter.2 ⟨hentry, hready⟩
      rw [hquiet.timeline] at hmem
      exact (List.mem_filter.1 hmem).1

end Engine

/-! ### A socket that fails

A socket that notes a reason keeps its limiter, and what the limiter holds. -/

namespace Engine

/-- A socket notes why it has failed. -/
def setFatal (e : Engine) (k : SocketId) (code : ErrorCode) : Engine :=
  e.updateSocket k fun record => { record with fatal := code }

theorem sockets_setFatal (e : Engine) (k : SocketId) (code : ErrorCode) (other : SocketId) :
    (e.setFatal k code).sockets[other]? = if k = other then
      e.sockets[other]?.map (fun record => { record with fatal := code })
      else e.sockets[other]? :=
  Array.getElem?_modify

theorem size_setFatal (e : Engine) (k : SocketId) (code : ErrorCode) :
    (e.setFatal k code).sockets.size = e.sockets.size :=
  Array.size_modify

/-- A socket that has not failed notes the reason, and no socket changes otherwise. -/
theorem exists_setFatal {code : ErrorCode} (hworks : ¬ (e.fatalOf k).isError) {other : SocketId}
    (hrecord : e.sockets[other]? = some record) :
    ∃ record', (e.setFatal k code).sockets[other]? = some record' ∧
      (record.fatal.isError → record' = record) ∧ record'.limiter = record.limiter ∧
      record'.isOpen = record.isOpen ∧
      (record'.fatal = record.fatal ∨ k = other ∧ record'.fatal = code) := by
  rw [sockets_setFatal, hrecord]
  split
  · next heq =>
    subst heq
    refine ⟨_, rfl, fun hf => absurd ?_ hworks, rfl, rfl, .inr ⟨rfl, rfl⟩⟩
    simpa only [fatalOf, hrecord] using hf
  · exact ⟨record, rfl, fun _ => rfl, rfl, rfl, .inl rfl⟩

/-- A socket that is there afterwards was there before. -/
theorem exists_of_setFatal {code : ErrorCode} {other : SocketId}
    (hrecord : (e.setFatal k code).sockets[other]? = some record) :
    ∃ before, e.sockets[other]? = some before := by
  rw [sockets_setFatal] at hrecord
  split at hrecord
  · obtain ⟨before, hbefore, -⟩ := Option.map_eq_some_iff.1 hrecord
    exact ⟨before, hbefore⟩
  · exact ⟨record, hrecord⟩

theorem heldBy_setFatal (e : Engine) (k : SocketId) (code : ErrorCode) (other : SocketId) :
    (e.setFatal k code).heldBy other = e.heldBy other := by
  simp only [heldBy, sockets_setFatal]
  by_cases hother : k = other
  · simp only [hother, if_true]
    cases e.sockets[other]? <;> rfl
  · simp only [hother, if_false]
    rfl

theorem held_setFatal (e : Engine) (k : SocketId) (code : ErrorCode) (q : SendClient → Bool) :
    (e.setFatal k code).held q = e.held q := by
  simp only [held, size_setFatal, heldBy_setFatal]

theorem Metered.setFatal (hm : e.Metered) (hworks : ¬ (e.fatalOf k).isError) (code : ErrorCode) :
    (e.setFatal k code).Metered := by
  refine { hm with
    count := by rw [size_setFatal]; exact hm.count
    own := fun other record hrecord => ?_
    shut := fun other record hrecord hopen => ?_ }
  all_goals
    obtain ⟨before, hbefore⟩ := exists_of_setFatal hrecord
    obtain ⟨after, hafter, hsame, hlimiter, hkept, -⟩ := exists_setFatal hworks hbefore
    obtain rfl := Option.some.inj (hrecord.symm.trans hafter)
  · rw [hlimiter, hm.own other before hbefore]
  · obtain ⟨hempty, hfatal⟩ := hm.shut other before hbefore (hkept.symm.trans hopen)
    exact ⟨hempty, hfatal.imp_left fun hf => by rwa [hsame hf]⟩

end Engine

namespace Ferries

/-- A socket that is closed has failed, for the reason that it had or because it is given up; the
others are left alone. -/
theorem sockets_failed (hrecord : e.sockets[k]? = some record) {other : SocketId}
    {after : RawSocket}
    (hafter : (if record.fatal.isError then e else e.setFatal k .aborted).sockets[other]?
      = some after) :
    ∃ before, e.sockets[other]? = some before ∧ after.limiter = before.limiter ∧
      after.isOpen = before.isOpen ∧ (before.fatal.isError → after.fatal = before.fatal) ∧
      (after.fatal = before.fatal ∨ after.fatal = .aborted) ∧
      (other = k → after.fatal.isError) ∧ (other ≠ k → after = before) := by
  split at hafter
  · next hf =>
    refine ⟨after, hafter, rfl, rfl, fun _ => rfl, .inl rfl, ?_, fun _ => rfl⟩
    rintro rfl
    obtain rfl := Option.some.inj (hrecord.symm.trans hafter)
    exact hf
  · next hworks =>
    rw [Engine.sockets_setFatal] at hafter
    split at hafter
    · next heq =>
      subst heq
      rw [hrecord] at hafter
      obtain rfl := Option.some.inj hafter
      exact ⟨record, hrecord, rfl, rfl, fun hf => absurd hf hworks, .inr rfl, fun _ => rfl,
        fun hne => absurd rfl hne⟩
    · next hne => exact ⟨after, hafter, rfl, rfl, fun _ => rfl, .inl rfl,
        fun heq => absurd heq.symm hne, fun _ => rfl⟩

/-- What becomes of the sockets when one is closed. -/
theorem sockets_closeSocket (hrecord : e.sockets[k]? = some record) (other : SocketId)
    (record' : RawSocket) (hrecord' : (e.closeSocket k).sockets[other]? = some record') :
    ∃ before, e.sockets[other]? = some before ∧ before.Ages record' ∧
      (other = k → record'.isOpen = false ∧ record'.fatal.isError) ∧
      (other ≠ k → before.Stands record') := by
  let failed := if record.fatal.isError then e else e.setFatal k .aborted
  have hended : Beside (failed.cancelLimiter record.limiter)
      ((failed.cancelLimiter record.limiter).endReceive k .aborted) := .of_inward (.endReceive _ _)
  have hclose : e.closeSocket k = ((failed.cancelLimiter record.limiter).endReceive k
      .aborted).updateSocket k fun record => { record with isOpen := false, backlog := [] } := by
    simp only [Engine.closeSocket, hrecord]
    rfl
  have hmid : ∀ (other : SocketId) (after : RawSocket),
      ((failed.cancelLimiter record.limiter).endReceive k .aborted).sockets[other]? = some after →
      ∃ before, failed.sockets[other]? = some before ∧ before.Stands after := by
    intro other after hafter
    obtain ⟨before, hbefore, hstands⟩ := hended.sockets other after hafter
    rw [(Aside.cancelLimiter _).sockets] at hbefore
    exact ⟨before, hbefore, hstands⟩
  rw [hclose] at hrecord'
  simp only [Engine.updateSocket, Array.getElem?_modify] at hrecord'
  split at hrecord'
  · next heq =>
    subst heq
    obtain ⟨after, hafter, rfl⟩ := Option.map_eq_some_iff.1 hrecord'
    obtain ⟨mid, hmid, hstands⟩ := hmid _ after hafter
    obtain ⟨before, hbefore, hlimiter, hopen, hkeeps, hcause, herror, -⟩ :=
      sockets_failed hrecord hmid
    have hfatal : after.fatal.isError := by rw [hstands.fatal]; exact herror rfl
    refine ⟨before, hbefore, ⟨hstands.limiter.trans hlimiter, fun hf => ?_, fun _ => rfl, ?_⟩,
      fun _ => ⟨rfl, hfatal⟩, fun hne => absurd rfl hne⟩
    · exact hstands.fatal.trans (hkeeps hf)
    · rcases hcause with hsame | haborted
      · exact .inl (hstands.fatal.trans hsame)
      · exact .inr ⟨rfl, hstands.fatal.trans haborted⟩
  · next hne =>
    obtain ⟨mid, hmid, hstands⟩ := hmid _ record' hrecord'
    obtain ⟨before, hbefore, -, -, -, -, -, hsame⟩ := sockets_failed hrecord hmid
    obtain rfl := hsame (Ne.symm hne)
    exact ⟨mid, hbefore, hstands.ages, fun heq => absurd heq.symm hne, fun _ => hstands⟩

theorem size_closeSocket (k : SocketId) : (e.closeSocket k).sockets.size = e.sockets.size := by
  unfold Engine.closeSocket
  split
  · rfl
  · next record _ =>
    refine Array.size_modify.trans ((Beside.of_inward (.endReceive _ _)).socketCount.trans ?_)
    rw [(Aside.cancelLimiter _).sockets]
    split
    · rfl
    · exact Engine.size_setFatal e k .aborted

/-- A closed socket gives up the sleep of its limiter. -/
theorem givesUp_closeSocket (hm : e.Metered) (hrecord : e.sockets[k]? = some record) :
    Engine.GivesUp k e (e.closeSocket k) := by
  have hgiven : Engine.GivesUp k e
      ((if record.fatal.isError then e else e.setFatal k .aborted).cancelLimiter k) := by
    split
    · exact Engine.cancelLimiter_givesUp k
    · exact { @Engine.cancelLimiter_givesUp (e.setFatal k .aborted) k with }
  have hended := hgiven.beside (.of_inward (.endReceive k .aborted))
  simp only [Engine.closeSocket, hrecord, hm.own k record hrecord]
  exact { hended with }

/-- Every socket is still there, and has not become better. -/
theorem ages_closeSocket (hrecord : e.sockets[k]? = some record) {other : SocketId}
    {before : RawSocket} (hbefore : e.sockets[other]? = some before) :
    ∃ after, (e.closeSocket k).sockets[other]? = some after ∧ before.Ages after := by
  have hlt : other < (e.closeSocket k).sockets.size := by
    rw [size_closeSocket]
    exact (Array.getElem?_eq_some_iff.1 hbefore).1
  obtain ⟨before', hbefore', hages, -⟩ :=
    sockets_closeSocket hrecord other _ (Array.getElem?_eq_getElem hlt)
  obtain rfl := Option.some.inj (hbefore.symm.trans hbefore')
  exact ⟨_, Array.getElem?_eq_getElem hlt, hages⟩

section Closed

variable (hm : e.Metered) (hrecord : e.sockets[k]? = some record)

include hm hrecord

/-- The closed socket holds nothing, and the others what they held. -/
theorem heldBy_closeSocket (other : SocketId) :
    (e.closeSocket k).heldBy other = if other = k then [] else e.heldBy other := by
  have hgives := givesUp_closeSocket hm hrecord
  cases hbefore : e.sockets[other]? with
  | some before =>
    obtain ⟨after, hafter, hages⟩ := ages_closeSocket hrecord hbefore
    rw [Engine.heldBy_of_some hafter, hages.limiter, hm.own other before hbefore, hgives.heldIn,
      hm.heldBy hbefore]
  | none =>
    have hne : other ≠ k := by
      rintro rfl
      exact absurd (hbefore.symm.trans hrecord) (by simp)
    have hafter : (e.closeSocket k).sockets[other]? = none := by
      rw [Array.getElem?_eq_none_iff] at hbefore ⊢
      rwa [size_closeSocket]
    simp only [Engine.heldBy, hbefore, hafter, if_neg hne]

/-- A socket that is open afterwards is not the one that was closed. -/
theorem heldBy_closeSocket_of_isOpen {other : SocketId} {after : RawSocket}
    (hafter : (e.closeSocket k).sockets[other]? = some after) (hopen : after.isOpen) :
    (e.closeSocket k).heldBy other = e.heldBy other := by
  obtain ⟨before, -, -, hself, -⟩ := sockets_closeSocket hrecord other after hafter
  rw [heldBy_closeSocket hm hrecord, if_neg]
  rintro rfl
  exact absurd hopen (by simp [(hself rfl).1])

/-- Whoever the closed socket held is turned away. -/
theorem due_closeSocket (q : SendClient → Bool) {p : ErrorCode → Bool} (hp : p .aborted = true) :
    (e.closeSocket k).due q p = e.due q p + (e.heldBy k).countP (Sender.isOf q) := by
  rw [(givesUp_closeSocket hm hrecord).due, hm.heldBy hrecord]
  simp only [hp, Bool.and_true]

/-- What the closed socket held is due instead. -/
theorem held_closeSocket (q : SendClient → Bool) :
    (e.closeSocket k).held q + (e.heldBy k).countP (Sender.isOf q) = e.held q := by
  have hk : k < e.sockets.size := (Array.getElem?_eq_some_iff.1 hrecord).1
  have hheld := heldBy_closeSocket hm hrecord
  refine @Engine.held_of_one e (e.closeSocket k) k q hk (size_closeSocket k) (fun other hne => ?_) _ 0
    ?_
  · rw [hheld, if_neg hne]
  · rw [hheld, if_pos rfl]
    simp

theorem metered_closeSocket : (e.closeSocket k).Metered := by
  have hgives := givesUp_closeSocket hm hrecord
  have hback := sockets_closeSocket hrecord
  refine
    { count := by rw [hgives.limiterCount, size_closeSocket, hm.count]
      own := fun other after hafter => ?_
      senders := fun other sender hsender => ?_
      shut := fun other after hafter hopen => ?_
      ready := fun task ht => ?_
      timeline := fun entry hentry task htask => ?_ }
  · obtain ⟨before, hbefore, hages, -⟩ := hback other after hafter
    rw [hages.limiter, hm.own other before hbefore]
  · rw [hgives.heldIn] at hsender
    split at hsender
    · cases hsender
    · exact hm.senders other sender hsender
  · obtain ⟨before, hbefore, hages, hself, hstands⟩ := hback other after hafter
    rw [hgives.heldIn]
    split
    · next heq => exact ⟨rfl, .inl (hself heq).2⟩
    · next hne =>
      obtain ⟨hnone, hfailed⟩ :=
        hm.shut other before hbefore ((hstands hne).isOpen.symm.trans hopen)
      refine ⟨hnone, hfailed.imp (fun hf => by rwa [(hstands hne).fatal]) fun hno => ?_⟩
      have hsome := hgives.limiter other
      rw [hno] at hsome
      exact Option.not_isSome_iff_eq_none.1 (by simp [hsome])
  · cases hplain : task.isPlain with
    | true => rfl
    | false =>
      rcases hgives.ready task ht (Task.isSend_of_not_isPlain hplain) with
        hold | ⟨sender, hsender, rfl⟩
      · exact absurd (hm.ready task hold) (by simp [hplain])
      · obtain ⟨packet, destination, client, rfl⟩ := hm.senders k sender hsender
        cases hplain
  · exact hm.timeline entry (hgives.timeline entry hentry (by rw [htask]; rfl)) task htask

end Closed

/-- **A socket is closed**, and its limiter lets go of all. -/
theorem closeSocket (hm : e.Metered) (k : SocketId) : Ferries [] e (e.closeSocket k) := by
  cases hrecord : e.sockets[k]? with
  | none =>
    have hsame : e.closeSocket k = e := by simp only [Engine.closeSocket, hrecord]
    rw [hsame]
    exact refl hm
  | some record =>
    have hgives := givesUp_closeSocket hm hrecord
    have hkept := @heldBy_closeSocket_of_isOpen _ _ _ hm hrecord
    refine
      { metered := metered_closeSocket hm hrecord
        sockets := fun _ _ hbefore => ages_closeSocket hrecord hbefore
        fresh := fun other after hnone hafter => ?_
        furnished := fun other hsome => by rwa [hgives.limiter]
        told := hgives.told
        due := fun q p => by rw [hgives.due]; exact Nat.le_add_right _ _
        total := fun q => ?_
        silent := fun other _ _ _ => hgives.sent other
        stays := fun other before after _ _ hafter hopen => hkept hafter hopen
        grows := fun other before after _ hafter hopen q => by rw [hkept hafter hopen]
        aborts := fun other q => ?_ }
    · obtain ⟨before, hbefore, -⟩ := sockets_closeSocket hrecord other after hafter
      exact absurd (hnone.symm.trans hbefore) (by simp)
    · have hone := held_closeSocket hm hrecord q
      rw [due_closeSocket hm hrecord q rfl, List.countP_nil]
      omega
    · rw [due_closeSocket hm hrecord q (by simp), heldBy_closeSocket hm hrecord]
      split
      · next heq =>
        subst heq
        simp
      · omega

end Ferries

/-! ## 3. Opening, and rows -/

namespace Engine

theorem beside_setUp (k : SocketId) :
    ∀ (steps : List (SetupStage × SetupStep)) (e : Engine), Beside e (e.setUp k steps).1
  | [], e => .refl e
  | (stage, step) :: steps, e => by
    unfold setUp
    split
    · exact .refl e
    · exact (Beside.record rfl).trans (beside_setUp k steps _)

/-- A socket is added, with a place for its limiter. -/
def pushSocket (e : Engine) (record : RawSocket) (slot : Option (Rate.Limiter Sender)) : Engine :=
  { e with sockets := e.sockets.push record, limiters := e.limiters.push slot }

/-- **A socket that is opened works**, and its limiter holds nobody; one that cannot be set up is
not open and has no limiter. -/
theorem openSocket_beside (e : Engine) (settings : SocketSettings) :
    ∃ (record : RawSocket) (slot : Option (Rate.Limiter Sender)),
      record.limiter = e.limiters.size ∧ record.fatal = .success ∧
      (record.isOpen = false → slot = none) ∧ (∀ value, slot = some value → value.held = []) ∧
      Beside (e.pushSocket record slot) (e.openSocket settings).1 ∧
      ∀ socket, (e.openSocket settings).2 = .ok socket →
        socket = e.sockets.size ∧ slot.isSome := by
  let fresh : RawSocket := { family := settings.family, limiter := e.limiters.size }
  let start : Engine := { e with
    sockets := e.sockets.push fresh
    limiters := e.limiters.push none }
  have hopening := beside_setUp e.sockets.size [(.opening, .opened settings.family)] start
  unfold openSocket
  dsimp only
  split
  · next opened failure hopen =>
    rw [hopen] at hopening
    exact ⟨fresh, none, rfl, rfl, fun _ => rfl, by simp, hopening, by simp⟩
  · next opened hopen =>
    rw [hopen] at hopening
    split
    · exact ⟨fresh, none, rfl, rfl, fun _ => rfl, by simp, hopening, by simp⟩
    · next value hvalue =>
      have hsteps := beside_setUp e.sockets.size settings.steps opened
      split
      · next done failure hdone =>
        rw [hdone] at hsteps
        exact ⟨fresh, none, rfl, rfl, fun _ => rfl, by simp, hopening.trans hsteps, by simp⟩
      · next done hdone =>
        rw [hdone] at hsteps
        have hall : Beside start done := hopening.trans hsteps
        have hheld : value.held = [] := by
          obtain ⟨meter, -, rfl⟩ := Session.eq_ok_of_map hvalue
          rfl
        refine ⟨{ fresh with isOpen := true }, some value, rfl, rfl, by simp, by simp [hheld],
          Beside.trans ?_ (.of_inward (.logDated _ _)), by simp⟩
        have hlimiters : (done.setLimiter e.limiters.size value).limiters
            = e.limiters.push (some value) := by
          simp only [setLimiter, hall.limiters, start]
          refine Array.ext_getElem? fun i => ?_
          simp only [Array.getElem?_modify, Array.getElem?_push]
          by_cases hi : i = e.limiters.size
          · simp [hi]
          · simp [hi, Ne.symm hi]
        refine { hall with sockets := ?_, socketCount := ?_, limiters := hlimiters }
        · intro other after hafter
          simp only [updateSocket, setLimiter, Array.getElem?_modify] at hafter
          split at hafter
          · next heq =>
            subst heq
            obtain ⟨mid, hmid, rfl⟩ := Option.map_eq_some_iff.1 hafter
            obtain ⟨before, hbefore, hstands⟩ := hall.sockets _ mid hmid
            have hself : before = fresh := by simpa [start] using hbefore.symm
            subst hself
            exact ⟨{ fresh with isOpen := true }, by simp [pushSocket], rfl, hstands.limiter, hstands.fatal⟩
          · next hne =>
            obtain ⟨before, hbefore, hstands⟩ := hall.sockets other after hafter
            refine ⟨before, ?_, hstands⟩
            simpa [start, pushSocket, Array.getElem?_push, Ne.symm hne] using hbefore
        · refine Array.size_modify.trans (hall.socketCount.trans ?_)
          simp [start, pushSocket]

section Push

variable {slot : Option (Rate.Limiter Sender)}

theorem sockets_pushSocket (other : SocketId) : (e.pushSocket record slot).sockets[other]?
    = if other = e.sockets.size then some record else e.sockets[other]? := by
  simp [pushSocket, Array.getElem?_push]

theorem sockets_pushSocket_of_some {other : SocketId} {before : RawSocket}
    (hbefore : e.sockets[other]? = some before) :
    (e.pushSocket record slot).sockets[other]? = some before := by
  rw [sockets_pushSocket, if_neg, hbefore]
  rintro rfl
  simp at hbefore

theorem limiter?_pushSocket (other : LimiterId) : (e.pushSocket record slot).limiter? other
    = if other = e.limiters.size then slot else e.limiter? other := by
  simp only [limiter?, pushSocket, Array.getElem?_push]
  split <;> rfl

/-- The new limiter holds nobody, so every limiter holds what it held. -/
theorem heldIn_pushSocket (hempty : ∀ value, slot = some value → value.held = [])
    (other : LimiterId) : (e.pushSocket record slot).heldIn other = e.heldIn other := by
  simp only [heldIn, limiter?_pushSocket]
  split
  · next heq =>
    have hnone : e.limiter? other = none := by simp [limiter?, heq]
    rw [hnone]
    cases hslot : slot with
    | none => rfl
    | some value => simp [hempty value hslot]
  · rfl

theorem heldBy_pushSocket (hempty : ∀ value, slot = some value → value.held = [])
    {other : SocketId} (hlt : other < e.sockets.size) :
    (e.pushSocket record slot).heldBy other = e.heldBy other := by
  have hbefore := Array.getElem?_eq_getElem hlt
  rw [heldBy_of_some (sockets_pushSocket_of_some hbefore), heldBy_of_some hbefore,
    heldIn_pushSocket hempty]

/-- The new socket holds nothing. -/
theorem heldBy_pushSocket_self (hempty : ∀ value, slot = some value → value.held = [])
    (hlimiter : record.limiter = e.limiters.size) :
    (e.pushSocket record slot).heldBy e.sockets.size = [] := by
  have hself : (e.pushSocket record slot).sockets[e.sockets.size]? = some record := by
    rw [sockets_pushSocket, if_pos rfl]
  have hnone : e.limiter? e.limiters.size = none := by simp [limiter?]
  rw [heldBy_of_some hself, heldIn_pushSocket hempty, hlimiter]
  simp only [heldIn, hnone, Option.map_none, Option.getD_none]

/-- All sockets together hold what they held. -/
theorem held_pushSocket (hempty : ∀ value, slot = some value → value.held = [])
    (hlimiter : record.limiter = e.limiters.size) (q : SendClient → Bool) :
    (e.pushSocket record slot).held q = e.held q := by
  have hsize : (e.pushSocket record slot).sockets.size = e.sockets.size + 1 := Array.size_push _
  rw [held, hsize, Finset.sum_range_succ, heldBy_pushSocket_self hempty hlimiter]
  simp only [List.countP_nil, Nat.add_zero]
  exact Finset.sum_congr rfl fun other hother => by
    rw [heldBy_pushSocket hempty (Finset.mem_range.1 hother)]

theorem Metered.pushSocket (hm : e.Metered) (hlimiter : record.limiter = e.limiters.size)
    (hshut : record.isOpen = false → slot = none)
    (hempty : ∀ value, slot = some value → value.held = []) : (e.pushSocket record slot).Metered := by
  refine
    { count := by simp [Engine.pushSocket, hm.count]
      own := fun other after hafter => ?_
      senders := fun other sender hsender =>
        hm.senders other sender (by rwa [heldIn_pushSocket hempty] at hsender)
      shut := fun other after hafter hopen => ?_
      ready := hm.ready
      timeline := hm.timeline }
  · rw [sockets_pushSocket] at hafter
    split at hafter
    · next heq =>
      obtain rfl := Option.some.inj hafter
      rw [hlimiter, heq, hm.count]
    · exact hm.own other after hafter
  · rw [heldIn_pushSocket hempty, limiter?_pushSocket]
    rw [sockets_pushSocket] at hafter
    split at hafter
    · next heq =>
      obtain rfl := Option.some.inj hafter
      have hnone : e.limiter? other = none := by simp [limiter?, heq, hm.count]
      refine ⟨by simp [heldIn, hnone], .inr ?_⟩
      rw [if_pos (heq.trans hm.count.symm), hshut hopen]
    · next hne =>
      rw [if_neg (by rwa [hm.count])]
      exact hm.shut other after hafter hopen

end Push

end Engine

namespace Ferries

/-- A socket with a limiter that holds nobody is added. -/
theorem pushSocket (hm : e.Metered) {slot : Option (Rate.Limiter Sender)}
    (hlimiter : record.limiter = e.limiters.size) (hfatal : record.fatal = .success)
    (hshut : record.isOpen = false → slot = none)
    (hempty : ∀ value, slot = some value → value.held = []) :
    Ferries [] e (e.pushSocket record slot) := by
  have hheld : ∀ (other : SocketId) (before : RawSocket), e.sockets[other]? = some before →
      (e.pushSocket record slot).heldBy other = e.heldBy other := fun other before hbefore =>
    Engine.heldBy_pushSocket hempty (Array.getElem?_eq_some_iff.1 hbefore).1
  refine
    { metered := hm.pushSocket hlimiter hshut hempty
      sockets := fun other before hbefore =>
        ⟨before, Engine.sockets_pushSocket_of_some hbefore, .refl before⟩
      fresh := fun other after hnone hafter => ?_
      furnished := fun other hsome => ?_
      told := rfl
      due := fun _ _ => Nat.le_refl _
      total := fun q => congrArg (· + _) (Engine.held_pushSocket hempty hlimiter q)
      silent := fun _ _ _ _ => rfl
      stays := fun other before after hbefore _ _ _ => hheld other before hbefore
      grows := fun other before after hbefore _ _ q => by rw [hheld other before hbefore]
      aborts := fun other q => Nat.add_le_add_left ?_ _ }
  · rw [Engine.sockets_pushSocket] at hafter
    split at hafter
    · obtain rfl := Option.some.inj hafter
      exact .inl (by rw [hfatal]; rfl)
    · exact absurd (hnone.symm.trans hafter) (by simp)
  · rw [Engine.limiter?_pushSocket, if_neg]
    · exact hsome
    · rintro rfl
      simp [Engine.limiter?] at hsome
  · cases hbefore : e.sockets[other]? with
    | some before => rw [hheld other before hbefore]
    | none => simp [Engine.heldBy, hbefore]

theorem openSocket (hm : e.Metered) (settings : SocketSettings) :
    Ferries [] e (e.openSocket settings).1 := by
  obtain ⟨record, slot, hlimiter, hfatal, hshut, hempty, hbeside, -⟩ :=
    e.openSocket_beside settings
  have hpushed := pushSocket hm hlimiter hfatal hshut hempty
  exact hpushed.trans (of_beside hbeside hpushed.metered)

/-- **What a row does about sends**: it submits requests of calls. -/
theorem hauls (h : Engine.Hauls e e') (hm : e.Metered) :
    ∃ clients, (∀ client ∈ clients, client.isCall) ∧ Ferries clients e e' := by
  let R : Engine → Engine → Prop := fun e e' =>
    e.Metered → ∃ clients, (∀ client ∈ clients, client.isCall) ∧ Ferries clients e e'
  refine h.lift (R := R) (fun _ hm => ⟨[], by simp, refl hm⟩) (fun h h' hm => ?_) (fun h hm => ?_) hm
  · obtain ⟨clients, hcalls, hferries⟩ := h hm
    obtain ⟨clients', hcalls', hferries'⟩ := h' hferries.metered
    refine ⟨_, fun client hclient => ?_, hferries.trans hferries'⟩
    rcases List.mem_append.1 hclient with hold | hnew
    · exact hcalls client hold
    · exact hcalls' client hnew
  · cases h with
    | beside h => exact ⟨[], by simp, of_beside h hm⟩
    | @submit id pinger hp token timer packet destination =>
      obtain ⟨clients, hsame, hferries⟩ :=
        submit_any hm pinger.socket packet destination (.call id token timer)
      refine ⟨clients, fun client hclient => ?_, hferries⟩
      rw [hsame client hclient]
      rfl
    | closeSocket k => exact ⟨[], by simp, closeSocket hm k⟩
    | openSocket settings => exact ⟨[], by simp, openSocket hm settings⟩

end Ferries

end IcmpEcho
