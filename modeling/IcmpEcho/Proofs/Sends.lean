/-
# Where the sends of a socket are

A send that was submitted is *held* by the limiter of its socket, or it is *due*: its end is ready or
on its way.  `Engine.heldBy` are the senders that the limiter of a socket holds, and `Engine.due`
counts the ends that are due, by who is told (`q`) and with which code (`p`).

The invariant is `Engine.Metered`: every socket has a limiter of its own, which holds datagrams of
this socket only, and none once the socket is closed.

A send that is launched becomes due (`Ends.launch`), on a socket that has failed with the reason of
the failure; a sender that asks a limiter is launched or held (`Engine.ask_held`).
-/
import IcmpEcho.Proofs.Hauling
import IcmpEcho.Proofs.Watching
import Mathlib.Algebra.BigOperators.Group.Finset.Basic

namespace IcmpEcho

variable {e e' e'' : Engine} {k : SocketId} {client : SendClient} {record : RawSocket}

/-! ## 1. Counting -/

/-- The sender is a datagram of a client of `q`. -/
def Sender.isOf (q : SendClient → Bool) : Sender → Bool
  | .datagram _ _ _ client => q client
  | .labelled _ _ _ => false

/-- The task ends a send of a client of `q` with a code of `p`. -/
def Task.ends (q : SendClient → Bool) (p : ErrorCode → Bool) : Task → Bool
  | .sent client code _ => q client && p code
  | .turnedAway sender => sender.isOf q && p .aborted
  | _ => false

/-- A task that ends such a send becomes ready with the item. -/
def Happening.ends (q : SendClient → Bool) (p : ErrorCode → Bool) : Happening → Bool
  | .ready task => task.ends q p
  | _ => false

/-- The event is the end of a raw send or a raw receive. -/
def Event.isEnd : Event → Bool
  | .sent _ _ _ _ => true
  | .received _ _ _ _ _ => true
  | _ => false

/-- The event is a datagram that a socket sent. -/
def Event.isFrom (k : SocketId) : Event → Bool
  | .send _ socket _ _ => socket = k
  | _ => false

/-- The task does not turn a labelled sender away. -/
def Task.isPlain : Task → Bool
  | .turnedAway (.labelled _ _ _) => false
  | _ => true

/-- What changes in one place only changes a sum by as much. -/
theorem sum_range_of_one {n k : Nat} (hk : k < n) {f g : Nat → Nat}
    (hother : ∀ j, j ≠ k → g j = f j) :
    ∑ j ∈ Finset.range n, g j + f k = ∑ j ∈ Finset.range n, f j + g k := by
  have hmem : k ∈ Finset.range n := Finset.mem_range.2 hk
  have hrest : ∑ j ∈ (Finset.range n).erase k, g j = ∑ j ∈ (Finset.range n).erase k, f j :=
    Finset.sum_congr rfl fun j hj => hother j (Finset.ne_of_mem_erase hj)
  rw [← Finset.add_sum_erase _ f hmem, ← Finset.add_sum_erase _ g hmem, hrest]
  omega

namespace Engine

/-- The senders that a limiter holds. -/
def heldIn (e : Engine) (limiter : LimiterId) : List Sender :=
  ((e.limiter? limiter).map Rate.Limiter.held).getD []

/-- The senders that the limiter of a socket holds. -/
def heldBy (e : Engine) (k : SocketId) : List Sender :=
  match e.sockets[k]? with
  | some record => e.heldIn record.limiter
  | none => []

/-- The sends of `q` that limiters of sockets hold. -/
def held (e : Engine) (q : SendClient → Bool) : Nat :=
  ∑ k ∈ Finset.range e.sockets.size, (e.heldBy k).countP (Sender.isOf q)

/-- The sends of `q` whose end with a code of `p` is ready or on its way. -/
def due (e : Engine) (q : SendClient → Bool) (p : ErrorCode → Bool) : Nat :=
  e.ready.countP (Task.ends q p) + e.timeline.countP fun entry => entry.2.ends q p

/-- The ends of raw sends and receives that were told, the latest first. -/
def rawEnds (e : Engine) : List Event := e.journal.filter Event.isEnd

/-- The datagrams that a socket has sent. -/
def sentFrom (e : Engine) (k : SocketId) : List Event := e.journal.filter (Event.isFrom k)

/-- **Every socket has a limiter of its own**, which holds datagrams of this socket only, and none
once the socket is closed. -/
structure Metered (e : Engine) : Prop where
  count : e.limiters.size = e.sockets.size
  own : ∀ (k : SocketId) (record : RawSocket), e.sockets[k]? = some record → record.limiter = k
  senders : ∀ (k : SocketId), ∀ sender ∈ e.heldIn k,
    ∃ packet destination client, sender = .datagram k packet destination client
  shut : ∀ (k : SocketId) (record : RawSocket), e.sockets[k]? = some record →
    record.isOpen = false → e.heldIn k = [] ∧ (record.fatal.isError ∨ e.limiter? k = none)
  ready : ∀ task ∈ e.ready, task.isPlain
  timeline : ∀ entry ∈ e.timeline, ∀ task, entry.2 = .ready task → task.isPlain

theorem heldBy_of_some (h : e.sockets[k]? = some record) :
    e.heldBy k = e.heldIn record.limiter := by simp only [heldBy, h]

theorem Metered.heldBy (h : e.Metered) (hrecord : e.sockets[k]? = some record) :
    e.heldBy k = e.heldIn k := by
  rw [heldBy_of_some hrecord, h.own k record hrecord]

/-- A task that is taken is plain, and so are those that stay. -/
theorem Metered.taken (h : e.Metered) {front back : List Task} {task : Task}
    (hready : e.ready = front ++ task :: back) :
    Metered { e with ready := front ++ back } ∧ task.isPlain := by
  have hplain : task.isPlain :=
    h.ready task (hready ▸ List.mem_append_right _ List.mem_cons_self)
  exact ⟨{ h with
    ready := fun other hother => h.ready other ((sublist_of_taken hready).subset hother) }, hplain⟩

/-- What changes for one socket only changes the sum by as much. -/
theorem held_of_one {q : SendClient → Bool} (hk : k < e.sockets.size)
    (hsize : e'.sockets.size = e.sockets.size)
    (hother : ∀ other, other ≠ k → e'.heldBy other = e.heldBy other) {a b : Nat}
    (hone : (e'.heldBy k).countP (Sender.isOf q) + a = (e.heldBy k).countP (Sender.isOf q) + b) :
    e'.held q + a = e.held q + b := by
  have hsum := sum_range_of_one hk (f := fun j => (e.heldBy j).countP (Sender.isOf q))
    (g := fun j => (e'.heldBy j).countP (Sender.isOf q)) fun j hj => by rw [hother j hj]
  rw [held, held, hsize]
  omega

end Engine

/-! ## 2. Beside -/

theorem Task.isSend_of_ends {q : SendClient → Bool} {p : ErrorCode → Bool} {task : Task}
    (h : task.ends q p) : task.isSend := by
  cases task <;> simp_all [Task.ends, Task.isSend]

theorem Task.isSend_of_not_isPlain {task : Task} (h : task.isPlain = false) : task.isSend := by
  cases task <;> simp_all [Task.isPlain, Task.isSend]

namespace Engine

theorem due_post (task : Task) (q : SendClient → Bool) (p : ErrorCode → Bool) :
    (e.post task).due q p = e.due q p + (task.ends q p).toNat := by
  simp only [due, post, List.countP_append, List.countP_singleton]
  cases task.ends q p
  · simp
  · simp
    omega

theorem due_schedule (time : Time) (item : Happening) (q : SendClient → Bool)
    (p : ErrorCode → Bool) :
    (e.schedule time item).due q p = e.due q p + (item.ends q p).toNat := by
  simp only [due, schedule, (insertAt_perm _ _ _).countP_eq, List.countP_cons]
  cases item.ends q p
  · simp
  · simp
    omega

end Engine

/-- What is counted among those that a filter keeps is counted among all. -/
theorem countP_of_filter {α : Type} {p r : α → Bool} (h : ∀ a, p a → r a) (l : List α) :
    (l.filter r).countP p = l.countP p := by
  rw [List.countP_filter]
  refine List.countP_congr fun a _ => ?_
  cases hp : p a with
  | false => simp
  | true => simp [h a hp]

namespace Beside

theorem due (h : Beside e e') (q : SendClient → Bool) (p : ErrorCode → Bool) :
    e'.due q p = e.due q p := by
  have hends : ∀ entry : Time × Happening, entry.2.ends q p → entry.2.isReady := by
    rintro ⟨time, item⟩
    cases item <;> simp [Happening.ends, Happening.isReady]
  have hsend : ∀ task : Task, task.ends q p → task.isSend := fun _ => Task.isSend_of_ends
  simp only [Engine.due]
  rw [← countP_of_filter hsend, ← countP_of_filter hends, h.ready, h.timeline,
    countP_of_filter hsend, countP_of_filter hends]

theorem rawEnds (h : Beside e e') : e'.rawEnds = e.rawEnds := by
  have hends : ∀ e : Engine, (e.journal.filter Event.isTraffic).filter Event.isEnd = e.rawEnds := by
    intro e
    rw [List.filter_filter, Engine.rawEnds]
    refine List.filter_congr fun event _ => ?_
    cases event <;> simp [Event.isEnd, Event.isTraffic]
  rw [← hends, ← hends, h.journal]

theorem sentFrom (h : Beside e e') (k : SocketId) : e'.sentFrom k = e.sentFrom k := by
  have hfrom : ∀ e : Engine, (e.journal.filter Event.isTraffic).filter (Event.isFrom k)
      = e.sentFrom k := by
    intro e
    rw [List.filter_filter, Engine.sentFrom]
    refine List.filter_congr fun event _ => ?_
    cases event <;> simp [Event.isFrom, Event.isTraffic]
  rw [← hfrom, ← hfrom, h.journal]

theorem heldIn (h : Beside e e') (limiter : LimiterId) : e'.heldIn limiter = e.heldIn limiter := by
  simp only [Engine.heldIn, Engine.limiter?, h.limiters]

theorem socket (h : Beside e e') (hrecord : e.sockets[k]? = some record) :
    ∃ record', e'.sockets[k]? = some record' ∧ record.Stands record' := by
  have hk : k < e'.sockets.size := by
    rw [h.socketCount]
    exact (Array.getElem?_eq_some_iff.1 hrecord).1
  have hrecord' : e'.sockets[k]? = some e'.sockets[k] := Array.getElem?_eq_getElem hk
  obtain ⟨record₀, hrecord₀, hstands⟩ := h.sockets k _ hrecord'
  obtain rfl := Option.some.inj (hrecord.symm.trans hrecord₀)
  exact ⟨_, hrecord', hstands⟩

theorem heldBy (h : Beside e e') (k : SocketId) : e'.heldBy k = e.heldBy k := by
  cases hrecord : e.sockets[k]? with
  | some record =>
    obtain ⟨record', hrecord', hstands⟩ := h.socket hrecord
    rw [Engine.heldBy_of_some hrecord, Engine.heldBy_of_some hrecord', hstands.limiter, h.heldIn]
  | none =>
    have hnone : e'.sockets[k]? = none := by
      rw [Array.getElem?_eq_none_iff] at hrecord ⊢
      rwa [h.socketCount]
    simp only [Engine.heldBy, hrecord, hnone]

theorem held (h : Beside e e') (q : SendClient → Bool) : e'.held q = e.held q := by
  simp only [Engine.held, h.socketCount, h.heldBy]

theorem metered (h : Beside e e') (hm : e.Metered) : e'.Metered where
  count := by rw [h.limiters, h.socketCount, hm.count]
  own k record' hrecord' := by
    obtain ⟨record, hrecord, hstands⟩ := h.sockets k record' hrecord'
    rw [hstands.limiter, hm.own k record hrecord]
  senders k sender hsender := hm.senders k sender (by rwa [h.heldIn] at hsender)
  shut k record' hrecord' hopen := by
    obtain ⟨record, hrecord, hstands⟩ := h.sockets k record' hrecord'
    rw [h.heldIn, hstands.fatal, Engine.limiter?, h.limiters]
    exact hm.shut k record hrecord (hstands.isOpen.symm.trans hopen)
  ready task ht := by
    cases hplain : task.isPlain with
    | true => rfl
    | false =>
      have hmem : task ∈ e'.ready.filter Task.isSend :=
        List.mem_filter.2 ⟨ht, Task.isSend_of_not_isPlain hplain⟩
      rw [h.ready] at hmem
      exact absurd (hm.ready task (List.mem_filter.1 hmem).1) (by simp [hplain])
  timeline entry hentry task htask := by
    have hmem : entry ∈ e'.timeline.filter (fun entry => entry.2.isReady) :=
      List.mem_filter.2 ⟨hentry, by rw [htask]; rfl⟩
    rw [h.timeline] at hmem
    exact hm.timeline entry (List.mem_filter.1 hmem).1 task htask

end Beside

/-! ## 3. Launching -/

/-- Between `e` and `e'` a send of a client ended with a code, and its socket may have sent a
datagram; the end is ready or on its way. -/
structure Ends (k : SocketId) (client : SendClient) (code : ErrorCode) (e e' : Engine) : Prop where
  sockets : e'.sockets = e.sockets
  limiters : e'.limiters = e.limiters
  due : ∀ q p, e'.due q p = e.due q p + (q client && p code).toNat
  told : e'.rawEnds = e.rawEnds
  sent : ∀ other, other ≠ k → e'.sentFrom other = e.sentFrom other
  ready : ∀ task ∈ e'.ready, task.isPlain = false → task ∈ e.ready
  timeline : ∀ entry ∈ e'.timeline, ∀ task, entry.2 = .ready task → task.isPlain = false →
    entry ∈ e.timeline

namespace Ends

variable {code : ErrorCode}

theorem heldIn (h : Ends k client code e e') (limiter : LimiterId) :
    e'.heldIn limiter = e.heldIn limiter := by
  simp only [Engine.heldIn, Engine.limiter?, h.limiters]

theorem heldBy (h : Ends k client code e e') (other : SocketId) :
    e'.heldBy other = e.heldBy other := by
  simp only [Engine.heldBy, h.sockets, h.heldIn]

theorem held (h : Ends k client code e e') (q : SendClient → Bool) : e'.held q = e.held q := by
  simp only [Engine.held, h.sockets, h.heldBy]

theorem metered (h : Ends k client code e e') (hm : e.Metered) : e'.Metered where
  count := by rw [h.limiters, h.sockets, hm.count]
  own other record hrecord := hm.own other record (by rwa [h.sockets] at hrecord)
  senders other sender hsender := hm.senders other sender (by rwa [h.heldIn] at hsender)
  shut other record hrecord hopen := by
    rw [h.heldIn, Engine.limiter?, h.limiters]
    exact hm.shut other record (by rwa [h.sockets] at hrecord) hopen
  ready task ht := by
    cases hplain : task.isPlain with
    | true => rfl
    | false => exact absurd (hm.ready task (h.ready task ht hplain)) (by simp [hplain])
  timeline entry hentry task htask := by
    cases hplain : task.isPlain with
    | true => rfl
    | false =>
      have hold := h.timeline entry hentry task htask hplain
      exact absurd (hm.timeline entry hold task htask) (by simp [hplain])

theorem post (k : SocketId) (client : SendClient) (code : ErrorCode) (count : Nat) :
    Ends k client code e (e.post (.sent client code count)) := by
  refine ⟨rfl, rfl, Engine.due_post _, rfl, fun _ _ => rfl, fun task ht hplain => ?_,
    fun _ h _ _ _ => h⟩
  rcases List.mem_append.1 ht with hold | hnew
  · exact hold
  · obtain rfl := List.mem_singleton.1 hnew
    cases hplain

theorem completeSend (k : SocketId) (client : SendClient) (code : ErrorCode) (count : Nat) :
    Ends k client code e (e.completeSend client code count) := by
  unfold Engine.completeSend
  split
  · exact post k client code count
  · refine ⟨rfl, rfl, Engine.due_schedule _ _, rfl, fun _ _ => rfl, fun _ h _ => h,
      fun entry hentry task htask hplain => ?_⟩
    rcases Engine.mem_insertAt.1 hentry with rfl | hold
    · obtain rfl := Happening.ready.inj htask
      cases hplain
    · exact hold

theorem of_beside (hb : Beside e e') (hs : e'.sockets = e.sockets) (h : Ends k client code e' e'') :
    Ends k client code e e'' where
  sockets := h.sockets.trans hs
  limiters := h.limiters.trans hb.limiters
  due q p := by rw [h.due, hb.due]
  told := h.told.trans hb.rawEnds
  sent other hne := by rw [h.sent other hne, hb.sentFrom]
  ready task ht hplain := by
    have hmem : task ∈ e'.ready.filter Task.isSend :=
      List.mem_filter.2 ⟨h.ready task ht hplain, Task.isSend_of_not_isPlain hplain⟩
    rw [hb.ready] at hmem
    exact (List.mem_filter.1 hmem).1
  timeline entry hentry task htask hplain := by
    have hmem : entry ∈ e'.timeline.filter (fun entry => entry.2.isReady) :=
      List.mem_filter.2 ⟨h.timeline entry hentry task htask hplain, by rw [htask]; rfl⟩
    rw [hb.timeline] at hmem
    exact (List.mem_filter.1 hmem).1

/-- What is sent from the socket itself does not matter here. -/
theorem of_noted {packet : Bytes} {destination : Address}
    (h : Ends k client code (e.noteSend k packet destination) e') : Ends k client code e e' :=
  { h with
    told := h.told.trans (List.filter_cons_of_neg (by simp [Event.isEnd]))
    sent := fun other hne => by
      rw [h.sent other hne]
      simp [Engine.sentFrom, Engine.noteSend, Engine.record, Event.isFrom, Ne.symm hne] }

end Ends

theorem Beside.scheduleAnswer (host : Host) (family : Family) (packet : Bytes) :
    Beside e (e.scheduleAnswer host family packet) := by
  unfold Engine.scheduleAnswer
  split
  · exact .refl e
  · exact List.foldlRecOn _ _ (.refl e) fun next h datagram _ => h.trans (.schedule rfl)

theorem sockets_scheduleAnswer (host : Host) (family : Family) (packet : Bytes) :
    (e.scheduleAnswer host family packet).sockets = e.sockets := by
  unfold Engine.scheduleAnswer
  split
  · rfl
  · exact List.foldlRecOn (motive := fun next : Engine => next.sockets = e.sockets) _ _ rfl
      fun next h datagram _ => h

theorem Ends.transmit (packet : Bytes) (destination : Address) (client : SendClient) :
    ∃ code, Ends k client code e (e.transmit k packet destination client) := by
  unfold Engine.transmit
  dsimp only
  split
  · exact ⟨_, .of_noted (.completeSend _ _ _ _)⟩
  · split
    · exact ⟨_, .of_noted (.completeSend _ _ _ _)⟩
    · refine ⟨_, .of_noted (.of_beside (.scheduleAnswer _ _ _) ?_ (.completeSend _ _ _ _))⟩
      exact sockets_scheduleAnswer _ _ _

/-- **A launched send ends**, and on a failed socket with the reason of the failure, and nothing is
sent. -/
theorem Ends.launch (packet : Bytes) (destination : Address) (client : SendClient) :
    ∃ code, Ends k client code e (e.launch k packet destination client) ∧
      ((e.fatalOf k).isError → code = e.fatalOf k ∧
        ∀ other, (e.launch k packet destination client).sentFrom other = e.sentFrom other) := by
  unfold Engine.launch
  dsimp only
  split
  · exact ⟨_, .post _ _ _ _, fun _ => ⟨rfl, fun _ => rfl⟩⟩
  · next hworks =>
    obtain ⟨code, hends⟩ := @Ends.transmit e k packet destination client
    exact ⟨code, hends, fun hfailed => absurd hfailed hworks⟩

/-! ## 4. Limiters -/

namespace Engine

theorem limiter?_setLimiter {limiter : LimiterId} {old : Rate.Limiter Sender}
    (h : e.limiter? limiter = some old) (value : Rate.Limiter Sender) (other : LimiterId) :
    (e.setLimiter limiter value).limiter? other
      = if limiter = other then some value else e.limiter? other := by
  have hslot : e.limiters[limiter]? = some (some old) := Option.join_eq_some_iff.1 h
  simp only [limiter?, setLimiter, Array.getElem?_modify]
  split
  · next heq =>
    subst heq
    rw [hslot]
    rfl
  · rfl

theorem heldIn_setLimiter {limiter : LimiterId} {old : Rate.Limiter Sender}
    (h : e.limiter? limiter = some old) (value : Rate.Limiter Sender) (other : LimiterId) :
    (e.setLimiter limiter value).heldIn other
      = if limiter = other then value.held else e.heldIn other := by
  simp only [heldIn, limiter?_setLimiter h]
  split
  · rfl
  · rfl

theorem heldIn_of_some {limiter : LimiterId} {value : Rate.Limiter Sender}
    (h : e.limiter? limiter = some value) : e.heldIn limiter = value.held := by
  simp only [heldIn, h, Option.map_some, Option.getD_some]

/-- A limiter that exists is that of a socket. -/
theorem Metered.exists_socket (hm : e.Metered) {value : Rate.Limiter Sender}
    (h : e.limiter? k = some value) : ∃ record, e.sockets[k]? = some record := by
  have hslot : e.limiters[k]? = some (some value) := Option.join_eq_some_iff.1 h
  have hk : k < e.sockets.size := hm.count ▸ (Array.getElem?_eq_some_iff.1 hslot).1
  exact ⟨_, Array.getElem?_eq_getElem hk⟩

/-- The limiter of a socket gets other senders. -/
theorem Metered.setLimiter (hm : e.Metered) {old value : Rate.Limiter Sender}
    (h : e.limiter? k = some old)
    (hsenders : ∀ sender ∈ value.held,
      ∃ packet destination client, sender = .datagram k packet destination client)
    (hshut : ∀ record, e.sockets[k]? = some record → record.isOpen = false → value.held = []) :
    (e.setLimiter k value).Metered where
  count := by rw [Engine.setLimiter, Array.size_modify, hm.count]
  own := hm.own
  senders other sender hsender := by
    rw [heldIn_setLimiter h] at hsender
    split at hsender
    · next heq => exact heq ▸ hsenders sender hsender
    · exact hm.senders other sender hsender
  shut other record hrecord hopen := by
    rw [heldIn_setLimiter h, limiter?_setLimiter h]
    obtain ⟨hnone, hfailed⟩ := hm.shut other record hrecord hopen
    split
    · next heq =>
      subst heq
      refine ⟨hshut record hrecord hopen, .inl (hfailed.resolve_right ?_)⟩
      rw [h]
      exact Option.some_ne_none old
    · exact ⟨hnone, hfailed⟩
  ready := hm.ready
  timeline := hm.timeline

theorem Metered.heldBy_setLimiter (hm : e.Metered) {old : Rate.Limiter Sender}
    (h : e.limiter? k = some old) (value : Rate.Limiter Sender) (other : SocketId) :
    (e.setLimiter k value).heldBy other = if other = k then value.held else e.heldBy other := by
  cases hrecord : e.sockets[other]? with
  | some record =>
    have hset : (e.setLimiter k value).heldBy other = (e.setLimiter k value).heldIn record.limiter :=
      heldBy_of_some hrecord
    rw [hset, hm.own other record hrecord, heldIn_setLimiter h, hm.heldBy hrecord]
    simp only [eq_comm]
  | none =>
    have hne : other ≠ k := by
      rintro rfl
      obtain ⟨record, hsome⟩ := hm.exists_socket h
      exact absurd (hrecord.symm.trans hsome) (by simp)
    have hset : (e.setLimiter k value).sockets[other]? = none := hrecord
    simp only [Engine.heldBy, hset, hrecord, if_neg hne]

/-- **A sender that asks goes or is held.**  However it is, only the limiter has changed. -/
theorem ask_held {value : Rate.Limiter Sender} (limiter : LimiterId) (sender : Sender)
    (go : Engine → Engine) :
    ∃ after, Beside (e.setLimiter limiter after) (e.ask limiter value sender fun e => e) ∧
      (e.ask limiter value sender fun e => e).sockets = e.sockets ∧
      (after.held = value.held ∧
          e.ask limiter value sender go = go (e.ask limiter value sender fun e => e) ∨
        after.held.Perm (sender :: value.held) ∧
          e.ask limiter value sender go = e.ask limiter value sender fun e => e) := by
  have hacquire : ((value.acquire rounding e.now sender).2 = .go ∧
        (value.acquire rounding e.now sender).1.held = value.held) ∨
      ((value.acquire rounding e.now sender).2 ≠ .go ∧
        (value.acquire rounding e.now sender).1.held.Perm (sender :: value.held)) := by
    unfold Rate.Limiter.acquire
    split
    · right
      refine ⟨by simp, ?_⟩
      simp only [Rate.Limiter.held, ← List.append_assoc]
      exact List.perm_append_singleton _ _
    · next hsleeper =>
      have hnone : value.sleeper = none := by simpa using hsleeper
      dsimp only
      split
      · left
        simp [Rate.Limiter.held]
      · right
        simp [Rate.Limiter.held, hnone]
  refine ⟨(value.acquire rounding e.now sender).1, ?_⟩
  unfold ask
  dsimp only
  cases hadmission : (value.acquire rounding e.now sender).2 with
  | go =>
    obtain ⟨-, hheld⟩ := hacquire.resolve_right fun h => h.1 hadmission
    exact ⟨.refl _, rfl, .inl ⟨hheld, rfl⟩⟩
  | queue =>
    obtain ⟨-, hheld⟩ := hacquire.resolve_left fun h => by simp [hadmission] at h
    exact ⟨.refl _, rfl, .inr ⟨hheld, rfl⟩⟩
  | sleep wait =>
    obtain ⟨-, hheld⟩ := hacquire.resolve_left fun h => by simp [hadmission] at h
    refine ⟨.setAlarm _ _, ?_, .inr ⟨hheld, rfl⟩⟩
    rw [(Aside.setAlarm rfl).sockets]
    rfl

end Engine

end IcmpEcho
