/-
# Who receives where

A hub receives at its socket; a pinger at its mailbox, or at a socket of its own.  This place is the
*port* of the hub or pinger (`Engine.port?`).  A receive that was started and not yet told is
outstanding: it waits at the port, or its end has been posted (`Engine.outstanding`).

* `Wired`: no two of them have the same port, and whoever waits at a port, or is about to be told,
  has that port.
* `Counted busy`: who listens has exactly one receive outstanding, who does not has none.  The end
  of a receive of `busy` is being handled; that receive still counts.

What engines do about receives is of two kinds.  `Starts`: a receive is started, and waits or is
posted at once.  `Passes`: a receive that waits is posted, if any does.  Both keep `Wired`; a start
frees its client from being busy, and passing leaves `Counted` as it is.
-/
import IcmpEcho.Proofs.Aside

namespace IcmpEcho

/-! ## 1. Ports -/

/-- A place where a receive waits. -/
inductive Port
  | socket (socket : SocketId)
  | box (box : MailboxId)
  deriving DecidableEq

/-- The mailbox of a pinger, or its own socket. -/
def Pinger.port (pinger : Pinger) : Port :=
  match pinger.mailbox with
  | some box => .box box
  | none => .socket pinger.socket

/-- The one who reads a mailbox, as one who receives. -/
def Reader.client : Reader → ReceiveClient
  | .pinger id => .pinger id
  | .labelled _ label _ => .raw label

/-- The one whose receive ends with a task. -/
def Task.listener? : Task → Option ReceiveClient
  | .received _ client _ _ _ => some client
  | .noReceive client _ => some client
  | .mail reader _ _ => some reader.client
  | _ => none

namespace Engine

variable {e e' : Engine} {client : ReceiveClient} {port : Port}

/-- The port exists. -/
def hasPort (e : Engine) : Port → Prop
  | .socket socket => socket < e.sockets.size
  | .box box => box < e.mailboxes.size

/-- The port of a hub or pinger. -/
def port? (e : Engine) : ReceiveClient → Option Port
  | .hub id => e.hubs[id]?.map fun hub => .socket hub.socket
  | .pinger id => e.pingers[id]?.map Pinger.port
  | .raw _ => none

/-- The one whose receive waits at a port. -/
def waiter? (e : Engine) : Port → Option ReceiveClient
  | .socket socket => (e.sockets[socket]?.bind RawSocket.receiver).map Prod.fst
  | .box box => (e.mailboxes[box]?.bind Mailbox.receiver).map Reader.client

/-- Whether a hub or a living pinger takes a receive of its own to be outstanding. -/
def listens? (e : Engine) : ReceiveClient → Option Bool
  | .hub id => e.hubs[id]?.map Hub.running
  | .pinger id => e.pingers[id]?.bind fun pinger => if pinger.gone then none else pinger.receiving
  | .raw _ => none

/-- The receives of a client that wait at its port. -/
def waiting (e : Engine) (client : ReceiveClient) : Nat :=
  if (e.port? client).bind e.waiter? = some client then 1 else 0

/-- The receives of a client whose end has been posted. -/
def posted (e : Engine) (client : ReceiveClient) : Nat :=
  e.ready.countP fun task => task.listener? = some client

/-- The receives of a client that were started and are not yet told. -/
def outstanding (e : Engine) (client : ReceiveClient) : Nat := e.waiting client + e.posted client

/-- The client may receive at the port: the port is its own or, for a raw client, a socket that
belongs to no hub and no pinger. -/
def Fits (e : Engine) : ReceiveClient → Port → Prop
  | .raw _, .socket socket =>
    socket < e.sockets.size ∧ ∀ client, e.port? client ≠ some (.socket socket)
  | .raw _, .box _ => False
  | client, port => e.port? client = some port

/-- The client of a task may receive where the task says, and is refused only with an error. -/
def Proper (e : Engine) : Task → Prop
  | .received socket client _ _ _ => e.Fits client (.socket socket)
  | .noReceive client code => code.isError ∧ ∃ socket, e.Fits client (.socket socket)
  | .mail reader _ _ => ∃ box, e.Fits reader.client (.box box)
  | _ => True

theorem fits_of_port? (h : e.port? client = some port) : e.Fits client port := by
  cases client with
  | raw tag => simp [port?] at h
  | pinger id => exact h
  | hub id => exact h

/-- At a port with an owner only the owner fits. -/
theorem Fits.eq_of_port? {other : ReceiveClient} (hf : e.Fits client port)
    (hu : ∀ c c' port, e.port? c = some port → e.port? c' = some port → c = c')
    (h : e.port? other = some port) : client = other := by
  cases client with
  | raw tag =>
    cases port with
    | socket socket => exact absurd h (hf.2 other)
    | box box => exact hf.elim
  | pinger id => exact hu _ _ _ hf h
  | hub id => exact hu _ _ _ hf h

/-- A client with a port fits nowhere else. -/
theorem Fits.eq_port {own : Port} (hf : e.Fits client port) (h : e.port? client = some own) :
    port = own := by
  cases client with
  | raw tag => simp [port?] at h
  | pinger id => exact Option.some.inj (hf.symm.trans h)
  | hub id => exact Option.some.inj (hf.symm.trans h)

theorem proper_of_not_listener {task : Task} (h : task.listener? = none) : e.Proper task := by
  cases task <;> simp_all [Task.listener?, Proper]

end Engine

/-! ## 2. The two invariants -/

/-- Ports have at most one owner, and receives are where they belong. -/
structure Wired (e : Engine) : Prop where
  valid : ∀ client port, e.port? client = some port → e.hasPort port
  unique : ∀ client other port, e.port? client = some port → e.port? other = some port →
    client = other
  waits : ∀ port client, e.waiter? port = some client → e.Fits client port
  tasks : ∀ task ∈ e.ready, e.Proper task
  /-- What is to become ready later ends neither a call nor a receive. -/
  later : ∀ time task, (time, .ready task) ∈ e.timeline → task.isCore = false

/-- Who listens has one receive outstanding, who does not has none; the receive of `busy` that is
being handled counts too.  Nobody ever has two. -/
structure Counted (busy : Option ReceiveClient) (e : Engine) : Prop where
  exact : ∀ client listens, e.listens? client = some listens →
    e.outstanding client + (if busy = some client then 1 else 0) = if listens then 1 else 0
  single : ∀ client port, e.port? client = some port →
    e.outstanding client + (if busy = some client then 1 else 0) ≤ 1

/-! ## 3. Starting and passing -/

/-- `e'` has the ports of `e`, and the same owners. -/
structure SamePorts (e e' : Engine) : Prop where
  port? : ∀ client, e'.port? client = e.port? client
  socketCount : e'.sockets.size = e.sockets.size
  boxCount : e'.mailboxes.size = e.mailboxes.size

namespace SamePorts

variable {e e' : Engine}

theorem hasPort (h : SamePorts e e') (port : Port) : e'.hasPort port ↔ e.hasPort port := by
  cases port <;> simp only [Engine.hasPort, h.socketCount, h.boxCount]

theorem fits (h : SamePorts e e') (client : ReceiveClient) (port : Port) :
    e'.Fits client port ↔ e.Fits client port := by
  cases client <;> cases port <;> simp only [Engine.Fits, h.port?, h.socketCount]

theorem proper (h : SamePorts e e') (task : Task) : e'.Proper task ↔ e.Proper task := by
  cases task <;> simp only [Engine.Proper, h.fits]

end SamePorts

/-- Everything but sockets, mailboxes and ready tasks is the same, and no socket has failed. -/
structure SameParts (e e' : Engine) : Prop where
  nextPing : e'.nextPing = e.nextPing
  pings : e'.pings = e.pings
  endings : e'.endings = e.endings
  pingers : e'.pingers = e.pingers
  hubs : e'.hubs = e.hubs
  released : e'.released = e.released
  targets : e'.targetPingers = e.targetPingers
  timeline : e'.timeline = e.timeline
  journal : e'.journal = e.journal
  socketCount : e'.sockets.size = e.sockets.size
  boxCount : e'.mailboxes.size = e.mailboxes.size
  fatal : ∀ socket, e'.fatalOf socket = e.fatalOf socket

namespace SameParts

variable {e e' : Engine}

theorem ports (h : SameParts e e') : SamePorts e e' where
  port? client := by cases client <;> simp only [Engine.port?, h.pingers, h.hubs]
  socketCount := h.socketCount
  boxCount := h.boxCount

theorem listens? (h : SameParts e e') (client : ReceiveClient) :
    e'.listens? client = e.listens? client := by
  cases client <;> simp only [Engine.listens?, h.pingers, h.hubs]

end SameParts

/-- A receive of the client is started: it waits at a port where the client fits, or its end is
posted at once. -/
inductive Starts (client : ReceiveClient) (e e' : Engine) : Prop
  | waits (port : Port) (same : SameParts e e') (fits : e.Fits client port)
      (waiter : ∀ p, e'.waiter? p = if p = port then some client else e.waiter? p)
      (ready : e'.ready = e.ready)
  | posts (task : Task) (same : SameParts e e') (listener : task.listener? = some client)
      (proper : e.Proper task) (waiter : ∀ p, e'.waiter? p = e.waiter? p)
      (ready : e'.ready = e.ready ++ [task])

/-- No receive is started; one that waited may have ended, and then its end is posted. -/
inductive Passes (e e' : Engine) : Prop
  | stays (same : SameParts e e') (waiter : ∀ p, e'.waiter? p = e.waiter? p)
      (ready : e'.ready = e.ready)
  | posts (port : Port) (client : ReceiveClient) (task : Task) (same : SameParts e e')
      (listener : task.listener? = some client) (proper : e.Proper task)
      (was : e.waiter? port = some client)
      (waiter : ∀ p, e'.waiter? p = if p = port then none else e.waiter? p)
      (ready : e'.ready = e.ready ++ [task])

theorem Starts.same {client : ReceiveClient} {e e' : Engine} (h : Starts client e e') :
    SameParts e e' := by
  cases h with
  | waits port same => exact same
  | posts task same => exact same

theorem Passes.same {e e' : Engine} (h : Passes e e') : SameParts e e' := by
  cases h with
  | stays same => exact same
  | posts port client task same => exact same

namespace Wired

variable {e e' : Engine} {client : ReceiveClient}

/-- Where a client may receive, there is a port. -/
theorem hasPort_of_fits (hw : Wired e) {port : Port} (hf : e.Fits client port) :
    e.hasPort port := by
  cases client with
  | raw tag =>
    cases port with
    | socket socket => exact hf.1
    | box box => exact hf.elim
  | pinger id => exact hw.valid _ _ hf
  | hub id => exact hw.valid _ _ hf

/-- The invariant is carried over when waiters and new tasks fit. -/
theorem of_ports (hw : Wired e) (h : SamePorts e e')
    (waits : ∀ port client, e'.waiter? port = some client → e.Fits client port)
    (tasks : ∀ task ∈ e'.ready, e.Proper task)
    (later : ∀ time task, (time, .ready task) ∈ e'.timeline → task.isCore = false) : Wired e' where
  valid client port hp := (h.hasPort port).2 (hw.valid client port (by rwa [← h.port?]))
  unique client other port hp hp' :=
    hw.unique client other port (by rwa [← h.port?]) (by rwa [← h.port?])
  waits port client hp := (h.fits client port).2 (waits port client hp)
  tasks task ht := (h.proper task).2 (tasks task ht)
  later := later

theorem starts (hw : Wired e) (h : Starts client e e') : Wired e' := by
  cases h with
  | waits port same fits waiter ready =>
    refine hw.of_ports same.ports (fun p c hp => ?_) (by rw [ready]; exact hw.tasks)
      (by rw [same.timeline]; exact hw.later)
    rw [waiter] at hp
    split at hp
    · next hpp =>
      obtain rfl := Option.some.inj hp
      exact hpp ▸ fits
    · exact hw.waits p c hp
  | posts task same listener proper waiter ready =>
    refine hw.of_ports same.ports (fun p c hp => hw.waits p c (by rwa [← waiter])) (fun t ht => ?_)
      (by rw [same.timeline]; exact hw.later)
    rw [ready] at ht
    rcases List.mem_append.1 ht with ht | ht
    · exact hw.tasks t ht
    · exact List.mem_singleton.1 ht ▸ proper

theorem passes (hw : Wired e) (h : Passes e e') : Wired e' := by
  cases h with
  | stays same waiter ready =>
    exact hw.of_ports same.ports (fun p c hp => hw.waits p c (by rwa [← waiter]))
      (by rw [ready]; exact hw.tasks) (by rw [same.timeline]; exact hw.later)
  | posts port c task same listener proper was waiter ready =>
    refine hw.of_ports same.ports (fun p c hp => ?_) (fun t ht => ?_)
      (by rw [same.timeline]; exact hw.later)
    · rw [waiter] at hp
      split at hp
      · cases hp
      · exact hw.waits p c hp
    · rw [ready] at ht
      rcases List.mem_append.1 ht with ht | ht
      · exact hw.tasks t ht
      · exact List.mem_singleton.1 ht ▸ proper

end Wired

/-! ## 4. Counting -/

namespace Engine

variable {e e' : Engine} {client other : ReceiveClient}

/-- Who listens has a port. -/
theorem exists_port? {listens : Bool} (h : e.listens? client = some listens) :
    ∃ port, e.port? client = some port := by
  cases client with
  | raw tag => simp [listens?] at h
  | hub id =>
    obtain ⟨hub, hhub, -⟩ := Option.map_eq_some_iff.1 h
    exact ⟨_, by simp only [port?, hhub]; rfl⟩
  | pinger id =>
    obtain ⟨pinger, hpinger, -⟩ := Option.bind_eq_some_iff.1 h
    exact ⟨_, by simp only [port?, hpinger]; rfl⟩

theorem posted_append_self {task : Task} (hr : e'.ready = e.ready ++ [task])
    (hl : task.listener? = some client) : e'.posted client = e.posted client + 1 := by
  simp [posted, hr, List.countP_append, hl]

theorem posted_append_of_ne {task : Task} (hr : e'.ready = e.ready ++ [task])
    (hl : task.listener? ≠ some client) : e'.posted client = e.posted client := by
  simp [posted, hr, List.countP_append, hl]

theorem posted_congr (hr : e'.ready = e.ready) : e'.posted client = e.posted client := by
  rw [posted, posted, hr]

theorem waiting_of_waiter {port : Port} (hp : e.port? client = some port)
    (hw : e.waiter? port = some client) : e.waiting client = 1 := by
  simp only [waiting, hp, Option.bind_some, hw, if_true]

theorem waiting_of_no_waiter {port : Port} (hp : e.port? client = some port)
    (hw : e.waiter? port = none) : e.waiting client = 0 := by
  simp only [waiting, hp, Option.bind_some, hw, reduceCtorEq, if_false]

/-- What happens at other ports leaves the waiting of a client alone. -/
theorem waiting_congr {port : Port} (hs : SamePorts e e') (hp : e.port? client = some port)
    (hw : e'.waiter? port = e.waiter? port) : e'.waiting client = e.waiting client := by
  simp only [waiting, hs.port?, hp, Option.bind_some, hw]

end Engine

/-- **A start makes one receive of its client outstanding.** -/
theorem Starts.outstanding_self {e e' : Engine} {client : ReceiveClient} {own : Port}
    (h : Starts client e e') (hp : e.port? client = some own) (h0 : e.outstanding client = 0) :
    e'.outstanding client = 1 := by
  simp only [Engine.outstanding] at h0 ⊢
  cases h with
  | waits port same fits waiter ready =>
    obtain rfl := fits.eq_port hp
    have hone : e'.waiting client = 1 :=
      Engine.waiting_of_waiter (by rwa [same.ports.port?]) (by rw [waiter, if_pos rfl])
    rw [hone, Engine.posted_congr ready]
    omega
  | posts task same listener proper waiter ready =>
    rw [Engine.posted_append_self ready listener, Engine.waiting_congr same.ports hp (waiter own)]
    omega

/-- A start is nothing to anybody else. -/
theorem Starts.outstanding_of_ne {e e' : Engine} {client other : ReceiveClient} {own : Port}
    (h : Starts client e e') (hw : Wired e) (hp : e.port? other = some own)
    (hne : client ≠ other) : e'.outstanding other = e.outstanding other := by
  simp only [Engine.outstanding]
  cases h with
  | waits port same fits waiter ready =>
    have hport : own ≠ port := by
      rintro rfl
      exact hne (fits.eq_of_port? hw.unique hp)
    rw [Engine.posted_congr ready, Engine.waiting_congr same.ports hp (by rw [waiter, if_neg hport])]
  | posts task same listener proper waiter ready =>
    rw [Engine.posted_append_of_ne ready (by rw [listener]; simpa using hne),
      Engine.waiting_congr same.ports hp (waiter own)]

/-- **A receive that passes on stays outstanding.** -/
theorem Passes.outstanding {e e' : Engine} {other : ReceiveClient} {own : Port}
    (h : Passes e e') (hw : Wired e) (hp : e.port? other = some own) :
    e'.outstanding other = e.outstanding other := by
  simp only [Engine.outstanding]
  cases h with
  | stays same waiter ready =>
    rw [Engine.posted_congr ready, Engine.waiting_congr same.ports hp (waiter own)]
  | posts port client task same listener proper was waiter ready =>
    by_cases hc : client = other
    · -- the receive that waited is posted
      subst hc
      obtain rfl := (hw.waits _ _ was).eq_port hp
      have hone : e.waiting client = 1 := Engine.waiting_of_waiter hp was
      have hzero : e'.waiting client = 0 :=
        Engine.waiting_of_no_waiter (by rwa [same.ports.port?]) (by rw [waiter, if_pos rfl])
      rw [Engine.posted_append_self ready listener, hone, hzero]
      omega
    · have hport : own ≠ port := by
        rintro rfl
        exact hc ((hw.waits _ _ was).eq_of_port? hw.unique hp)
      rw [Engine.posted_append_of_ne ready (by rw [listener]; simpa using hc),
        Engine.waiting_congr same.ports hp (by rw [waiter, if_neg hport])]

namespace Counted

variable {e e' : Engine} {client : ReceiveClient} {busy : Option ReceiveClient}

/-- **A start uses up the freedom of its client.** -/
theorem starts (hc : Counted (some client) e) (hw : Wired e) (h : Starts client e e') :
    Counted none e' := by
  have hcount : ∀ other own, e.port? other = some own →
      e'.outstanding other = e.outstanding other + if some client = some other then 1 else 0 := by
    intro other own hp
    by_cases hother : client = other
    · subst hother
      have hsingle := hc.single client own hp
      rw [if_pos rfl] at hsingle ⊢
      have h0 : e.outstanding client = 0 := by omega
      rw [h.outstanding_self hp h0, h0]
    · rw [if_neg (by simpa using hother), h.outstanding_of_ne hw hp hother, Nat.add_zero]
  constructor
  · intro other listens hl
    rw [h.same.listens?] at hl
    obtain ⟨own, hp⟩ := Engine.exists_port? hl
    simpa [hcount other own hp] using hc.exact other listens hl
  · intro other own hp
    rw [h.same.ports.port?] at hp
    simpa [hcount other own hp] using hc.single other own hp

/-- **Passing changes no count.** -/
theorem passes (hc : Counted busy e) (hw : Wired e) (h : Passes e e') : Counted busy e' := by
  constructor
  · intro other listens hl
    rw [h.same.listens?] at hl
    obtain ⟨own, hp⟩ := Engine.exists_port? hl
    rw [h.outstanding hw hp]
    exact hc.exact other listens hl
  · intro other own hp
    rw [h.same.ports.port?] at hp
    rw [h.outstanding hw hp]
    exact hc.single other own hp

end Counted

end IcmpEcho
