/-
# The invariant

A handler runs with a task that was taken up, and deals with it piece by piece.  `Hand` is what it
has not dealt with yet: the receive that ended, a hub or pinger that has still to start receiving
again, pings whose callers are about to be told, the timer that rang.

`Sound hand e` joins the invariants on ports, receives, calls and timers, with what the hand holds
counted in.  Between tasks the hand is empty.

* A hub that works listens exactly while it has registrations; one whose socket has failed has none.
* A pinger that has calls listens.
* A pinger that is gone has no calls, and the service's pingers are neither gone nor released.
-/
import IcmpEcho.Proofs.Alarms

namespace IcmpEcho

/-! ## 1. The invariant -/

/-- What the running handler has taken up and not dealt with. -/
structure Hand where
  /-- The one whose receive has ended. -/
  busy : Option ReceiveClient := none
  /-- The one that may have to start or to give up listening. -/
  unsettled : Option ReceiveClient := none
  /-- The pings whose callers are about to be told. -/
  ended : List PingId := []
  /-- The timer that has rung. -/
  late : Option Alarm := none
  /-- The registrations that may be ended: those of these addresses at these hubs. -/
  may : HubId → Address → Prop := fun _ _ => False

/-- The registrations that may end with a task: a datagram can end that of its source, a failure all
that its hub has. -/
def Task.may : Task → HubId → Address → Prop
  | .received _ (.hub id) code source _, hub, address =>
    hub = id ∧ (code.isError = false → address = source)
  | .noReceive (.hub id) _, hub, _ => hub = id
  | _, _, _ => False

/-- What a handler starts with. -/
def Hand.of (task : Task) : Hand :=
  { busy := task.listener?, ended := task.refusal?.toList, late := task.rings?, may := task.may }

namespace Engine

/-- The hub or pinger listens when it should. -/
def Settled (e : Engine) : ReceiveClient → Prop
  | .hub id => ∀ hub, e.hubs[id]? = some hub →
    if (e.fatalOf hub.socket).isError then hub.registry = []
    else (hub.running = true ↔ hub.registry ≠ [])
  | .pinger id => ∀ pinger, e.pingers[id]? = some pinger → pinger.gone = false →
    pinger.calls ≠ [] → pinger.receiving = true
  | .raw _ => True

/-- The pinger exists, and somebody holds it. -/
def Kept (e : Engine) (id : PingerId) : Prop :=
  (∃ pinger, e.pingers[id]? = some pinger ∧ pinger.gone = false) ∧ id ∉ e.released

/-- The registry of the hub has the mailbox for the address. -/
def Lists (e : Engine) (id : HubId) (address : Address) (box : MailboxId) : Prop :=
  ∃ hub, e.hubs[id]? = some hub ∧ (address, box) ∈ hub.registry

/-- The pinger of the mailbox is gone. -/
def Orphan (e : Engine) (box : MailboxId) : Prop :=
  ∃ (id : PingerId) (pinger : Pinger), e.pingers[id]? = some pinger ∧
    pinger.mailbox = some box ∧ pinger.gone = true

end Engine

/-- A mailbox in a registry exists, and is in no other place of any registry. -/
structure Listed (e : Engine) : Prop where
  known : ∀ id address box, e.Lists id address box → box < e.mailboxes.size
  once : ∀ id address other address' box, e.Lists id address box → e.Lists other address' box →
    id = other ∧ address = address'

/-- **The invariant of an engine.** -/
structure Sound (hand : Hand) (e : Engine) : Prop where
  wired : Wired e
  counted : Counted hand.busy e
  settled : ∀ client, hand.unsettled ≠ some client → e.Settled client
  ledger : Ledger hand.ended e
  armed : Armed hand.late e
  gone : ∀ (id : PingerId) (pinger : Pinger), e.pingers[id]? = some pinger → pinger.gone = true →
    pinger.calls = []
  targets : ∀ id ∈ e.targetPingers, e.Kept id
  listed : Listed e

variable {e e' : Engine} {hand : Hand} {id : PingerId} {pinger : Pinger}

/-! ## 2. Counting, when neither a start nor a receipt happens -/

/-- How it changes who is busy when a client sets or clears its flag. -/
inductive Lends (client : ReceiveClient) :
    Bool → Bool → Option ReceiveClient → Option ReceiveClient → Prop
  | keeps (flag : Bool) (busy : Option ReceiveClient) : Lends client flag flag busy busy
  | sets : Lends client false true none (some client)
  | clears : Lends client true false (some client) none

namespace Counted

variable {busy busy' : Option ReceiveClient}

/-- What is outstanding stays so, and all listen as before. -/
theorem congr (hc : Counted busy e) (ports : SamePorts e e')
    (listens : ∀ other, e'.listens? other = e.listens? other)
    (outstanding : ∀ other port, e.port? other = some port →
      e'.outstanding other = e.outstanding other) : Counted busy e' where
  exact other flag hl := by
    rw [listens] at hl
    obtain ⟨port, hp⟩ := Engine.exists_port? hl
    rw [outstanding other port hp]
    exact hc.exact other flag hl
  single other port hp := by
    rw [ports.port?] at hp
    rw [outstanding other port hp]
    exact hc.single other port hp

/-- **A client sets or clears its flag.** -/
theorem lends (hc : Counted busy e) (client : ReceiveClient) (ports : SamePorts e e')
    (outstanding : ∀ other port, e.port? other = some port →
      e'.outstanding other = e.outstanding other)
    {flag flag' : Bool} (old : e.listens? client = some flag)
    (new : e'.listens? client = some flag')
    (others : ∀ other, other ≠ client → e'.listens? other = e.listens? other)
    (lends : Lends client flag flag' busy busy') : Counted busy' e' := by
  have hold := hc.exact client flag old
  -- nobody else becomes busy, and nobody else was
  have hothers : ∀ other, other ≠ client →
      (if busy' = some other then 1 else 0) = if busy = some other then 1 else 0 := by
    intro other hne
    cases lends with
    | keeps => rfl
    | sets => simp [Ne.symm hne]
    | clears => simp [Ne.symm hne]
  have hself : e.outstanding client + (if busy' = some client then 1 else 0)
      = if flag' then 1 else 0 := by
    cases lends with
    | keeps => exact hold
    | sets => simpa using hold
    | clears => simpa using hold
  constructor
  · intro other listens hl
    obtain ⟨port, hp⟩ : ∃ port, e.port? other = some port := by
      obtain ⟨port, hp⟩ := Engine.exists_port? hl
      exact ⟨port, by rwa [← ports.port?]⟩
    rw [outstanding other port hp]
    by_cases hne : other = client
    · subst hne
      obtain rfl := Option.some.inj (hl.symm.trans new)
      exact hself
    · rw [others other hne] at hl
      rw [hothers other hne]
      exact hc.exact other listens hl
  · intro other port hp
    rw [ports.port?] at hp
    rw [outstanding other port hp]
    by_cases hne : other = client
    · subst hne
      rw [hself]
      split <;> omega
    · rw [hothers other hne]
      exact hc.single other port hp

/-- Nobody has to account for a client that does not listen at all. -/
theorem drop {client : ReceiveClient} (hc : Counted (some client) e)
    (hl : e.listens? client = none) : Counted none e where
  exact other listens h := by
    have hne : client ≠ other := by
      rintro rfl
      rw [hl] at h
      cases h
    simpa [hne] using hc.exact other listens h
  single other port hp := by
    have := hc.single other port hp
    simp only [reduceCtorEq, if_false]
    omega

/-- **The receive that a task ends is being handled.** -/
theorem consume (hc : Counted none e) {front back : List Task} {task : Task}
    (hr : e.ready = front ++ task :: back) :
    Counted task.listener? { e with ready := front ++ back } := by
  have hcount : ∀ client, Engine.outstanding { e with ready := front ++ back } client
      + (if task.listener? = some client then 1 else 0) = e.outstanding client := by
    intro client
    have hwaiting : Engine.waiting { e with ready := front ++ back } client = e.waiting client := by
      have hwaiter : Engine.waiter? { e with ready := front ++ back } = e.waiter? := by
        funext port
        cases port <;> rfl
      have hport : Engine.port? { e with ready := front ++ back } client = e.port? client := by
        cases client <;> rfl
      rw [Engine.waiting, Engine.waiting, hwaiter, hport]
    simp only [Engine.outstanding, hwaiting, Engine.posted, hr, List.countP_append, List.countP_cons,
      decide_eq_true_eq]
    omega
  constructor
  · intro client listens hl
    rw [hcount]
    simpa using hc.exact client listens (by cases client <;> exact hl)
  · intro client port hp
    rw [hcount]
    simpa using hc.single client port (by cases client <;> exact hp)

end Counted

/-! ## 3. What leaves ports and receives alone -/

/-- Nobody's receives or ports are any different. -/
structure SameReceives (e e' : Engine) : Prop where
  sockets : e'.sockets = e.sockets
  mailboxes : e'.mailboxes = e.mailboxes
  pingers : e'.pingers = e.pingers
  hubs : e'.hubs = e.hubs
  posted : ∀ client, e'.posted client = e.posted client

namespace SameReceives

theorem ports (h : SameReceives e e') : SamePorts e e' where
  port? client := by cases client <;> simp only [Engine.port?, h.pingers, h.hubs]
  socketCount := by rw [h.sockets]
  boxCount := by rw [h.mailboxes]

theorem waiter? (h : SameReceives e e') (port : Port) : e'.waiter? port = e.waiter? port := by
  cases port <;> simp only [Engine.waiter?, h.sockets, h.mailboxes]

theorem listens? (h : SameReceives e e') (client : ReceiveClient) :
    e'.listens? client = e.listens? client := by
  cases client <;> simp only [Engine.listens?, h.pingers, h.hubs]

theorem fatalOf (h : SameReceives e e') (socket : SocketId) :
    e'.fatalOf socket = e.fatalOf socket := by
  simp only [Engine.fatalOf, h.sockets]

end SameReceives

theorem Task.isCore_of_listener {task : Task} {client : ReceiveClient}
    (h : task.listener? = some client) : task.isCore := by
  cases task <;> simp_all [Task.listener?, Task.isCore]

theorem Aside.receives (h : Aside e e') : SameReceives e e' where
  sockets := h.sockets
  mailboxes := h.mailboxes
  pingers := h.pingers
  hubs := h.hubs
  posted _ :=
    countP_eq_of_filter_eq h.ready fun _ ht => Task.isCore_of_listener (of_decide_eq_true ht)

/-- Where nobody's port changes and nobody starts or ends waiting, what is posted decides. -/
theorem Engine.outstanding_congr {client : ReceiveClient} {port : Port} (ports : SamePorts e e')
    (waiter : ∀ port, e'.waiter? port = e.waiter? port) (hp : e.port? client = some port)
    (posted : e'.posted client = e.posted client) :
    e'.outstanding client = e.outstanding client := by
  rw [outstanding, outstanding, waiting_congr ports hp (waiter port), posted]

theorem Counted.same {busy : Option ReceiveClient} (hc : Counted busy e)
    (h : SameReceives e e') : Counted busy e' :=
  hc.congr h.ports h.listens? fun client _ hp =>
    Engine.outstanding_congr h.ports h.waiter? hp (h.posted client)

/-- Receives stay where they belong when no task that ends one is new. -/
theorem Wired.same (hw : Wired e) (h : SameReceives e e')
    (tasks : ∀ task ∈ e'.ready, task.listener? = none ∨ task ∈ e.ready)
    (later : ∀ time task, (time, .ready task) ∈ e'.timeline → task.isCore = false) : Wired e' := by
  refine hw.of_ports h.ports (fun port client hp => hw.waits port client (by rwa [← h.waiter?]))
    (fun task ht => ?_) later
  rcases tasks task ht with hl | hold
  · exact Engine.proper_of_not_listener hl
  · exact hw.tasks task hold

theorem Wired.aside (hw : Wired e) (h : Aside e e') : Wired e' := by
  refine hw.same h.receives (fun task ht => ?_) fun time task ht => ?_
  · cases hl : task.listener? with
    | none => exact .inl rfl
    | some client => exact .inr (mem_of_filter_eq h.ready ht (Task.isCore_of_listener hl))
  · by_contra hcore
    have hcore : (Happening.ready task).isCore := by simpa [Happening.isCore] using hcore
    have hmem := mem_of_filter_eq h.timeline ht (q := fun entry => entry.2.isCore) hcore
    simp [Happening.isCore, hw.later time task hmem] at hcore

namespace Engine

/-- Whether all is settled shows in hubs, pingers and failed sockets. -/
theorem Settled.congr {client : ReceiveClient} (h : e.Settled client) (hubs : e'.hubs = e.hubs)
    (pingers : e'.pingers = e.pingers)
    (fatal : ∀ socket, (e'.fatalOf socket).isError = (e.fatalOf socket).isError) :
    e'.Settled client := by
  cases client with
  | raw tag => trivial
  | hub id =>
    intro hub hhub
    rw [fatal]
    exact h hub (by rwa [← hubs])
  | pinger id =>
    intro pinger hpinger
    exact h pinger (by rwa [← pingers])

end Engine

namespace Listed

/-- Registries that lose entries. -/
theorem fewer (hl : Listed e) (lists : ∀ id address box, e'.Lists id address box →
    e.Lists id address box) (boxes : e.mailboxes.size ≤ e'.mailboxes.size) : Listed e' where
  known id address box h := Nat.lt_of_lt_of_le (hl.known id address box (lists id address box h)) boxes
  once id address other address' box h h' :=
    hl.once id address other address' box (lists id address box h) (lists other address' box h')

theorem same (hl : Listed e) (hubs : e'.hubs = e.hubs)
    (boxes : e'.mailboxes.size = e.mailboxes.size) : Listed e' :=
  hl.fewer (fun _ _ _ ⟨hub, hh, hmem⟩ => ⟨hub, by rwa [← hubs], hmem⟩) (Nat.le_of_eq boxes.symm)

end Listed

namespace Sound

/-- **Going aside keeps the invariant.** -/
theorem aside (hs : Sound hand e) (h : Aside e e') : Sound hand e' where
  wired := hs.wired.aside h
  counted := hs.counted.same h.receives
  settled client hc :=
    (hs.settled client hc).congr h.hubs h.pingers fun _ => by rw [h.receives.fatalOf]
  ledger := hs.ledger.same (.of_aside h)
  armed := hs.armed.same (.of_aside h)
  gone id pinger hp := hs.gone id pinger (by rwa [← h.pingers])
  targets id hid := by
    rw [h.targets] at hid
    simpa only [Engine.Kept, h.pingers, h.released] using hs.targets id hid
  listed := hs.listed.same h.hubs (by rw [h.mailboxes])

/-! ## 4. Receives -/

theorem of_sameParts (hs : Sound hand e) (h : SameParts e e') (calls : SameCalls e e')
    {busy : Option ReceiveClient} (wired : Wired e') (counted : Counted busy e') :
    Sound { hand with busy } e' where
  wired := wired
  counted := counted
  settled client hc := (hs.settled client hc).congr h.hubs h.pingers fun _ => by rw [h.fatal]
  ledger := hs.ledger.same calls
  armed := hs.armed.same calls
  gone id pinger hp := hs.gone id pinger (by rwa [← h.pingers])
  targets id hid := by
    rw [h.targets] at hid
    simpa only [Engine.Kept, h.pingers, h.released] using hs.targets id hid
  listed := hs.listed.same h.hubs h.boxCount

/-- **A receive that is started takes the busy client off the hand.** -/
theorem starts {client : ReceiveClient} (hs : Sound hand e) (hb : hand.busy = some client)
    (h : Starts client e e') : Sound { hand with busy := none } e' :=
  hs.of_sameParts h.same (.of_starts h) (hs.wired.starts h)
    (Counted.starts (hb ▸ hs.counted) hs.wired h)

/-- **A receive that passes on changes nothing in the hand.** -/
theorem passes (hs : Sound hand e) (h : Passes e e') : Sound hand e' :=
  hs.of_sameParts h.same (.of_passes h) (hs.wired.passes h) (hs.counted.passes hs.wired h)

end Sound

/-- A raw client has no port; nobody keeps count of it. -/
theorem Counted.raw (hc : Counted none e) (tag : String) : Counted (some (.raw tag)) e where
  exact other listens hl := by
    have hne : ReceiveClient.raw tag ≠ other := by
      rintro rfl
      cases hl
    simpa [hne] using hc.exact other listens hl
  single other port hp := by
    have hne : ReceiveClient.raw tag ≠ other := by
      rintro rfl
      cases hp
    simpa [hne] using hc.single other port hp

/-! ## 5. One hub, one pinger -/

namespace Engine

variable {hub : Hub} {hid : HubId}

theorem hubs_updateHub (hh : e.hubs[hid]? = some hub) (change : Hub → Hub) (other : HubId) :
    (e.updateHub hid change).hubs[other]?
      = if other = hid then some (change hub) else e.hubs[other]? := by
  simp only [updateHub, Array.getElem?_modify]
  by_cases h : hid = other
  · subst h; simp [hh]
  · simp [h, Ne.symm h]

theorem pingers_updatePinger (hp : e.pingers[id]? = some pinger) (change : Pinger → Pinger)
    (other : PingerId) :
    (e.updatePinger id change).pingers[other]?
      = if other = id then some (change pinger) else e.pingers[other]? := by
  simp only [updatePinger, Array.getElem?_modify]
  by_cases h : id = other
  · subst h; simp [hp]
  · simp [h, Ne.symm h]

theorem waiter?_updateHub (change : Hub → Hub) (port : Port) :
    (e.updateHub hid change).waiter? port = e.waiter? port := by
  cases port <;> rfl

theorem waiter?_updatePinger (change : Pinger → Pinger) (port : Port) :
    (e.updatePinger id change).waiter? port = e.waiter? port := by
  cases port <;> rfl

theorem listens?_updateHub_self (hh : e.hubs[hid]? = some hub) (change : Hub → Hub) :
    (e.updateHub hid change).listens? (.hub hid) = some (change hub).running := by
  simp only [listens?, hubs_updateHub hh, if_true, Option.map_some]

theorem listens?_updateHub_of_ne (hh : e.hubs[hid]? = some hub) (change : Hub → Hub)
    {other : ReceiveClient} (hne : other ≠ .hub hid) :
    (e.updateHub hid change).listens? other = e.listens? other := by
  cases other with
  | hub id => simp only [listens?, hubs_updateHub hh, if_neg fun h => hne (congrArg _ h)]
  | pinger id => rfl
  | raw tag => rfl

theorem listens?_updatePinger_self (hp : e.pingers[id]? = some pinger) {change : Pinger → Pinger}
    (hgone : (change pinger).gone = false) :
    (e.updatePinger id change).listens? (.pinger id) = some (change pinger).receiving := by
  simp [listens?, pingers_updatePinger hp, hgone]

theorem listens?_updatePinger_of_ne (hp : e.pingers[id]? = some pinger)
    (change : Pinger → Pinger) {other : ReceiveClient} (hne : other ≠ .pinger id) :
    (e.updatePinger id change).listens? other = e.listens? other := by
  cases other with
  | pinger other =>
    simp only [listens?, pingers_updatePinger hp, if_neg fun h => hne (congrArg _ h)]
  | hub id => rfl
  | raw tag => rfl

end Engine

/-- A hub that loses entries. -/
theorem Listed.updateHub {hub : Hub} {hid : HubId} (hl : Listed e) (hh : e.hubs[hid]? = some hub)
    {change : Hub → Hub} (entries : (change hub).registry ⊆ hub.registry) :
    Listed (e.updateHub hid change) := by
  refine hl.fewer (fun id address box => ?_) (Nat.le_refl _)
  rintro ⟨hub', hhub', hmem⟩
  rw [Engine.hubs_updateHub hh] at hhub'
  split at hhub'
  · next hid =>
    obtain rfl := Option.some.inj hhub'
    exact ⟨hub, hid ▸ hh, entries hmem⟩
  · exact ⟨hub', hhub', hmem⟩

theorem SamePorts.updateHub {hub : Hub} {hid : HubId} (hh : e.hubs[hid]? = some hub)
    {change : Hub → Hub} (hc : (change hub).socket = hub.socket) :
    SamePorts e (e.updateHub hid change) where
  port? client := by
    cases client with
    | hub other =>
      simp only [Engine.port?, Engine.hubs_updateHub hh]
      split
      · next h => subst h; simp [hh, hc]
      · rfl
    | pinger other => rfl
    | raw tag => rfl
  socketCount := rfl
  boxCount := rfl

theorem SamePorts.updatePinger (hp : e.pingers[id]? = some pinger) {change : Pinger → Pinger}
    (hc : (change pinger).port = pinger.port) : SamePorts e (e.updatePinger id change) where
  port? client := by
    cases client with
    | pinger other =>
      simp only [Engine.port?, Engine.pingers_updatePinger hp]
      split
      · next h => subst h; simp [hp, hc]
      · rfl
    | hub other => rfl
    | raw tag => rfl
  socketCount := rfl
  boxCount := rfl

namespace Sound

variable {busy : Option ReceiveClient}

/-- **A hub sets or clears its flag, and its registry changes.** -/
theorem updateHub {hub : Hub} {hid : HubId} (hs : Sound hand e) (hh : e.hubs[hid]? = some hub)
    {change : Hub → Hub} (hc : (change hub).socket = hub.socket)
    (listed : Listed (e.updateHub hid change))
    (hu : hand.unsettled = none ∨ hand.unsettled = some (.hub hid))
    (hl : Lends (.hub hid) hub.running (change hub).running hand.busy busy) :
    Sound { hand with busy, unsettled := some (.hub hid) } (e.updateHub hid change) where
  wired := hs.wired.of_ports (.updateHub hh hc)
    (fun port client hp => hs.wired.waits port client (by rwa [← Engine.waiter?_updateHub]))
    hs.wired.tasks hs.wired.later
  counted := hs.counted.lends (.hub hid) (.updateHub hh hc)
    (fun _ _ hp => Engine.outstanding_congr (.updateHub hh hc) (Engine.waiter?_updateHub _) hp rfl)
    (by simp only [Engine.listens?, hh, Option.map_some]) (Engine.listens?_updateHub_self hh change)
    (fun _ hne => Engine.listens?_updateHub_of_ne hh change hne) hl
  settled client hclient := by
    have hold : e.Settled client := hs.settled client (by rcases hu with h | h <;> simp_all)
    cases client with
    | hub other =>
      intro hub' hhub'
      have hne : other ≠ hid := by
        rintro rfl
        exact hclient rfl
      rw [Engine.hubs_updateHub hh, if_neg hne] at hhub'
      exact hold hub' hhub'
    | pinger other => exact hold
    | raw tag => trivial
  ledger := hs.ledger.same (.updateHub hid change)
  armed := hs.armed.same (.updateHub hid change)
  gone := hs.gone
  targets := hs.targets
  listed := listed

/-- **A living pinger changes.**  What becomes of its calls is the matter of the ledger. -/
theorem updatePinger (hs : Sound hand e) (hp : e.pingers[id]? = some pinger)
    (hg : pinger.gone = false) (change : Pinger → Pinger) (hand' : Hand)
    (port : (change pinger).port = pinger.port) (gone : (change pinger).gone = false)
    (lends : Lends (.pinger id) pinger.receiving (change pinger).receiving hand.busy hand'.busy)
    (others : ∀ client, client ≠ .pinger id → hand'.unsettled ≠ some client →
      hand.unsettled ≠ some client)
    (self : hand'.unsettled ≠ some (.pinger id) → (change pinger).calls ≠ [] →
      (change pinger).receiving = true)
    (ledger : Ledger hand'.ended (e.updatePinger id change))
    (armed : Armed hand'.late (e.updatePinger id change)) :
    Sound hand' (e.updatePinger id change) where
  wired := hs.wired.of_ports (.updatePinger hp port)
    (fun port client hp => hs.wired.waits port client (by rwa [← Engine.waiter?_updatePinger]))
    hs.wired.tasks hs.wired.later
  counted := hs.counted.lends (.pinger id) (.updatePinger hp port)
    (fun _ _ h => Engine.outstanding_congr (.updatePinger hp port)
      (Engine.waiter?_updatePinger _) h rfl)
    (by simp [Engine.listens?, hp, hg]) (Engine.listens?_updatePinger_self hp gone)
    (fun _ hne => Engine.listens?_updatePinger_of_ne hp change hne) lends
  settled client hclient := by
    by_cases hne : client = .pinger id
    · subst hne
      intro pinger' hpinger' _ hcalls
      rw [Engine.pingers_updatePinger hp, if_pos rfl] at hpinger'
      obtain rfl := Option.some.inj hpinger'
      exact self hclient hcalls
    · have hold := hs.settled client (others client hne hclient)
      cases client with
      | hub other => exact hold
      | raw tag => trivial
      | pinger other =>
        intro pinger' hpinger'
        rw [Engine.pingers_updatePinger hp, if_neg fun h => hne (congrArg _ h)] at hpinger'
        exact hold pinger' hpinger'
  ledger := ledger
  armed := armed
  gone other pinger' hpinger' hgone := by
    rw [Engine.pingers_updatePinger hp] at hpinger'
    split at hpinger'
    · obtain rfl := Option.some.inj hpinger'
      rw [gone] at hgone
      cases hgone
    · exact hs.gone other pinger' hpinger' hgone
  targets other hother := by
    obtain ⟨⟨pinger', hpinger', hgone⟩, hrel⟩ := hs.targets other hother
    refine ⟨?_, hrel⟩
    rw [Engine.pingers_updatePinger hp]
    split
    · exact ⟨_, rfl, gone⟩
    · exact ⟨pinger', hpinger', hgone⟩
  listed := hs.listed.same rfl rfl

/-- The one that should listen, and does, is taken off the hand. -/
theorem settle (hs : Sound hand e) {client : ReceiveClient} (hu : hand.unsettled = some client)
    (h : e.Settled client) : Sound { hand with unsettled := none } e :=
  { hs with
    settled := fun other _ => by
      by_cases hne : other = client
      · exact hne ▸ h
      · exact hs.settled other (by rw [hu]; simpa using Ne.symm hne) }

end Sound

/-! ## 6. A socket fails -/

theorem Engine.fatalOf_fail {socket : SocketId} {code : ErrorCode} (hcode : code.isError)
    (other : SocketId) :
    ((e.updateSocket socket fun record => { record with fatal := code }).fatalOf other).isError
      = (decide (other = socket) || (e.fatalOf other).isError) := by
  simp only [fatalOf, updateSocket, Array.getElem?_modify]
  by_cases h : socket = other
  · subst h
    cases e.sockets[socket]? with
    | none => simp [ErrorCode.isError_aborted]
    | some record => simp [hcode]
  · simp [h, Ne.symm h]

theorem Sound.fail (hs : Sound hand e) {socket : SocketId} {code : ErrorCode}
    (hcode : code.isError)
    (hubs : ∀ id hub, e.hubs[id]? = some hub → hub.socket = socket →
      hub.registry = [] ∨ hand.unsettled = some (.hub id)) :
    Sound hand (e.updateSocket socket fun record => { record with fatal := code }) := by
  have hports : SamePorts e (e.updateSocket socket fun record => { record with fatal := code }) :=
    ⟨fun client => by cases client <;> rfl, Array.size_modify, rfl⟩
  have hwaiter : ∀ port, (e.updateSocket socket fun record =>
      { record with fatal := code }).waiter? port = e.waiter? port := by
    intro port
    rw [Engine.waiter?_updateSocket]
    split
    · next h => subst h; cases hr : e.sockets[socket]? <;> simp [Engine.waiter?, hr]
    · rfl
  exact { hs with
    wired := hs.wired.of_ports hports
      (fun port client hp => hs.wired.waits port client (by rwa [← hwaiter]))
      hs.wired.tasks hs.wired.later
    counted := hs.counted.congr hports (fun client => by cases client <;> rfl)
      fun _ _ hp => Engine.outstanding_congr hports hwaiter hp rfl
    settled := fun client hclient => by
      have hold := hs.settled client hclient
      cases client with
      | raw tag => trivial
      | pinger id => exact hold
      | hub id =>
        intro hub hhub
        rw [Engine.fatalOf_fail hcode]
        by_cases hsocket : hub.socket = socket
        · rcases hubs id hub hhub hsocket with hempty | hu
          · simpa [hsocket] using hempty
          · exact absurd hu hclient
        · simpa [hsocket] using hold hub hhub
    ledger := hs.ledger.same (.updateSocket _ _)
    armed := hs.armed.same (.updateSocket _ _)
    listed := hs.listed.same rfl rfl }

end IcmpEcho
