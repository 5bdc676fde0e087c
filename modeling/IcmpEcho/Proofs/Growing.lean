/-
# New parts

Opening a socket, a hub or a pinger adds parts and leaves those that exist alone: `Grows e e'`.  A
new hub or pinger starts at rest, at a port where nobody fits yet (`Grows.owner`), so the
invariant holds after as before (`Grows.sound`).

`Onward e e'` is what holds between an engine and any later one, however it came about.
-/
import IcmpEcho.Proofs.Performing

namespace IcmpEcho

variable {e e' e'' : Engine}

/-! ## 1. Growing -/

/-- Nothing has come in at the socket, and nobody waits there. -/
structure RawSocket.Idle (record : RawSocket) : Prop where
  receiver : record.receiver = none
  backlog : record.backlog = []

/-- `e'` has the parts of `e` and new ones, at rest and at ports that were nobody's. -/
structure Grows (e e' : Engine) : Prop where
  socket : ∀ id : SocketId, e'.sockets[id]? = e.sockets[id]? ∨
    (e.sockets[id]? = none ∧ ∃ record, e'.sockets[id]? = some record ∧ record.Idle)
  box : ∀ id : MailboxId, e'.mailboxes[id]? = e.mailboxes[id]? ∨
    (e.mailboxes[id]? = none ∧ e'.mailboxes[id]? = some {})
  hub : ∀ id : HubId, e'.hubs[id]? = e.hubs[id]? ∨
    (e.hubs[id]? = none ∧ ∃ hub, e'.hubs[id]? = some hub ∧ hub.registry = [] ∧
      hub.running = false)
  pinger : ∀ id : PingerId, e'.pingers[id]? = e.pingers[id]? ∨
    (e.pingers[id]? = none ∧ ∃ pinger, e'.pingers[id]? = some pinger ∧ pinger.calls = [] ∧
      pinger.receiving = false ∧ pinger.gone = false)
  owner : ∀ client port, e.port? client = none → e'.port? client = some port →
    e'.hasPort port ∧ ∀ other, ¬ e.Fits other port
  single : ∀ client other port, e.port? client = none → e.port? other = none →
    e'.port? client = some port → e'.port? other = some port → client = other
  nextPing : e'.nextPing = e.nextPing
  pings : e'.pings = e.pings
  endings : e'.endings = e.endings
  arrivals : e'.arrivals = e.arrivals
  ready : e'.ready = e.ready
  timeline : e'.timeline = e.timeline
  journal : e'.journal = e.journal
  released : e'.released = e.released
  targets : e'.targetPingers = e.targetPingers

/-- What stands in an array to which a part is added stood there, or is the new part. -/
theorem Array.getElem?_push_cases {α : Type} (parts : Array α) (part : α) (i : Nat) :
    (parts.push part)[i]? = parts[i]? ∨ (parts[i]? = none ∧ (parts.push part)[i]? = some part) := by
  rw [Array.getElem?_push]
  split
  · next h => exact .inr ⟨by simp [h], rfl⟩
  · exact .inl rfl

/-- What stood in an array stands there still. -/
theorem Array.getElem?_push_of_some {α : Type} {parts : Array α} {i : Nat} {old : α}
    (h : parts[i]? = some old) (part : α) : (parts.push part)[i]? = some old := by
  rcases Array.getElem?_push_cases parts part i with hsame | ⟨hnone, -⟩
  · rw [hsame, h]
  · rw [hnone] at h
    cases h

namespace Grows

/-- A socket is not touched when parts are added. -/
theorem socket_of_some (h : Grows e e') {id : SocketId} {record : RawSocket}
    (hs : e.sockets[id]? = some record) : e'.sockets[id]? = some record := by
  rcases h.socket id with hsame | ⟨hnone, -⟩
  · rw [hsame, hs]
  · rw [hnone] at hs
    cases hs

theorem pinger_of_some (h : Grows e e') {id : PingerId} {pinger : Pinger}
    (hp : e.pingers[id]? = some pinger) : e'.pingers[id]? = some pinger := by
  rcases h.pinger id with hsame | ⟨hnone, -⟩
  · rw [hsame, hp]
  · rw [hnone] at hp
    cases hp

theorem hub_of_some (h : Grows e e') {id : HubId} {hub : Hub} (hh : e.hubs[id]? = some hub) :
    e'.hubs[id]? = some hub := by
  rcases h.hub id with hsame | ⟨hnone, -⟩
  · rw [hsame, hh]
  · rw [hnone] at hh
    cases hh

/-- A port that is there stays. -/
theorem hasPort (h : Grows e e') (port : Port) (hp : e.hasPort port) : e'.hasPort port := by
  cases port with
  | socket id =>
    rcases h.socket id with hsame | ⟨hnone, -⟩
    · rw [Array.getElem?_eq_getElem hp] at hsame
      exact (Array.getElem?_eq_some_iff.1 hsame).1
    · rw [Array.getElem?_eq_getElem hp] at hnone
      cases hnone
  | box id =>
    rcases h.box id with hsame | ⟨hnone, -⟩
    · rw [Array.getElem?_eq_getElem hp] at hsame
      exact (Array.getElem?_eq_some_iff.1 hsame).1
    · rw [Array.getElem?_eq_getElem hp] at hnone
      cases hnone

/-- An owner keeps its port. -/
theorem port? (h : Grows e e') {client : ReceiveClient} {port : Port}
    (hp : e.port? client = some port) : e'.port? client = some port := by
  cases client with
  | raw tag => cases hp
  | hub id =>
    obtain ⟨hub, hh, rfl⟩ := Option.map_eq_some_iff.1 hp
    simp only [Engine.port?, h.hub_of_some hh, Option.map_some]
  | pinger id =>
    obtain ⟨pinger, hpinger, rfl⟩ := Option.map_eq_some_iff.1 hp
    simp only [Engine.port?, h.pinger_of_some hpinger, Option.map_some]

/-- An owner is an old one, or has a new port. -/
theorem port?_cases (h : Grows e e') {client : ReceiveClient} {port : Port}
    (hp : e'.port? client = some port) : e.port? client = some port ∨ e.port? client = none := by
  cases hold : e.port? client with
  | none => exact .inr rfl
  | some old => exact .inl ((h.port? hold).symm.trans hp)

/-- Who may receive at a port still may; a raw receive too, since no new owner has the port of an
old socket. -/
theorem fits (h : Grows e e') {client : ReceiveClient} {port : Port} (hf : e.Fits client port) :
    e'.Fits client port := by
  cases client with
  | pinger id => exact h.port? hf
  | hub id => exact h.port? hf
  | raw tag =>
    cases port with
    | box id => exact hf
    | socket id =>
      have hport : e'.hasPort (.socket id) := h.hasPort _ hf.1
      refine ⟨hport, fun other hother => ?_⟩
      rcases h.port?_cases hother with hold | hnew
      · exact hf.2 other hold
      · exact (h.owner other _ hnew hother).2 (.raw tag) hf

/-- A task is still proper for who it is meant for. -/
theorem proper (h : Grows e e') {task : Task} (ht : e.Proper task) : e'.Proper task := by
  cases task with
  | received => exact h.fits ht
  | noReceive => exact ⟨ht.1, ht.2.imp fun _ => h.fits⟩
  | mail => exact ht.imp fun _ => h.fits
  | _ => trivial

/-- Nobody waits anywhere who did not wait before. -/
theorem waiter? (h : Grows e e') (port : Port) : e'.waiter? port = e.waiter? port := by
  cases port with
  | socket id =>
    rcases h.socket id with hsame | ⟨hnone, record, hnew, hr⟩
    · simp only [Engine.waiter?, hsame]
    · simp [Engine.waiter?, hnone, hnew, hr.receiver]
  | box id =>
    rcases h.box id with hsame | ⟨hnone, hnew⟩
    · simp only [Engine.waiter?, hsame]
    · simp [Engine.waiter?, hnone, hnew]

/-- A socket works or has failed as before. -/
theorem fatalOf (h : Grows e e') {socket : SocketId} (hs : socket < e.sockets.size) :
    e'.fatalOf socket = e.fatalOf socket := by
  have hold := Array.getElem?_eq_getElem hs
  simp only [Engine.fatalOf, h.socket_of_some hold, hold]

/-- A new pinger has no calls, so there are those that there were. -/
theorem calls (h : Grows e e') : SameCalls e e' where
  nextPing := h.nextPing
  pings := h.pings
  endings := h.endings
  calls id := by
    rcases h.pinger id with hsame | ⟨hnone, pinger, hnew, hcalls, -⟩
    · simp only [Engine.callsOf, hsame]
    · simp [Engine.callsOf, hnone, hnew, hcalls]
  ready := by rw [h.ready]
  timeline := by rw [h.timeline]
  journal := by rw [h.journal]

/-- What an owner waits for is as it was. -/
theorem outstanding (h : Grows e e') {client : ReceiveClient} {port : Port}
    (hp : e.port? client = some port) : e'.outstanding client = e.outstanding client := by
  simp only [Engine.outstanding, Engine.waiting, Engine.posted, h.port? hp, hp, Option.bind_some,
    h.waiter?, h.ready]

/-- Nothing of a new owner is outstanding. -/
theorem outstanding_new (h : Grows e e') (hw : Wired e) {client : ReceiveClient} {port : Port}
    (hnew : e.port? client = none) (hp : e'.port? client = some port) :
    e'.outstanding client = 0 := by
  -- it had no port, so it fitted nowhere, and neither a wait nor a task can be its own
  have hfits : ∀ {port : Port}, ¬ e.Fits client port := by
    intro port hf
    cases client with
    | raw tag => cases hp
    | hub id => exact absurd (hnew.symm.trans hf) (by simp)
    | pinger id => exact absurd (hnew.symm.trans hf) (by simp)
  have hwaiting : e'.waiting client = 0 := by
    cases hwaiter : e.waiter? port with
    | none => exact Engine.waiting_of_no_waiter hp (by rw [h.waiter?, hwaiter])
    | some other => exact absurd (hw.waits port other hwaiter) ((h.owner client port hnew hp).2 other)
  have hposted : e'.posted client = 0 := by
    rw [Engine.posted, h.ready]
    refine List.countP_eq_zero.2 fun task ht hl => ?_
    have hproper := hw.tasks task ht
    cases task with
    | received socket other code source data =>
      obtain rfl := Option.some.inj (of_decide_eq_true hl)
      exact hfits hproper
    | noReceive other code =>
      obtain rfl := Option.some.inj (of_decide_eq_true hl)
      exact hfits hproper.2.choose_spec
    | mail reader code letter =>
      obtain rfl := Option.some.inj (of_decide_eq_true hl)
      exact hfits hproper.choose_spec
    | _ => simp [Task.listener?] at hl
  rw [Engine.outstanding, hwaiting, hposted]

/-- A new owner is at rest. -/
theorem rest_of_new (h : Grows e e') {client : ReceiveClient} {port : Port} {listens : Bool}
    (hnew : e.port? client = none) (hp : e'.port? client = some port)
    (hl : e'.listens? client = some listens) : listens = false := by
  cases client with
  | raw tag => cases hp
  | hub id =>
    rcases h.hub id with hsame | ⟨-, hub, hh, -, hrun⟩
    · rw [Engine.port?, hsame] at hp
      exact absurd (hnew.symm.trans hp) (by simp)
    · simpa [Engine.listens?, hh, hrun] using hl.symm
  | pinger id =>
    rcases h.pinger id with hsame | ⟨-, pinger, hpinger, -, hrun, hg⟩
    · rw [Engine.port?, hsame] at hp
      exact absurd (hnew.symm.trans hp) (by simp)
    · simpa [Engine.listens?, hpinger, hrun, hg] using hl.symm

/-- Mailboxes are only added. -/
theorem boxCount (h : Grows e e') : e.mailboxes.size ≤ e'.mailboxes.size := by
  by_contra hlt
  exact Nat.lt_irrefl _ (h.hasPort (.box e'.mailboxes.size) (Nat.lt_of_not_le hlt))

/-- A new hub has nothing registered. -/
theorem lists (h : Grows e e') {id : HubId} {address : Address} {box : MailboxId}
    (hl : e'.Lists id address box) : e.Lists id address box := by
  obtain ⟨hub, hh, hmem⟩ := hl
  rcases h.hub id with hsame | ⟨-, hub', hh', hempty, -⟩
  · exact ⟨hub, by rwa [← hsame], hmem⟩
  · obtain rfl := Option.some.inj (hh'.symm.trans hh)
    rw [hempty] at hmem
    cases hmem

/-- New parts have ports of their own, at which nothing happens. -/
theorem wired (h : Grows e e') (hw : Wired e) : Wired e' where
  valid client port hp := by
    rcases h.port?_cases hp with hold | hnew
    · exact h.hasPort port (hw.valid client port hold)
    · exact (h.owner client port hnew hp).1
  -- an old owner and a new one cannot meet, because the new port was nobody's
  unique client other port hp hp' := by
    rcases h.port?_cases hp with hold | hnew <;> rcases h.port?_cases hp' with hold' | hnew'
    · exact hw.unique client other port hold hold'
    · exact absurd (Engine.fits_of_port? hold) ((h.owner other port hnew' hp').2 client)
    · exact absurd (Engine.fits_of_port? hold') ((h.owner client port hnew hp).2 other)
    · exact h.single client other port hnew hnew' hp hp'
  waits port client hp := h.fits (hw.waits port client (by rwa [← h.waiter?]))
  tasks task ht := h.proper (hw.tasks task (by rwa [← h.ready]))
  later time task ht := hw.later time task (by rwa [← h.timeline])

/-- New parts listen for nothing. -/
theorem counted (h : Grows e e') (hw : Wired e) (hc : Counted none e) : Counted none e' where
  exact client listens hl := by
    obtain ⟨port, hp⟩ := Engine.exists_port? hl
    rcases h.port?_cases hp with hold | hnew
    · rw [h.outstanding hold]
      refine hc.exact client listens ?_
      cases client with
      | raw tag => cases hp
      | hub id =>
        obtain ⟨hub, hh, -⟩ := Option.map_eq_some_iff.1 hold
        simpa only [Engine.listens?, h.hub_of_some hh, hh] using hl
      | pinger id =>
        obtain ⟨pinger, hpinger, -⟩ := Option.map_eq_some_iff.1 hold
        simpa only [Engine.listens?, h.pinger_of_some hpinger, hpinger] using hl
    · have hrest := h.rest_of_new hnew hp hl
      simp [h.outstanding_new hw hnew hp, hrest]
  single client port hp := by
    rcases h.port?_cases hp with hold | hnew
    · rw [h.outstanding hold]
      exact hc.single client port hold
    · simp [h.outstanding_new hw hnew hp]

/-- New parts have nothing to listen for. -/
theorem settled (h : Grows e e') (hw : Wired e) {client : ReceiveClient} (hs : e.Settled client) :
    e'.Settled client := by
  cases client with
  | raw tag => trivial
  | hub id =>
    intro hub hh
    rcases h.hub id with hsame | ⟨-, hub', hh', hempty, hrun⟩
    · rw [hsame] at hh
      have hsocket : hub.socket < e.sockets.size :=
        hw.valid (.hub id) (.socket hub.socket)
          (by simp only [Engine.port?, hh, Option.map_some])
      rw [h.fatalOf hsocket]
      exact hs hub hh
    · obtain rfl := Option.some.inj (hh'.symm.trans hh)
      simp [hempty, hrun]
  | pinger id =>
    intro pinger hp hg hcalls
    rcases h.pinger id with hsame | ⟨-, pinger', hp', hempty, -⟩
    · rw [hsame] at hp
      exact hs pinger hp hg hcalls
    · obtain rfl := Option.some.inj (hp'.symm.trans hp)
      exact absurd hempty hcalls

/-- **New parts keep the invariant.** -/
theorem sound (h : Grows e e') (hs : Sound {} e) : Sound {} e' where
  wired := h.wired hs.wired
  counted := h.counted hs.wired hs.counted
  settled client hclient := h.settled hs.wired (hs.settled client hclient)
  ledger := hs.ledger.same h.calls
  armed := hs.armed.same h.calls
  gone id pinger hp hg := by
    rcases h.pinger id with hsame | ⟨-, pinger', hp', hempty, -⟩
    · rw [hsame] at hp
      exact hs.gone id pinger hp hg
    · obtain rfl := Option.some.inj (hp'.symm.trans hp)
      exact hempty
  targets id hid := by
    rw [h.targets] at hid
    obtain ⟨⟨pinger, hp, hg⟩, hrel⟩ := hs.targets id hid
    exact ⟨⟨pinger, h.pinger_of_some hp, hg⟩, by rwa [h.released]⟩
  listed := hs.listed.fewer (fun _ _ _ => h.lists) h.boxCount

end Grows

/-! ## 2. One new part -/

namespace Grows

variable {record : RawSocket}

/-- A socket of nobody. -/
theorem pushSocket (hr : record.Idle) :
    Grows e { e with sockets := e.sockets.push record } where
  socket id := (Array.getElem?_push_cases e.sockets record id).imp_right
    fun ⟨hnone, hnew⟩ => ⟨hnone, record, hnew, hr⟩
  box _ := .inl rfl
  hub _ := .inl rfl
  pinger _ := .inl rfl
  owner client port hnone hp := by
    have hsame : Engine.port? { e with sockets := e.sockets.push record } client = e.port? client := by
      cases client <;> rfl
    rw [hsame, hnone] at hp
    cases hp
  single client other port hnone _ hp _ := by
    have hsame : Engine.port? { e with sockets := e.sockets.push record } client = e.port? client := by
      cases client <;> rfl
    rw [hsame, hnone] at hp
    cases hp
  nextPing := rfl
  pings := rfl
  endings := rfl
  arrivals := rfl
  ready := rfl
  timeline := rfl
  journal := rfl
  released := rfl
  targets := rfl

/-- A mailbox of nobody. -/
theorem pushBox : Grows e (e.addMailbox 100).1 where
  socket _ := .inl rfl
  box id := Array.getElem?_push_cases e.mailboxes _ id
  hub _ := .inl rfl
  pinger _ := .inl rfl
  owner client port hnone hp := by
    have hsame : (e.addMailbox 100).1.port? client = e.port? client := by
      cases client <;> rfl
    rw [hsame, hnone] at hp
    cases hp
  single client other port hnone _ hp _ := by
    have hsame : (e.addMailbox 100).1.port? client = e.port? client := by
      cases client <;> rfl
    rw [hsame, hnone] at hp
    cases hp
  nextPing := rfl
  pings := rfl
  endings := rfl
  arrivals := rfl
  ready := rfl
  timeline := rfl
  journal := rfl
  released := rfl
  targets := rfl

/-- No port is there that a socket still to come would have. -/
theorem not_fits_size (hw : Wired e) (other : ReceiveClient) :
    ¬ e.Fits other (.socket e.sockets.size) := fun hf =>
  Nat.lt_irrefl _ (hw.hasPort_of_fits hf)

/-- **A new hub, with its socket.** -/
theorem pushHub (hw : Wired e) (hr : record.Idle) :
    Grows e { e with
      sockets := e.sockets.push record
      hubs := e.hubs.push { socket := e.sockets.size } } := by
  let next : Engine := { e with
    sockets := e.sockets.push record
    hubs := e.hubs.push { socket := e.sockets.size } }
  -- the only new owner is the new hub
  have hnew : ∀ client port, e.port? client = none → next.port? client = some port →
      client = .hub e.hubs.size ∧ port = .socket e.sockets.size := by
    intro client port hnone hp
    cases client with
    | raw tag => cases hp
    | pinger id => exact absurd (hnone.symm.trans hp) (by simp)
    | hub id =>
      simp only [Engine.port?, next, Array.getElem?_push] at hnone hp
      split at hp
      · next hid => exact ⟨congrArg _ hid, (Option.some.inj hp).symm⟩
      · exact absurd (hnone.symm.trans hp) (by simp)
  exact {
    socket := fun id => by
      rcases Array.getElem?_push_cases e.sockets record id with hold | ⟨hnone, hpush⟩
      · exact .inl hold
      · exact .inr ⟨hnone, record, hpush, hr⟩
    box := fun _ => .inl rfl
    hub := fun id => by
      rcases Array.getElem?_push_cases e.hubs _ id with hold | ⟨hnone, hpush⟩
      · exact .inl hold
      · exact .inr ⟨hnone, _, hpush, rfl, rfl⟩
    pinger := fun _ => .inl rfl
    owner := fun client port hnone hp => by
      obtain ⟨-, rfl⟩ := hnew client port hnone hp
      refine ⟨?_, not_fits_size hw⟩
      simp [Engine.hasPort]
    single := fun client other port hnone hnone' hp hp' =>
      (hnew client port hnone hp).1.trans (hnew other port hnone' hp').1.symm
    nextPing := rfl
    pings := rfl
    endings := rfl
    arrivals := rfl
    ready := rfl
    timeline := rfl
    journal := rfl
    released := rfl
    targets := rfl }

/-- **A new pinger**, whose port is a new socket of its own or a mailbox of nobody. -/
theorem pushPinger {sockets : Array RawSocket} {pinger : Pinger} {identifier : UInt16}
    (hsockets : ∀ id : SocketId, sockets[id]? = e.sockets[id]? ∨
      (e.sockets[id]? = none ∧ ∃ record, sockets[id]? = some record ∧ record.Idle))
    (hrest : pinger.calls = [] ∧ pinger.receiving = false ∧ pinger.gone = false)
    (hport : Engine.hasPort { e with sockets } pinger.port)
    (hfree : ∀ other, ¬ e.Fits other pinger.port) :
    Grows e { e with
      sockets
      pingers := e.pingers.push pinger
      nextIdentifier := identifier } := by
  let next : Engine := { e with
    sockets
    pingers := e.pingers.push pinger
    nextIdentifier := identifier }
  -- the only new owner is the new pinger
  have hnew : ∀ client port, e.port? client = none → next.port? client = some port →
      client = .pinger e.pingers.size ∧ port = pinger.port := by
    intro client port hnone hp
    cases client with
    | raw tag => cases hp
    | hub id => exact absurd (hnone.symm.trans hp) (by simp)
    | pinger id =>
      simp only [Engine.port?, next, Array.getElem?_push] at hnone hp
      split at hp
      · next hid => exact ⟨congrArg _ hid, (Option.some.inj hp).symm⟩
      · exact absurd (hnone.symm.trans hp) (by simp)
  exact {
    socket := hsockets
    box := fun _ => .inl rfl
    hub := fun _ => .inl rfl
    pinger := fun id => by
      rcases Array.getElem?_push_cases e.pingers _ id with hold | ⟨hnone, hpush⟩
      · exact .inl hold
      · exact .inr ⟨hnone, _, hpush, hrest⟩
    owner := fun client port hnone hp => by
      obtain ⟨-, rfl⟩ := hnew client port hnone hp
      refine ⟨?_, hfree⟩
      cases hcase : pinger.port <;> rw [hcase] at hport <;> exact hport
    single := fun client other port hnone hnone' hp hp' =>
      (hnew client port hnone hp).1.trans (hnew other port hnone' hp').1.symm
    nextPing := rfl
    pings := rfl
    endings := rfl
    arrivals := rfl
    ready := rfl
    timeline := rfl
    journal := rfl
    released := rfl
    targets := rfl }

end Grows

/-! ## 3. Later engines -/

/-- **What holds between an engine and any later one.** -/
structure Onward (e e' : Engine) : Prop where
  sockets : e.sockets.size ≤ e'.sockets.size
  fits : ∀ client port, e.Fits client port → e'.Fits client port
  fatal : ∀ socket, socket < e.sockets.size → (e.fatalOf socket).isError →
    e'.fatalOf socket = e.fatalOf socket
  hubs : ∀ (id : HubId) (hub : Hub), e.hubs[id]? = some hub →
    ∃ hub', e'.hubs[id]? = some hub' ∧ hub'.socket = hub.socket ∧
      ((e.fatalOf hub.socket).isError → hub'.running → hub.running)
  pingers : ∀ (id : PingerId) (pinger : Pinger), e.pingers[id]? = some pinger →
    ∃ pinger', e'.pingers[id]? = some pinger' ∧ pinger'.destination = pinger.destination ∧
      pinger'.socket = pinger.socket ∧ pinger'.mailbox = pinger.mailbox ∧
      (pinger.gone → pinger'.gone)
  ping? : ∀ number ping, e.ping? number = some ping → e'.ping? number = some ping
  endings : e.endings <:+ e'.endings

namespace Onward

/-- Pingers are never taken away. -/
theorem pingerCount (h : Onward e e') : e.pingers.size ≤ e'.pingers.size := by
  by_contra hlt
  obtain ⟨pinger', hp', -⟩ := h.pingers e'.pingers.size _
    (Array.getElem?_eq_getElem (Nat.lt_of_not_le hlt))
  rw [Array.getElem?_eq_none (Nat.le_refl _)] at hp'
  cases hp'

/-- Hubs are never taken away. -/
theorem hubCount (h : Onward e e') : e.hubs.size ≤ e'.hubs.size := by
  by_contra hlt
  obtain ⟨hub', hh', -⟩ := h.hubs e'.hubs.size _
    (Array.getElem?_eq_getElem (Nat.lt_of_not_le hlt))
  rw [Array.getElem?_eq_none (Nat.le_refl _)] at hh'
  cases hh'

/-- Who has a port keeps it. -/
theorem port? (h : Onward e e') {client : ReceiveClient} {port : Port}
    (hp : e.port? client = some port) : e'.port? client = some port := by
  cases client with
  | raw tag => cases hp
  | hub id => exact h.fits (.hub id) port hp
  | pinger id => exact h.fits (.pinger id) port hp

/-- Steady acts lead onward. -/
theorem of_steady (h : Steady e e') : Onward e e' where
  sockets := Nat.le_of_eq h.ports.socketCount.symm
  fits client port := (h.ports.fits client port).2
  fatal socket _ := h.fatal socket
  hubs id hub hh := by
    obtain ⟨hub', hh', hfollows⟩ := h.hubs id hub hh
    exact ⟨hub', hh', hfollows.socket, hfollows.running⟩
  pingers id pinger hp := by
    obtain ⟨pinger', hp', hfollows⟩ := h.pingers id pinger hp
    exact ⟨pinger', hp', hfollows.destination, hfollows.socket, hfollows.mailbox,
      fun hg => by rwa [hfollows.gone]⟩
  ping? := h.ping?
  endings := h.endings

theorem refl (e : Engine) : Onward e e := of_steady (.refl e)

/-- So does adding parts. -/
theorem of_grows (h : Grows e e') : Onward e e' where
  sockets := by
    by_contra hlt
    exact Nat.lt_irrefl _ (h.hasPort (.socket e'.sockets.size) (Nat.lt_of_not_le hlt))
  fits _ _ := h.fits
  fatal _ hs _ := h.fatalOf hs
  hubs _ hub hh := ⟨hub, h.hub_of_some hh, rfl, fun _ hrun => hrun⟩
  pingers _ pinger hp := ⟨pinger, h.pinger_of_some hp, rfl, rfl, rfl, fun hg => hg⟩
  ping? _ _ hping := by rwa [Engine.ping?, h.pings]
  endings := h.endings ▸ List.suffix_refl _

/-- Onward goes on, from an engine that is wired: only there has every hub a socket. -/
theorem trans (h : Onward e e') (h' : Onward e' e'') (hw : Wired e) : Onward e e'' where
  sockets := Nat.le_trans h.sockets h'.sockets
  fits client port hf := h'.fits client port (h.fits client port hf)
  fatal socket hs hf := by
    have hsame := h.fatal socket hs hf
    rw [h'.fatal socket (Nat.lt_of_lt_of_le hs h.sockets) (by rwa [hsame]), hsame]
  hubs id hub hh := by
    obtain ⟨hub', hh', hsocket, hrun⟩ := h.hubs id hub hh
    obtain ⟨hub'', hh'', hsocket', hrun'⟩ := h'.hubs id hub' hh'
    refine ⟨hub'', hh'', hsocket'.trans hsocket, fun hf hr => hrun hf (hrun' ?_ hr)⟩
    have hlt : hub.socket < e.sockets.size :=
      hw.valid (.hub id) (.socket hub.socket) (by simp only [Engine.port?, hh, Option.map_some])
    rwa [hsocket, h.fatal hub.socket hlt hf]
  pingers id pinger hp := by
    obtain ⟨pinger', hp', hd, hs, hm, hg⟩ := h.pingers id pinger hp
    obtain ⟨pinger'', hp'', hd', hs', hm', hg'⟩ := h'.pingers id pinger' hp'
    exact ⟨pinger'', hp'', hd'.trans hd, hs'.trans hs, hm'.trans hm, fun h => hg' (hg h)⟩
  ping? number ping hping := h'.ping? number ping (h.ping? number ping hping)
  endings := h.endings.trans h'.endings

end Onward

end IcmpEcho
