/-
# Working off what is ready

A task that is ready stays ready until it is performed, whatever is performed before it
(`Session.Does.lasts`).  So when tasks alone are performed until none is ready, each of them has had
its turn (`Session.Run.performs`); and there is an end to it, since they cannot go on for ever
(`Session.Run.length_le_burden`).

**A hub that dies leaves nobody waiting.**  Its socket has failed, or the receive that fails it is
about to be handled.  Then all of its registrations end, every mailbox that was registered is closed,
every pinger that waits there is told, and tells its callers: once nothing is ready any more, no
pinger on the socket has calls, and every ping of it was told once (`Session.Run.drains`).  The tasks
that are worked off may ask for new pings; these end as well.
-/
import IcmpEcho.Proofs.Burden
import IcmpEcho.Proofs.Endings
import IcmpEcho.Proofs.Enrolling
import IcmpEcho.Proofs.HubLoop
import IcmpEcho.Proofs.Listening

namespace IcmpEcho

variable {e e' e'' : Engine} {hand hand' : Hand} {id : PingerId} {pinger : Pinger}

/-! ## 1. What is ready -/

/-- What ends a call or a receive and is ready in `e` is ready in `e'`. -/
def Lasts (e e' : Engine) : Prop := ∀ task ∈ e.ready, task.isCore → task ∈ e'.ready

namespace Lasts

theorem of_append (tasks : List Task) (h : e'.ready = e.ready ++ tasks) : Lasts e e' :=
  fun _ ht _ => h ▸ List.mem_append_left _ ht

theorem of_same (h : e'.ready = e.ready) : Lasts e e' := fun _ ht _ => h ▸ ht

theorem refl (e : Engine) : Lasts e e := of_same rfl

theorem trans (h : Lasts e e') (h' : Lasts e' e'') : Lasts e e'' :=
  fun task ht hcore => h' task (h task ht hcore) hcore

theorem foldl {α : Type} {f : Engine → α → Engine} (hf : ∀ e a, Lasts e (f e a)) (l : List α)
    (e : Engine) : Lasts e (l.foldl f e) :=
  List.foldlRecOn l f (refl e) fun next h a _ => h.trans (hf next a)

theorem of_aside (h : Aside e e') : Lasts e e' :=
  fun _ ht hcore => mem_of_filter_eq h.ready.symm ht hcore

theorem of_inward (h : Inward e e') : Lasts e e' := by
  obtain ⟨tasks, hready, -⟩ := h.ready
  exact of_append tasks hready

theorem post (task : Task) : Lasts e (e.post task) := of_append [task] rfl

theorem cancelAlarm (alarm : Alarm) : Lasts e (e.cancelAlarm alarm) := by
  unfold Engine.cancelAlarm
  split
  · exact of_append [.rang alarm .aborted] rfl
  · exact refl e

theorem endReceive (socket : SocketId) (code : ErrorCode) : Lasts e (e.endReceive socket code) :=
  of_inward (.endReceive _ _)

theorem closeSocket (socket : SocketId) : Lasts e (e.closeSocket socket) := by
  unfold Engine.closeSocket
  split
  · exact refl e
  · next record _ =>
    have hfailed : Lasts e (if record.fatal.isError then e
        else e.updateSocket socket fun record => { record with fatal := .aborted }) := by
      split <;> exact of_same rfl
    exact ((hfailed.trans (of_aside (.cancelLimiter _))).trans (endReceive _ _)).trans (of_same rfl)

theorem removePinger (id : PingerId) : Lasts e (e.removePinger id) := by
  have hgone : Lasts e (e.updatePinger id fun pinger => { pinger with gone := true }) := of_same rfl
  unfold Engine.removePinger
  split
  · exact refl e
  · dsimp only
    split
    · exact hgone.trans (of_inward (.closeMail _ _))
    · exact hgone.trans (closeSocket _)

theorem sweep : Lasts e e.sweep := by
  have hreleased : Lasts e { e with released := (e.released.partition e.holds).1 } := of_same rfl
  exact hreleased.trans (foldl (fun _ _ => removePinger _) _ _)

/-- **An act takes nothing off the ready queue.** -/
theorem act (h : Act hand e hand' e') : Lasts e e' := by
  cases h with
  | aside h => exact of_aside h
  | receive hb fits hroom =>
    unfold Engine.receive
    split
    · exact refl e
    · split
      · exact post _
      · split
        · exact (of_same rfl).trans (post _)
        · exact of_same rfl
  | askMail hb fits =>
    unfold Engine.askMail
    split
    · exact refl e
    · split
      split
      · exact (of_same rfl).trans (post _)
      · exact (of_same rfl).trans (post _)
      · exact of_same rfl
  | endReceive socket => exact endReceive _ _
  | closeMail hr hbox => exact of_inward (.closeMail _ _)
  | sent id token timer =>
    unfold Engine.refreshSent
    split <;> exact of_same rfl
  | refuse hp hf => exact (of_same rfl).trans (post _)
  | disarm id token ht => exact cancelAlarm _
  | @tell number ended ping code result hh hping hseq =>
    cases hcaller : ping.caller with
    | scripted tag again => exact of_same rfl
    | target index =>
      let told : Engine := { e with
        endings := { ping := number, time := e.now, code, result } :: e.endings }
      have htold : Lasts e told := of_same rfl
      exact htold.trans (of_aside (.targetAnswered index code result))
  | _ => exact of_same rfl

theorem acts (h : Acts hand e hand' e') : Lasts e e' := by
  induction h with
  | nil => exact refl _
  | cons head rest ih => exact (act head).trans ih

theorem passes (h : Passes e e') : Lasts e e' := by
  cases h with
  | stays same waiter ready => exact of_same ready
  | posts port client task same listener proper was waiter ready => exact of_append [task] ready

end Lasts

namespace Session

variable {s s' s'' : Session} {past : List (Session × Deed)}

/-- **Whatever task is performed, every other one stays ready.** -/
theorem Does.lasts {task other : Task} (h : Does s (.task other) s') (hs : s.Sound)
    (hmem : task ∈ s.engine.ready) (hcore : task.isCore) :
    task = other ∨ task ∈ s'.engine.ready := by
  cases h with
  | @task front back _ hready =>
    by_cases heq : task = other
    · exact .inl heq
    · let rest : Engine := { s.engine with ready := front ++ back }
      have hrest : task ∈ rest.ready := by
        rw [hready] at hmem
        rcases List.mem_append.1 hmem with hfront | hback
        · exact List.mem_append_left _ hfront
        · exact List.mem_append_right _ ((List.mem_cons.1 hback).resolve_left heq)
      obtain ⟨hsound, htaken⟩ := hs.engine.consume hready
      have hperformed : Lasts rest (rest.perform other) :=
        (Lasts.passes (Engine.passes_offered hsound.wired other)).trans
          (.acts (Acts.perform hsound htaken))
      exact .inr ((hperformed.trans .sweep) task hrest hcore)

/-- Only tasks are performed. -/
def Runs (past : List (Session × Deed)) : Prop := ∀ entry ∈ past, ∃ task, entry.2 = .task task

/-- **What was ready has its turn before nothing is ready.** -/
theorem Run.performs (h : Run s past s') (hruns : Runs past) (hs : s.Sound)
    (hdrained : s'.engine.ready = []) {task : Task} (hmem : task ∈ s.engine.ready)
    (hcore : task.isCore) : ∃ before mid next after, Run s before mid ∧
      Does mid (.task task) next ∧ Run next after s' := by
  induction h with
  | nil s =>
    rw [hdrained] at hmem
    cases hmem
  | @cons s next s' deed past head rest ih =>
    obtain ⟨other, rfl⟩ := hruns _ List.mem_cons_self
    have hnext := (head.leads hs).sound
    rcases head.lasts hs hmem hcore with rfl | hstill
    · exact ⟨[], s, next, past, .nil s, head, rest⟩
    · obtain ⟨before, mid, after, past', hbefore, hdoes, hafter⟩ :=
        ih (fun entry hentry => hruns entry (List.mem_cons_of_mem _ hentry)) hnext hdrained hstill
      exact ⟨_, mid, after, past', .cons head hbefore, hdoes, hafter⟩

/-- **What is ready comes to an end**, in whatever order it is taken. -/
structure Finishes (s : Session) : Prop where
  bounded : ∀ past s', Run s past s' → Runs past → past.length ≤ s.engine.burden
  drained : ∃ past s', Run s past s' ∧ Runs past ∧ s'.engine.ready = []

theorem Reachable.finishes (hr : Reachable s) : s.Finishes where
  bounded past s' h hruns := by
    have hlength := h.length_le_burden hruns hr.sound hr.stocked
    omega
  drained := exists_drained s hr.sound hr.stocked

/-! ## 2. Pingers without a registration -/

/-- **With nothing ready, a pinger whose mailbox is closed has no calls**: it would wait there. -/
theorem Sound.calls_of_shut (hs : s.Sound) (hreasoned : Reasoned s.engine)
    (hready : s.engine.ready = []) (hp : s.engine.pingers[id]? = some pinger) {box : MailboxId}
    (hbox : pinger.mailbox = some box) (hshut : s.engine.Shut box) : pinger.calls = [] := by
  by_contra hcalls
  cases hg : pinger.gone with
  | true => exact hcalls (hs.engine.gone id pinger hp hg)
  | false =>
    have hreceiving := hs.engine.settled (.pinger id) (by simp) pinger hp hg hcalls
    have hexact := hs.engine.counted.exact (.pinger id) _ (Engine.listens?_pinger hp hg)
    have hposted : s.engine.posted (.pinger id) = 0 := by simp [Engine.posted, hready]
    have hwaits : s.engine.waiting (.pinger id) = 1 := by
      simpa [Engine.outstanding, hposted, hreceiving] using hexact
    have hport : s.engine.port? (.pinger id) = some (.box box) := by
      rw [Engine.port?_pinger hp, Pinger.port, hbox]
    obtain ⟨value, hvalue, hclosed⟩ := hshut
    have hdeaf := hreasoned.deaf box value hvalue hclosed
    simp [Engine.waiting, hport, Engine.waiter?_box hvalue, hdeaf] at hwaits

/-- **On a failed socket of a hub every living pinger has a closed mailbox**, since nothing is
registered with the hub. -/
theorem Sound.shut_of_failed (hs : s.Sound) (henrolls : s.engine.Enrolls) {hubId : HubId} {hub : Hub}
    (hh : s.engine.hubs[hubId]? = some hub) (hfailed : (s.engine.fatalOf hub.socket).isError)
    (hp : s.engine.pingers[id]? = some pinger) (hg : pinger.gone = false)
    (hsocket : pinger.socket = hub.socket) :
    ∃ box, pinger.mailbox = some box ∧ s.engine.Shut box := by
  have hhub : ∀ {other : HubId} {hub' : Hub}, s.engine.hubs[other]? = some hub' →
      s.engine.port? (.hub other) = some (.socket hub'.socket) := fun hh' => by
    simp only [Engine.port?, hh', Option.map_some]
  cases hbox : pinger.mailbox with
  | none =>
    have hport : s.engine.port? (.pinger id) = some (.socket hub.socket) := by
      rw [Engine.port?_pinger hp, Pinger.port, hbox, hsocket]
    cases hs.engine.wired.unique _ _ _ hport (hhub hh)
  | some box =>
    refine ⟨box, rfl, ?_⟩
    rcases henrolls id pinger box hp hg hbox with hshut | ⟨other, hub', address, hh', hsame, hlisted⟩
    · exact hshut
    · have hport := hhub hh'
      rw [hsame, hsocket] at hport
      obtain rfl := ReceiveClient.hub.inj (hs.engine.wired.unique _ _ _ hport (hhub hh))
      obtain rfl := Option.some.inj (hh.symm.trans hh')
      rw [Engine.registered?, hh, Option.bind_some, Hub.mailbox?, hs.registry_eq_nil hh hfailed]
        at hlisted
      cases hlisted

/-- A pinger without calls has told of all its pings, when nothing is ready. -/
theorem Sound.told_of_no_calls (hs : s.Sound) (hready : s.engine.ready = [])
    (hp : s.engine.pingers[id]? = some pinger) (hcalls : pinger.calls = []) {number : PingId}
    {ping : Ping} (hping : s.engine.ping? number = some ping) (howner : ping.pinger = id) :
    s.engine.told number = 1 := by
  have honce := (hs.engine.accounts hping).once
  have hentered : s.engine.entered ping.pinger number = 0 := by
    simp [Engine.entered, howner, Engine.callsOf_eq hp, hcalls]
  have hrefused : s.engine.refused number = 0 := by simp [Engine.refused, hready]
  omega

/-! ## 3. A hub that dies -/

/-- The socket of a hub has failed, or a receive of the hub that fails it is to be handled. -/
def Dying (s : Session) (hubId : HubId) (hub : Hub) : Prop :=
  (s.engine.fatalOf hub.socket).isError ∨ ∃ code source data, code.isError ∧ code ≠ .aborted ∧
    .received hub.socket (.hub hubId) code source data ∈ s.engine.ready

variable {hubId : HubId} {hub : Hub}

/-- What a socket has failed for is the same ever after. -/
theorem Run.fatalOf (h : Run s past s') (hs : s.Sound) (hh : s.engine.hubs[hubId]? = some hub)
    (hfailed : (s.engine.fatalOf hub.socket).isError) :
    s'.engine.fatalOf hub.socket = s.engine.fatalOf hub.socket := by
  obtain ⟨hub', -, -, hfatal, -⟩ := (h.leads hs).failed_hub hs hh hfailed
  exact hfatal

theorem Sound.socket_of_hub (hs : s.Sound) (hh : s.engine.hubs[hubId]? = some hub) :
    ∃ record, s.engine.sockets[hub.socket]? = some record ∧
      s.engine.fatalOf hub.socket = record.fatal := by
  have hport : s.engine.port? (.hub hubId) = some (.socket hub.socket) := by
    simp only [Engine.port?, hh, Option.map_some]
  have hlt : hub.socket < s.engine.sockets.size := hs.engine.wired.valid _ _ hport
  have hrecord := Array.getElem?_eq_getElem hlt
  exact ⟨_, hrecord, by simp only [Engine.fatalOf, hrecord]⟩

/-- **A receive that fails a hub fails its socket**, unless that had failed before. -/
theorem Does.fatalOf_failed {code : ErrorCode} {source : Address} {data : Bytes}
    (h : Does s (.task (.received hub.socket (.hub hubId) code source data)) s') (hs : s.Sound)
    (hm : s.Stocked) (hh : s.engine.hubs[hubId]? = some hub) (herror : code.isError)
    (haborted : code ≠ .aborted) :
    s'.engine.fatalOf hub.socket
      = if (s.engine.fatalOf hub.socket).isError then s.engine.fatalOf hub.socket else code := by
  obtain ⟨record, hrecord, hfatal⟩ := hs.socket_of_hub hh
  obtain ⟨⟨record', hrecord', hfatal'⟩, -⟩ :=
    (h.ages hs hm).fails hub.socket code record ⟨_, _, _, rfl, herror, haborted⟩ hrecord
  rw [hfatal, ← hfatal']
  simp only [Engine.fatalOf, hrecord']

/-- **Closing a hub fails its socket**, unless that had failed before. -/
theorem Sound.fatalOf_closeHub (hs : s.Sound) (hm : s.Stocked)
    (hh : s.engine.hubs[hubId]? = some hub) :
    (s.engine.closeHub hubId).fatalOf hub.socket
      = if (s.engine.fatalOf hub.socket).isError then s.engine.fatalOf hub.socket else .aborted := by
  obtain ⟨record, hrecord, hfatal⟩ := hs.socket_of_hub hh
  have hclosed : Beside s.engine (s.engine.closeRegistrations hubId hub .aborted) :=
    .of_inward (.closeRegistrations _ _ _)
  obtain ⟨record', hrecord', hstands⟩ := hclosed.socket hrecord
  obtain ⟨⟨record'', hrecord'', -, hfatal''⟩, -⟩ :=
    Engine.fatal_closeSocket (hclosed.metered hm.metered) hrecord'
  simp only [Engine.closeHub, hh]
  rw [hfatal, ← hstands.fatal, ← hfatal'']
  simp only [Engine.fatalOf, hrecord'']

/-- **A hub that dies is dead when nothing is ready any more.** -/
theorem Run.failed_of_dying (h : Run s past s') (hruns : Runs past) (hs : s.Sound) (hm : s.Stocked)
    (hh : s.engine.hubs[hubId]? = some hub) (hdying : s.Dying hubId hub)
    (hdrained : s'.engine.ready = []) : (s'.engine.fatalOf hub.socket).isError := by
  rcases hdying with hfailed | ⟨code, source, data, herror, haborted, hmem⟩
  · rwa [h.fatalOf hs hh hfailed]
  · obtain ⟨before, mid, next, after, hbefore, hdoes, hafter⟩ :=
      h.performs hruns hs hdrained hmem rfl
    have hmid := (hbefore.leads hs).sound
    obtain ⟨hub', hh', hsocket, -⟩ := (hbefore.leads hs).onward.hubs hubId hub hh
    rw [← hsocket] at hdoes
    have hfatal := hdoes.fatalOf_failed hmid (hbefore.stocked hs hm) hh' herror haborted
    have hfailed : (next.engine.fatalOf hub'.socket).isError := by
      rw [hfatal]
      split
      · assumption
      · exact herror
    obtain ⟨hub'', hh'', hsocket', -⟩ := (hdoes.leads hmid).onward.hubs hubId hub' hh'
    rw [← hsocket'] at hfailed
    have hkept := hafter.fatalOf (hdoes.leads hmid).sound hh'' hfailed
    rw [← hsocket, ← hsocket', hkept]
    exact hfailed

/-- **When a hub dies nobody is left waiting.**  When nothing is ready any more, no pinger on the
socket of the hub has calls, and all its pings were told once. -/
theorem Run.drains (h : Run s past s') (hruns : Runs past) (hr : Reachable s)
    (hh : s.engine.hubs[hubId]? = some hub) (hdying : s.Dying hubId hub)
    (hdrained : s'.engine.ready = []) (hp : s'.engine.pingers[id]? = some pinger)
    (hsocket : pinger.socket = hub.socket) :
    pinger.calls = [] ∧ ∀ number ping, s'.engine.ping? number = some ping → ping.pinger = id →
      s'.engine.told number = 1 := by
  have hs := hr.sound
  have hs' := (h.leads hs).sound
  obtain ⟨hreasoned, henrolls⟩ := (hr.run h).enrolls
  have hfailed := h.failed_of_dying hruns hs hr.stocked hh hdying hdrained
  obtain ⟨hub', hh', hsame, -⟩ := (h.leads hs).onward.hubs hubId hub hh
  have hcalls : pinger.calls = [] := by
    cases hg : pinger.gone with
    | true => exact hs'.engine.gone id pinger hp hg
    | false =>
      obtain ⟨box, hbox, hshut⟩ :=
        hs'.shut_of_failed henrolls hh' (hsame ▸ hfailed) hp hg (hsocket.trans hsame.symm)
      exact hs'.calls_of_shut hreasoned hdrained hp hbox hshut
  exact ⟨hcalls, fun number ping hping howner =>
    hs'.told_of_no_calls hdrained hp hcalls hping howner⟩

end Session

end IcmpEcho
