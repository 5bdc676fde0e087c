/-
# When a shared socket dies

A hub dies when it is closed or dropped, or when a receive on its socket fails; the first of these is
the reason ever after.  Then nobody is left waiting (`Session.Run.drains`).

**A pinger that is made afterwards tells every caller the same reason.**  It gets a mailbox that is
closed for this reason from the beginning, so its receive fails with it; its requests end at once with
it; nothing ever comes into its mailbox; and its timers are set, but tasks that are ready go first, and
when none is ready there is no call left for a timer to end (`Engine.Doomed`).  Nothing is sent.
-/
import IcmpEcho.Proofs.Draining
import IcmpEcho.Proofs.Muting
import IcmpEcho.Proofs.Numbers
import IcmpEcho.Proofs.Registrations

namespace IcmpEcho

variable {e e' : Engine} {id : PingerId} {box : MailboxId} {k : SocketId} {code : ErrorCode}

/-! ## 1. Pingers that cannot be answered -/

/-- **A pinger on a failed socket, with a mailbox that is closed for the same reason.**  The mailbox
is empty, no send of the pinger ends for another reason, and no timer of its calls has rung. -/
structure Engine.Doomed (e : Engine) (id : PingerId) (box : MailboxId) (k : SocketId)
    (code : ErrorCode) : Prop where
  pinger : ∃ pinger, e.pingers[id]? = some pinger ∧ pinger.mailbox = some box ∧ pinger.socket = k
  reason : ∃ value, e.mailboxes[box]? = some value ∧ value.reason = code
  fatal : ∃ record, e.sockets[k]? = some record ∧ record.fatal = code
  inbox : e.inbox box = []
  late : e.late id code = 0
  unrung : ∀ token timer other, .rang (.call id token timer) other ∈ e.ready → other ≠ .aborted →
    ∀ call ∈ e.callsOf id, call.timer ≠ timer

namespace Engine.Doomed

theorem shut (h : e.Doomed id box k code) (hcode : code.isError) : e.Shut box := by
  obtain ⟨value, hvalue, hreason⟩ := h.reason
  exact ⟨value, hvalue, by rwa [Mailbox.isClosed, hreason]⟩

/-- The pinger receives at its mailbox only. -/
theorem port_eq (h : e.Doomed id box k code) {port : Port} (hf : e.Fits (.pinger id) port) :
    port = .box box := by
  obtain ⟨pinger, hp, hbox, -⟩ := h.pinger
  refine hf.eq_port ?_
  rw [Engine.port?_pinger hp, Pinger.port, hbox]

/-- A send of the pinger that is to end, ends for this reason. -/
theorem code_of_due (h : e.Doomed id box k code) {task : Task} (hmem : task ∈ e.ready)
    {told : ErrorCode} (hends : task.ends (SendClient.isOf id) (· ≠ code) = decide (told ≠ code)) :
    told = code := by
  by_contra hne
  have hdue : 0 < e.ready.countP (Task.ends (SendClient.isOf id) (· ≠ code)) :=
    List.countP_pos_iff.2 ⟨task, hmem, hends.trans (decide_eq_true hne)⟩
  have hlate := h.late
  simp only [Engine.late, Engine.due] at hlate
  omega

/-- A task about a call of the pinger ends it for this reason: no timer has rung. -/
theorem code_of_verdict (h : e.Doomed id box k code) {task : Task} (hmem : task ∈ e.ready)
    {token : Token} {call : Call} {told : ErrorCode} (hcall : call ∈ e.callsOf id)
    (about : task.call? = some (id, token, call.timer)) (verdict : task.verdict? = some told) :
    told = code := by
  cases task with
  | rang alarm rung =>
    cases alarm with
    | call owner token' timer =>
      cases about
      have hrung : rung ≠ .aborted := fun heq => by simp [Task.verdict?, heq] at verdict
      exact absurd rfl (h.unrung _ _ _ hmem hrung call hcall)
    | _ => cases about
  | sent client ended count =>
    cases client with
    | raw tag => cases about
    | call owner token' timer =>
      cases about
      have hended : ended = told := by
        simp only [Task.verdict?] at verdict
        split at verdict
        · exact Option.some.inj verdict
        · cases verdict
      exact h.code_of_due hmem (by simp [Task.ends, SendClient.isOf, hended])
  | turnedAway sender =>
    obtain rfl := Option.some.inj verdict
    cases sender with
    | labelled limiter label again => cases about
    | datagram socket packet destination client =>
      cases client with
      | raw tag => cases about
      | call owner token' timer =>
        cases about
        exact h.code_of_due hmem (by simp [Task.ends, Sender.isOf, SendClient.isOf])
  | _ => cases about

/-- A receive of the pinger fails for this reason. -/
theorem code_of_failure (h : e.Doomed id box k code) (hw : Wired e) (hreasoned : Reasoned e)
    {task : Task} (hmem : task ∈ e.ready) {told : ErrorCode}
    (failure : task.failure? = some (id, told)) : told = code := by
  have hproper := hw.tasks task hmem
  cases task with
  | received socket client failed source data =>
    cases client with
    | pinger owner =>
      simp only [Task.failure?] at failure
      split at failure
      · cases failure
        cases h.port_eq hproper
      · cases failure
    | _ => cases failure
  | noReceive client failed =>
    cases client with
    | pinger owner =>
      cases failure
      obtain ⟨-, socket, hfits⟩ := hproper
      cases h.port_eq hfits
    | _ => cases failure
  | mail reader failed letter =>
    cases reader with
    | pinger owner =>
      simp only [Task.failure?] at failure
      split at failure
      · next herror =>
        cases failure
        obtain ⟨other, value, hfits, hvalue, hreason⟩ := hreasoned.mail _ _ _ hmem herror
        obtain rfl := Port.box.inj (h.port_eq hfits)
        obtain ⟨value', hvalue', hreason'⟩ := h.reason
        obtain rfl := Option.some.inj (hvalue.symm.trans hvalue')
        exact hreason.symm.trans hreason'
      · cases failure
    | labelled other label again => cases failure
  | _ => cases failure

/-- No datagram is on its way to the pinger. -/
theorem no_datagram (h : e.Doomed id box k code) (hw : Wired e) {task : Task} (hmem : task ∈ e.ready)
    (pinger : Pinger) : task.datagram? id pinger = none := by
  have hproper := hw.tasks task hmem
  cases task with
  | received socket client received source data =>
    cases client with
    | pinger owner =>
      refine if_neg ?_
      rintro ⟨rfl, -⟩
      cases h.port_eq hproper
    | _ => rfl
  | mail reader received letter =>
    cases reader with
    | pinger owner =>
      refine if_neg ?_
      rintro ⟨rfl, hcode⟩
      obtain ⟨other, hfits⟩ := hproper
      obtain rfl := Port.box.inj (h.port_eq hfits)
      have hport : e.port? (.pinger owner) = some (.box other) := hfits
      have hletter : letter ∈ e.ready.filterMap (e.letter? other) :=
        List.mem_filterMap.2 ⟨_, hmem, if_pos ⟨hport, hcode⟩⟩
      have hempty := (List.append_eq_nil_iff.1 h.inbox).1
      rw [hempty] at hletter
      cases hletter
    | labelled other label again => rfl
  | _ => rfl

/-- **The reason is the only thing that the pinger tells**, of a ping that was not refused. -/
theorem code_of_tells (h : e.Doomed id box k code) (hs : Sound {} e) (hreasoned : Reasoned e)
    {task : Task} (hmem : task ∈ e.ready) {ending : Ending} (htells : e.Tells task ending)
    {ping : Ping} (hping : e.ping? ending.ping = some ping) (howner : ping.pinger = id)
    (hrefused : e.refused ending.ping = 0) : ending.code = code := by
  -- whoever has the call is the pinger of the ping
  have hself : ∀ {other : PingerId} {call : Call}, call ∈ e.callsOf other →
      e.ping? call.timer = some ping → other = id := by
    intro other call hcall hasked
    obtain ⟨known, hknown, hrecords⟩ := hs.ledger.entered other call hcall
    obtain rfl := Option.some.inj (hasked.symm.trans hknown)
    exact hrecords.pinger.symm.trans howner
  cases htells with
  | ended about verdict pending =>
    obtain ⟨hp, hfound, rfl⟩ := Engine.callOf?_eq_some pending
    have hcall := Engine.callsOf_eq hp ▸ Pinger.mem_of_call? hfound
    obtain rfl := hself hcall hping
    exact h.code_of_verdict hmem hcall about verdict
  | refused refusal =>
    subst refusal
    have hnone := List.countP_eq_zero.1 hrefused _ hmem
    simp [Task.refusal?] at hnone
  | answered listens datagram answers =>
    have hcall := Engine.callsOf_eq listens ▸ Pinger.mem_of_call? answers.pending
    obtain rfl := hself hcall hping
    rw [h.no_datagram hs.wired hmem] at datagram
    cases datagram
  | failed listens failure pending =>
    obtain rfl := hself (Engine.callsOf_eq listens ▸ pending) hping
    exact h.code_of_failure hs.wired hreasoned hmem failure

end Engine.Doomed

/-! ## 2. One thing after another -/

namespace Session

variable {s s' : Session} {deed : Deed} {past : List (Session × Deed)} {number : PingId} {ping : Ping}

/-- A timer rings only when nothing is ready. -/
def Deed.Patient (deed : Deed) (s : Session) : Prop :=
  ∀ alarm, deed = .item (.ring alarm) → s.engine.ready = []

theorem Deed.isCall_item (hring : ∀ alarm, deed ≠ .item (.ring alarm)) :
    ∀ item, deed = .item item → item.isCall = false := by
  rintro item rfl
  cases item with
  | ring alarm => exact absurd rfl (hring alarm)
  | _ => rfl

/-- A timer that rings changes no calls, and refuses no ping. -/
theorem Does.of_ring {alarm : Alarm} (h : Does s (.item (.ring alarm)) s') :
    (∀ id, s'.engine.callsOf id = s.engine.callsOf id) ∧
      ∀ number, s'.engine.refused number = s.engine.refused number := by
  cases h with
  | item h =>
    refine ⟨fun id => SameCalls.sweep.calls id, fun number => (SameCalls.sweep.refused number).trans ?_⟩
    simp [Engine.refused, Engine.happen, Engine.post, Task.refusal?]

/-- Whatever happens refuses no ping that was asked for before. -/
theorem Does.refused_le (h : Does s deed s') (hs : s.Sound) (hlt : number < s.engine.nextPing) :
    s'.engine.refused number ≤ s.engine.refused number := by
  by_cases hring : ∃ alarm, deed = .item (.ring alarm)
  · obtain ⟨alarm, rfl⟩ := hring
    exact Nat.le_of_eq (h.of_ring.2 number)
  · exact (h.numbers hs (Deed.isCall_item fun alarm heq => hring ⟨alarm, heq⟩)).refused number hlt

/-- **A doomed pinger stays doomed**, whatever happens, if timers wait for tasks. -/
theorem Does.doomed (h : Does s deed s') (hs : s.Sound) (hm : s.Stocked)
    (hreasoned : Reasoned s.engine) (hpatient : deed.Patient s)
    (hd : s.engine.Doomed id box k code) (hcode : code.isError) : s'.engine.Doomed id box k code := by
  obtain ⟨pinger, hp, hbox, hsocket⟩ := hd.pinger
  obtain ⟨value, hvalue, hreason⟩ := hd.reason
  obtain ⟨record, hrecord, hfatal⟩ := hd.fatal
  have hshut := hd.shut hcode
  have hmutes := h.mutes hs hm
  subst hsocket
  subst hfatal
  refine ⟨?_, ?_, hmutes.fatal _ record hrecord hcode, ?_, ?_, ?_⟩
  · obtain ⟨pinger', hp', -, hsocket', hbox', -⟩ := (h.leads hs).onward.pingers id pinger hp
    exact ⟨pinger', hp', hbox'.trans hbox, hsocket'⟩
  · obtain ⟨value', hvalue', hreason'⟩ :=
      (h.enlists hs).closed box value hvalue (by rwa [Mailbox.isClosed, hreason])
    exact ⟨value', hvalue', hreason'.trans hreason⟩
  · rcases h.handled_or_moves hs with ⟨task, rfl, hhandled, -⟩ | ⟨-, hmoves⟩
    · have hinbox := hhandled.inbox box
      rw [Engine.taken?, Engine.refuses_of_shut hshut, if_pos rfl, hd.inbox] at hinbox
      exact (List.append_eq_nil_iff.1 hinbox).2
    · rw [hmoves.still.inbox, hd.inbox]
  · exact Nat.le_zero.1 (hd.late ▸ hmutes.late id pinger record hp hrecord hcode)
  · intro token timer other hmem hrung call hcall
    by_cases hring : ∃ alarm, deed = .item (.ring alarm)
    · -- nothing was ready, so the pinger had no calls
      obtain ⟨alarm, rfl⟩ := hring
      rw [h.of_ring.1, Engine.callsOf_eq hp,
        hs.calls_of_shut hreasoned (hpatient alarm rfl) hp hbox hshut] at hcall
      cases hcall
    · have hnumbers := h.numbers hs (Deed.isCall_item fun alarm heq => hring ⟨alarm, heq⟩)
      have hold := hnumbers.rung _ hmem (by simp [Task.isRung, Task.rings?, hrung, Alarm.isCall])
      -- the timer is one of a ping that was asked for before
      have harmed : 0 < s.engine.armed (.call id token timer) :=
        Nat.add_pos_left (List.countP_pos_iff.2 ⟨_, hold, by simp [Task.rings?, hrung]⟩) _
      have hlt := hs.engine.armed.fresh id token timer (by simpa using harmed)
      rintro rfl
      obtain ⟨old, hmem', hsame⟩ := hnumbers.calls id call hcall hlt
      exact hd.unrung token _ other hold hrung old hmem' hsame

/-- Timers ring only when nothing is ready. -/
def Patient (past : List (Session × Deed)) : Prop := ∀ entry ∈ past, entry.2.Patient entry.1

/-- **Along a run a doomed pinger stays doomed**, and what it tells is the reason. -/
theorem Run.doomed (h : Run s past s') (hpatient : Patient past) (hs : s.Sound) (hm : s.Stocked)
    (hreasoned : Reasoned s.engine) (hd : s.engine.Doomed id box k code) (hcode : code.isError) :
    s'.engine.Doomed id box k code ∧
      ∀ number ping, s.engine.ping? number = some ping → ping.pinger = id →
        s.engine.refused number = 0 → ∀ ending ∈ s'.engine.endings, ending.ping = number →
          ending ∈ s.engine.endings ∨ ending.code = code := by
  induction h with
  | nil s => exact ⟨hd, fun _ _ _ _ _ ending hending _ => .inl hending⟩
  | @cons s next s' deed past head rest ih =>
    have hleads := head.leads hs
    have hnext := head.doomed hs hm hreasoned (hpatient _ List.mem_cons_self) hd hcode
    obtain ⟨hlast, htells⟩ := ih (fun entry hentry => hpatient entry (List.mem_cons_of_mem _ hentry))
      hleads.sound (head.stocked hs hm) ((head.enlists hs).keeps hreasoned) hnext
    refine ⟨hlast, fun number ping hping howner hrefused ending hending hnumber => ?_⟩
    have hlt : number < s.engine.nextPing :=
      (hs.engine.ledger.known number).1 (by rw [hping]; rfl)
    have hrefused' : next.engine.refused number = 0 :=
      Nat.le_zero.1 (hrefused ▸ head.refused_le hs hlt)
    rcases htells number ping (hleads.onward.ping? number ping hping) howner hrefused' ending hending
      hnumber with hearlier | hcode
    · obtain ⟨fresh, hfresh, htold⟩ := head.tells hs
      rw [hfresh] at hearlier
      rcases List.mem_append.1 hearlier with hnew | hold
      · obtain ⟨task, rfl, htells⟩ := htold ending hnew
        have hmem : task ∈ s.engine.ready := by
          cases head with
          | task hready => exact hready ▸ List.mem_append_right _ List.mem_cons_self
        exact .inr (hd.code_of_tells hs.engine hreasoned hmem htells (hnumber ▸ hping) howner
          (hnumber ▸ hrefused))
      · exact .inl hold
    · exact .inr hcode

/-- **Every call of a doomed pinger ends once, with the reason**, when tasks go before timers. -/
theorem Run.ends_doomed (h : Run s past s') (hpatient : Patient past) (hr : Reachable s)
    (hd : s.engine.Doomed id box k code) (hcode : code.isError) {call : Call}
    (hcall : call ∈ s.engine.callsOf id) (hdrained : s'.engine.ready = []) :
    ∃ ending, s'.engine.endings.filter (fun ending => ending.ping = call.timer) = [ending] ∧
      ending.code = code := by
  have hs := hr.sound
  have hs' := (h.leads hs).sound
  have hreasoned := hr.enrolls.1
  obtain ⟨ping, hping, hrecords⟩ := hs.engine.ledger.entered id call hcall
  have hentered : 0 < s.engine.entered ping.pinger call.timer := by
    rw [hrecords.pinger]
    exact List.countP_pos_iff.2 ⟨call, hcall, by simp⟩
  have honce := (hs.engine.accounts hping).once
  have hrefused : s.engine.refused call.timer = 0 := by omega
  have hbefore : s.engine.told call.timer = 0 := by omega
  obtain ⟨hlast, htells⟩ := h.doomed hpatient hs hr.stocked hreasoned hd hcode
  obtain ⟨pinger, hp, hbox, -⟩ := hlast.pinger
  have hcalls := hs'.calls_of_shut (hr.run h).enrolls.1 hdrained hp hbox (hlast.shut hcode)
  have htold := hs'.told_of_no_calls hdrained hp hcalls
    ((h.leads hs).onward.ping? _ ping hping) hrecords.pinger
  rw [Engine.told, List.countP_eq_length_filter] at htold
  obtain ⟨ending, hone⟩ := List.length_eq_one_iff.1 htold
  refine ⟨ending, hone, ?_⟩
  obtain ⟨hmem, hnumber⟩ := List.mem_filter.1 (hone ▸ List.mem_singleton_self ending :
    ending ∈ s'.engine.endings.filter fun ending => ending.ping = call.timer)
  have hnumber : ending.ping = call.timer := of_decide_eq_true hnumber
  rcases htells call.timer ping hping hrecords.pinger hrefused ending hmem hnumber with hold | hcode
  · exact absurd hbefore (Nat.ne_of_gt (List.countP_pos_iff.2 ⟨ending, hold, by simpa using hnumber⟩))
  · exact hcode

/-! ## 3. Pingers that are made on a failed socket -/

variable {hubId : HubId} {hub : Hub} {name via : String} {destination : Address}

/-- **Who registers with a hub whose socket has failed gets a doomed pinger.** -/
theorem Reachable.registers_doomed (hr : Reachable s) (hvia : s.handle? via = some (.hub hubId))
    (hh : s.engine.hubs[hubId]? = some hub) (hfailed : (s.engine.fatalOf hub.socket).isError)
    (hok : (s.perform (.register name via destination)).2 = none) :
    let next := (s.perform (.register name via destination)).1
    ∃ id, next.handle? name = some (.pinger id) ∧
      next.engine.Doomed id s.engine.mailboxes.size hub.socket (s.engine.fatalOf hub.socket) := by
  have hs := hr.sound
  let step : Step := .register name via destination
  have hstep : ∀ duration, step ≠ .run duration := by simp [step]
  have hd : Does s (.step step) (s.perform step).1 := .step step hstep
  have hinbox := hd.inbox_of_new hs (Nat.le_refl _)
  have hsame : SameCalls s.engine (s.perform step).1.engine := perform_sameCalls s hstep rfl
  have hregister : s.register via destination = s.engine.register hubId destination := by
    simp [Session.register, hvia]
  rcases s.engine.register_cases hubId destination with ⟨failure, hmade⟩ | ⟨hub', hh', hmade⟩
  · simp [Session.perform, hregister, hmade, Session.hold, Except.map] at hok
  · obtain rfl := Option.some.inj (hh.symm.trans hh')
    obtain ⟨hmoved, hnew⟩ := Moved.register hs.engine hubId destination
    have hbeside := @Beside.register s.engine hubId destination
    rw [hmade] at hmoved hnew hbeside
    let started := s.engine.startRegistration hubId hub destination
    let made := (started.addPinger destination hub.socket (some s.engine.mailboxes.size)).1
    let id := started.pingers.size
    have hnext : (s.perform step).1 = ({ s with engine := made }.hold name (made, .ok (.pinger id))).1 := by
      simp only [step, Session.perform, hregister, hmade, Session.hold, Except.map]
      rfl
    -- what the name stood for is dropped last
    have hdrop := (hs.moved hmoved).drop name
    have houters := (hs.moved hmoved).drop_outers name
    let pinger : Pinger :=
      { destination, identifier := started.nextIdentifier, socket := hub.socket,
        mailbox := some s.engine.mailboxes.size }
    have hp : made.pingers[id]? = some pinger := Array.getElem?_push_size
    obtain ⟨record, hrecord, hfatal⟩ := hs.socket_of_hub hh
    obtain ⟨record', hrecord', hstands⟩ := hbeside.socket hrecord
    have hreason' : record'.fatal = s.engine.fatalOf hub.socket := hstands.fatal.trans hfatal.symm
    have hmutes := Mutes.hauls (.outers houters) (hbeside.metered hr.stocked.metered)
    have hnone : s.engine.pingers[id]? = none := Array.getElem?_eq_none (hnew id rfl).fresh
    refine ⟨id, hnext ▸ handle?_hold _ name made (.pinger id), ?_, ?_, ?_, hinbox, ?_, ?_⟩
    · obtain ⟨pinger', hp', -, hsocket, hbox, -⟩ := hdrop.onward.pingers id _ hp
      exact ⟨pinger', hnext ▸ hp', hbox, hsocket⟩
    · obtain ⟨value, hvalue, hreason⟩ :=
        Enlists.reason_startRegistration hs.engine hh destination hfailed
      obtain ⟨value', hvalue', hreason'⟩ :=
        (Enlists.outers houters).closed _ value hvalue (by rwa [Mailbox.isClosed, hreason])
      exact ⟨value', hnext ▸ hvalue', hreason'.trans hreason⟩
    · obtain ⟨record'', hrecord'', hfatal''⟩ :=
        hmutes.fatal _ record' hrecord' (by rwa [hreason'])
      exact ⟨record'', hnext ▸ hrecord'', hfatal''.trans hreason'⟩
    · -- nothing was sent by a pinger that was yet to come
      have hlate := hmutes.late id _ record' hp hrecord' (by rwa [hreason'])
      have hsends : Engine.sends made id = s.engine.sends id := by
        rw [Engine.sends, Engine.sends]
        exact congrArg₂ (· + ·) (hbeside.held _) (hbeside.due _ _)
      rw [hr.sends_eq_zero hnone] at hsends
      rw [hreason'] at hlate
      exact Nat.le_zero.1 (hsends ▸ hnext ▸ hlate.trans (made.late_le_sends id _))
    · intro token timer other hmem hrung call hcall
      rw [hsame.calls, Engine.callsOf, hnone] at hcall
      cases hcall

/-! ## 4. All runs -/

/-- **A hub dies for a reason**: it is closed or dropped, or a receive on its socket has failed. -/
inductive Dies (hubId : HubId) (hub : Hub) (s : Session) : ErrorCode → Session → Prop
  | closed {name : String} (h : s.handle? name = some (.hub hubId)) :
    Dies hubId hub s .aborted (s.perform (.close name)).1
  | dropped {name : String} (h : s.handle? name = some (.hub hubId)) :
    Dies hubId hub s .aborted (s.drop name)
  | failed {code : ErrorCode} {source : Address} {data : Bytes} {s' : Session}
    (h : Does s (.task (.received hub.socket (.hub hubId) code source data)) s')
    (herror : code.isError) (haborted : code ≠ .aborted) : Dies hubId hub s code s'

/-- **The first death is the reason**, and any of them fails the socket. -/
theorem Dies.fatalOf {code : ErrorCode} (h : s.Dies hubId hub code s') (hr : Reachable s)
    (hh : s.engine.hubs[hubId]? = some hub) :
    (s'.engine.fatalOf hub.socket).isError ∧ s'.engine.fatalOf hub.socket
      = if (s.engine.fatalOf hub.socket).isError then s.engine.fatalOf hub.socket else code := by
  have hs := hr.sound
  have hfatal : s'.engine.fatalOf hub.socket
      = if (s.engine.fatalOf hub.socket).isError then s.engine.fatalOf hub.socket else code := by
    cases h with
    | closed h =>
      simp only [Session.perform, Session.use, h]
      exact hs.fatalOf_closeHub hr.stocked hh
    | dropped h =>
      simp only [Session.drop, h, letGo]
      exact hs.fatalOf_closeHub hr.stocked hh
    | failed h herror haborted => exact h.fatalOf_failed hs hr.stocked hh herror haborted
  have hcode : code.isError := by
    cases h with
    | closed h => rfl
    | dropped h => rfl
    | failed h herror haborted => exact herror
  refine ⟨?_, hfatal⟩
  rw [hfatal]
  split
  · assumption
  · exact hcode

theorem Runs.patient (h : Runs past) : Patient past := by
  intro entry hentry alarm hitem
  obtain ⟨task, htask⟩ := h entry hentry
  rw [htask] at hitem
  cases hitem

/-- **What a pinger does that was made on a failed socket**: it enters every ping that fits into a
datagram and whose token is free, and each of its calls ends once, with the reason. -/
structure Answers (t : Session) (id : PingerId) (code : ErrorCode) : Prop where
  enters : ∀ pinger sequence caller, t.engine.pingers[id]? = some pinger →
    pinger.size ≤ maxPayload pinger.destination.family →
    pinger.call? { identifier := pinger.identifier, sequence } = none →
    ∃ call : Call, call.timer = t.engine.nextPing ∧ call.caller = caller ∧
      (t.engine.ping id sequence caller).callsOf id = call.insert pinger.calls
  ends : ∀ call ∈ t.engine.callsOf id, ∀ past t', Run t past t' → Patient past →
    t'.engine.ready = [] →
    ∃ ending, t'.engine.endings.filter (fun ending => ending.ping = call.timer) = [ending] ∧
      ending.code = code

theorem Reachable.answers (hr : Reachable s) (hd : s.engine.Doomed id box k code)
    (hcode : code.isError) : s.Answers id code where
  enters pinger sequence caller hp hsize hfree := by
    have hnone : Engine.refusalOf pinger sequence = none := by
      rw [Engine.refusalOf, if_neg (Nat.not_lt.2 hsize), hfree]
      rfl
    obtain ⟨-, call, hrecords, htimer, hcalls⟩ :=
      (Engine.ping_asks hp sequence caller).entered hnone
    exact ⟨call, htimer, hrecords.caller.symm, hcalls⟩
  ends call hcall past t' hrun hpatient hdrained :=
    hrun.ends_doomed hpatient hr hd hcode hcall hdrained

/-- **A shared socket that dies leaves nobody waiting.**

When the hub is closed or dropped, or a receive on its socket fails, the socket has failed, for the
reason that came first, and for good.  Then, or when the receive that fails it is still to be handled,
what is ready comes to an end, and when nothing is ready any more no pinger on the socket has calls and
each of their pings was told exactly once.

A pinger that is registered with the hub afterwards enters every ping that fits and whose token is
free, and each of its calls ends exactly once, with the reason of the failure, if what is ready goes
before any timer; and the socket sends nothing. -/
theorem dead_socket_leaves_nobody_waiting (hr : Reachable s) (hh : s.engine.hubs[hubId]? = some hub) :
    (∀ code s', s.Dies hubId hub code s' → Reachable s' ∧
      (s'.engine.fatalOf hub.socket).isError ∧ s'.engine.fatalOf hub.socket
        = if (s.engine.fatalOf hub.socket).isError then s.engine.fatalOf hub.socket else code) ∧
    (s.Dying hubId hub → s.Finishes ∧
      ∀ past s', Run s past s' → Runs past → s'.engine.ready = [] →
        ∀ (id : PingerId) (pinger : Pinger), s'.engine.pingers[id]? = some pinger →
          pinger.socket = hub.socket → pinger.calls = [] ∧
            ∀ number ping, s'.engine.ping? number = some ping → ping.pinger = id →
              s'.engine.told number = 1) ∧
    ((s.engine.fatalOf hub.socket).isError →
      (∀ past s', Run s past s' → s'.engine.fatalOf hub.socket = s.engine.fatalOf hub.socket ∧
        s'.engine.sentFrom hub.socket = s.engine.sentFrom hub.socket) ∧
      ∀ name via destination, s.handle? via = some (.hub hubId) →
        (s.perform (.register name via destination)).2 = none →
        let next := (s.perform (.register name via destination)).1
        ∃ id, next.handle? name = some (.pinger id) ∧ ∀ past t, Run next past t → Patient past →
          t.Finishes ∧ t.Answers id (s.engine.fatalOf hub.socket)) := by
  have hs := hr.sound
  refine ⟨fun code s' hdies => ⟨?_, hdies.fatalOf hr hh⟩, fun hdying => ⟨hr.finishes, ?_⟩,
    fun hfailed => ⟨fun past s' hrun => ⟨hrun.fatalOf hs hh hfailed, ?_⟩, ?_⟩⟩
  · cases hdies with
    | closed h => exact hr.perform _
    | @dropped name h => exact hr.perform (.drop name)
    | failed h herror haborted => exact hr.run (.one h)
  · intro past s' hrun hruns hdrained id pinger hp hsocket
    exact hrun.drains hruns hr hh hdying hdrained hp hsocket
  · obtain ⟨record, hrecord, hfatal⟩ := hs.socket_of_hub hh
    exact (hrun.failed hs hr.stocked hrecord (hfatal ▸ hfailed)).2
  · intro name via destination hvia hok next
    obtain ⟨id, hheld, hdoomed⟩ := hr.registers_doomed hvia hh hfailed hok
    have hnext : Reachable next := hr.perform _
    refine ⟨id, hheld, fun past t hrun hpatient => ?_⟩
    have ht : Reachable t := hnext.run hrun
    have hlast := (hrun.doomed hpatient hnext.sound hnext.stocked hnext.enrolls.1 hdoomed hfailed).1
    exact ⟨ht.finishes, ht.answers hlast hfailed⟩

/-- A call is pending when the hub is closed; another pinger is made, and asked, afterwards. -/
theorem dead_socket_leaves_nobody_waiting_of_closed :
    let address : Address := .ofOctets 10 0 0 1
    let opened := ((fresh {} 1 none [] []).perform (.openHub "hub" { family := .v4 })).1
    let first := (opened.perform (.register "first" "hub" address)).1
    let pinged := (first.perform (.ping "first" 1 "a" [])).1
    let closed := (pinged.perform (.close "hub")).1
    let second := (closed.perform (.register "second" "hub" address)).1
    let asked := (second.perform (.ping "second" 1 "b" [])).1
    closed.engine.fatalOf 0 = .aborted ∧
      (∃ past s', Run closed past s' ∧ Runs past ∧ s'.engine.ready = [] ∧
        s'.engine.told 0 = 1) ∧
      ∃ past t, Run asked past t ∧ Runs past ∧ (t.engine.sentFrom 0).length = 1 ∧
        ∃ ending, t.engine.endings.filter (fun ending => ending.ping = 1) = [ending] ∧
          ending.code = .aborted := by
  intro address opened first pinged closed second asked
  have hpinged : Reachable pinged :=
    (((Reachable.fresh _ _ _ _ _).perform _).perform _).perform _
  have hclosed : Reachable closed := hpinged.perform _
  have hworking : (pinged.engine.hubs[0]?).map Hub.socket = some 0 := by decide +kernel
  have hdead : (closed.engine.hubs[0]?).map Hub.socket = some 0 := by decide +kernel
  obtain ⟨hub, hh, hsocket⟩ := Option.map_eq_some_iff.1 hworking
  obtain ⟨hub', hh', hsocket'⟩ := Option.map_eq_some_iff.1 hdead
  have hdies : pinged.Dies 0 hub .aborted closed := .closed (by decide +kernel)
  obtain ⟨-, hfailed, hreason⟩ :=
    (dead_socket_leaves_nobody_waiting hpinged hh).1 .aborted closed hdies
  have hworks : pinged.engine.fatalOf 0 = .success := by decide +kernel
  rw [hsocket] at hfailed hreason
  have haborted : closed.engine.fatalOf 0 = .aborted := by
    rw [hreason, hworks]
    rfl
  obtain ⟨-, hdrains, hlater⟩ := dead_socket_leaves_nobody_waiting hclosed hh'
  simp only [Dying, hsocket'] at hdrains hlater
  refine ⟨haborted, ?_, ?_⟩
  · obtain ⟨hfinishes, hall⟩ := hdrains (.inl hfailed)
    obtain ⟨past, s', hrun, hruns, hdrained⟩ := hfinishes.drained
    have honward := (hrun.leads hclosed.sound).onward
    have hasked : (closed.engine.ping? 0).map Ping.pinger = some 0 := by decide +kernel
    have howner : (closed.engine.pingers[0]?).map Pinger.socket = some 0 := by decide +kernel
    obtain ⟨ping, hping, hpinger⟩ := Option.map_eq_some_iff.1 hasked
    obtain ⟨pinger, hp, hown⟩ := Option.map_eq_some_iff.1 howner
    obtain ⟨pinger', hp', -, hsame, -⟩ := honward.pingers 0 pinger hp
    obtain ⟨-, htold⟩ := hall past s' hrun hruns hdrained 0 pinger' hp' (hsame.trans hown)
    exact ⟨past, s', hrun, hruns, hdrained,
      htold 0 ping (honward.ping? 0 ping hping) hpinger⟩
  · obtain ⟨hforever, hmade⟩ := hlater hfailed
    obtain ⟨id, hheld, hthen⟩ := hmade "second" "hub" address (by decide +kernel)
      (by decide +kernel)
    obtain rfl : id = 1 :=
      Handle.pinger.inj (Option.some.inj (hheld.symm.trans (by decide +kernel)))
    have hask : Does second (.step (.ping "second" 1 "b" [])) asked := .step _ (by simp)
    obtain ⟨hfinishes, hanswers⟩ := hthen _ asked (.one hask) (by simp [Patient, Deed.Patient])
    obtain ⟨past, t, hrun, hruns, hdrained⟩ := hfinishes.drained
    have hcalls : (asked.engine.callsOf 1).map Call.timer = [1] := by decide +kernel
    obtain ⟨call, hcall, htimer⟩ := List.mem_map.1 (hcalls ▸ List.mem_singleton_self 1 :
      1 ∈ (asked.engine.callsOf 1).map Call.timer)
    obtain ⟨ending, hone, hcode⟩ := hanswers.ends call hcall past t hrun hruns.patient hdrained
    have hregister : Does closed (.step (.register "second" "hub" address)) second :=
      .step _ (by simp)
    have hsent := (hforever _ t (.cons hregister (.cons hask hrun))).2
    have hnothing : (closed.engine.sentFrom 0).length = 1 := by decide +kernel
    exact ⟨past, t, hrun, hruns, (congrArg List.length hsent).trans hnothing, ending, htimer ▸ hone,
      hcode.trans haborted⟩

end Session

end IcmpEcho
