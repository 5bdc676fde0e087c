/-
# The receive of a pinger

A pinger keeps a flag for its receive.  The flag and the receive agree: while the flag is up exactly
one receive of the pinger is outstanding, waiting at its port or on its way as a task, and while it
is down there is none.  A pinger that has calls has its flag up.

Three things could go wrong with this, and the sections below rule them out.

* A receive could be started while another waits; the mailbox would forget the first.  It never is:
  wherever a handler might start one, nobody waits (`Sound.nobody_waits`).
* A pinger whose last call ends could go on waiting at its own socket, and keep the engine busy for
  nothing.  **No pinger idles** (`Engine.Idles`): with the last call its receive is given up.
* The receive that was given up ends later, when there may be calls again; `pingerReceived` then
  starts another.  So when nothing is ready, a pinger with a socket of its own has a receive exactly
  while it has calls.

A pinger that a hub feeds is different: it leaves its receive waiting, for the calls to come.
-/
import IcmpEcho.Proofs.Outside
import IcmpEcho.Proofs.Telling

namespace IcmpEcho

variable {e e' e'' : Engine} {id : PingerId} {pinger : Pinger}

/-! ## 1. Nobody waits where a receive may be started -/

namespace Engine

/-- Wherever a living pinger has its flag down, nobody waits at its port. -/
def Unclaimed (e : Engine) : Prop :=
  ∀ (id : PingerId) (pinger : Pinger), e.pingers[id]? = some pinger → pinger.gone = false →
    pinger.receiving = false → e.waiter? pinger.port = none

/-- The pinger is the one whose receive has just ended, or it has none: it does not wait. -/
def NotWaiting (e : Engine) (id : PingerId) : Prop :=
  ∀ pinger, e.pingers[id]? = some pinger → e.waiter? pinger.port ≠ some (.pinger id)

theorem port?_pinger (hp : e.pingers[id]? = some pinger) :
    e.port? (.pinger id) = some pinger.port := by
  simp only [port?, hp, Option.map_some]

/-- Who waits after a receive was started has started it, or waited before. -/
theorem waiter?_receive {socket : SocketId} {client other : ReceiveClient} {room : Nat} {port : Port}
    (hw : (e.receive socket client room).waiter? port = some other) :
    other = client ∨ e.waiter? port = some other := by
  unfold receive at hw
  split at hw
  · exact .inr hw
  · next record hrecord =>
    split at hw
    · exact .inr (by rwa [waiter?_post] at hw)
    · split at hw
      · rw [waiter?_post, waiter?_updateSocket] at hw
        split at hw
        · next hport =>
          rw [hport, waiter?_socket hrecord]
          simp only [hrecord, Option.map_some, Option.bind_some] at hw
          exact .inr hw
        · exact .inr hw
      · rw [waiter?_updateSocket] at hw
        split at hw
        · simp only [hrecord, Option.map_some, Option.bind_some, Option.some.injEq] at hw
          exact .inl hw.symm
        · exact .inr hw

/-- A socket that fails leaves the receives that wait. -/
theorem waiter?_failSocket (socket : SocketId) (code : ErrorCode) (port : Port) :
    (e.failSocket socket code).waiter? port = e.waiter? port := by
  unfold failSocket
  split
  · rfl
  · rw [(Aside.logDated _ _).receives.waiter?, waiter?_updateSocket]
    split
    · next hport =>
      simp only [hport, waiter?, Option.bind_map, Function.comp_def]
    · rfl

/-- Nobody waits at a socket whose receive was ended. -/
theorem waiter?_endReceive_self (socket : SocketId) (code : ErrorCode) :
    (e.endReceive socket code).waiter? (.socket socket) = none := by
  cases hrecord : e.sockets[socket]? with
  | none => simp [endReceive, hrecord, waiter?]
  | some record =>
    obtain ⟨family, isOpen, fatal, limiter, backlog, receiver⟩ := record
    cases receiver with
    | none => simp [endReceive, hrecord, waiter?]
    | some waiting =>
      simp only [endReceive, hrecord]
      rw [waiter?_post, waiter?_updateSocket, if_pos rfl, hrecord]
      rfl

theorem listens?_pinger (hp : e.pingers[id]? = some pinger) (hg : pinger.gone = false) :
    e.listens? (.pinger id) = some pinger.receiving := by
  simp [listens?, hp, hg]

end Engine

namespace Sound

variable {hand : Hand}

/-- Whoever waits at the port of a pinger is that pinger. -/
theorem waiter_eq (hs : Sound hand e) (hp : e.pingers[id]? = some pinger) {client : ReceiveClient}
    (hw : e.waiter? pinger.port = some client) : client = .pinger id :=
  (hs.wired.waits _ _ hw).eq_of_port? hs.wired.unique (Engine.port?_pinger hp)

/-- A pinger whose receive is being handled does not wait. -/
theorem notWaiting_of_busy (hs : Sound hand e) (hb : hand.busy = some (.pinger id)) :
    e.NotWaiting id := by
  intro pinger hp hw
  have hport := Engine.port?_pinger hp
  have hone := Engine.waiting_of_waiter hport hw
  have hsingle := hs.counted.single (.pinger id) _ hport
  rw [hb, if_pos rfl, Engine.outstanding, hone] at hsingle
  omega

/-- A pinger whose flag is down does not wait. -/
theorem notWaiting_of_flag (hs : Sound hand e) (hp : e.pingers[id]? = some pinger)
    (hg : pinger.gone = false) (hflag : pinger.receiving = false) : e.NotWaiting id := by
  intro other hother hw
  obtain rfl := Option.some.inj (hp.symm.trans hother)
  have hone := Engine.waiting_of_waiter (Engine.port?_pinger hp) hw
  have hexact := hs.counted.exact (.pinger id) _ (Engine.listens?_pinger hp hg)
  rw [hflag, Engine.outstanding, hone] at hexact
  simp only [Bool.false_eq_true, if_false] at hexact
  omega

/-- **Whenever a handler might start the receive of a pinger, nobody waits at its port.** -/
theorem nobody_waits (hs : Sound hand e) : e.Unclaimed := by
  intro id pinger hp hg hflag
  cases hw : e.waiter? pinger.port with
  | none => rfl
  | some client =>
    obtain rfl := hs.waiter_eq hp hw
    exact absurd hw (hs.notWaiting_of_flag hp hg hflag pinger hp)

end Sound

/-! ## 2. Idling -/

namespace Engine

/-- The pinger has a socket of its own and no calls, and waits there all the same. -/
def Idles (e : Engine) (id : PingerId) : Prop :=
  ∃ pinger, e.pingers[id]? = some pinger ∧ pinger.gone = false ∧ pinger.mailbox = none ∧
    pinger.calls = [] ∧ e.waiter? (.socket pinger.socket) = some (.pinger id)

end Engine

/-- No pinger has begun to idle. -/
def Rests (e e' : Engine) : Prop := ∀ id, e'.Idles id → e.Idles id

namespace Rests

theorem refl (e : Engine) : Rests e e := fun _ h => h

theorem trans (h : Rests e e') (h' : Rests e' e'') : Rests e e'' := fun id hi => h id (h' id hi)

theorem foldl {α : Type} {f : Engine → α → Engine} (hf : ∀ e a, Rests e (f e a)) (l : List α)
    (e : Engine) : Rests e (l.foldl f e) :=
  List.foldlRecOn (motive := Rests e) l f (refl e) fun next h a _ => h.trans (hf next a)

/-- What leaves the pingers alone, and makes none of them wait. -/
theorem of_same (pingers : e'.pingers = e.pingers)
    (waits : ∀ (socket : SocketId) (id : PingerId),
      e'.waiter? (.socket socket) = some (.pinger id) →
      e.waiter? (.socket socket) = some (.pinger id)) : Rests e e' := by
  rintro id ⟨pinger, hp, hg, hprivate, hcalls, hw⟩
  exact ⟨pinger, by rwa [← pingers], hg, hprivate, hcalls, waits _ _ hw⟩

theorem of_inward (h : Inward e e') : Rests e e' := of_same h.pingers fun _ _ => h.waits

theorem of_aside (h : Aside e e') : Rests e e' :=
  of_same h.pingers fun socket _ hw => by rwa [← h.receives.waiter? (.socket socket)]

/-- One pinger changes, and does not idle. -/
theorem of_others (others : ∀ other, other ≠ id → e'.pingers[other]? = e.pingers[other]?)
    (waits : ∀ (socket : SocketId) (other : PingerId),
      e'.waiter? (.socket socket) = some (.pinger other) →
      e.waiter? (.socket socket) = some (.pinger other)) (hself : ¬ e'.Idles id) : Rests e e' := by
  intro other hi
  by_cases hother : other = id
  · subst hother
    exact absurd hi hself
  · obtain ⟨pinger, hp, hg, hprivate, hcalls, hw⟩ := hi
    exact ⟨pinger, by rwa [← others other hother], hg, hprivate, hcalls, waits _ _ hw⟩

/-- One pinger changes; if it has lost its calls, it does not wait. -/
theorem updatePinger {change : Pinger → Pinger}
    (hgone : ∀ pinger, (change pinger).gone = false → pinger.gone = false)
    (hmailbox : ∀ pinger, (change pinger).mailbox = pinger.mailbox)
    (hsocket : ∀ pinger, (change pinger).socket = pinger.socket)
    (hcalls : ∀ pinger, e.pingers[id]? = some pinger →
      ((change pinger).calls = [] → pinger.calls = []) ∨ e.NotWaiting id) :
    Rests e (e.updatePinger id change) := by
  rintro other ⟨pinger', hp', hg, hprivate, hempty, hw⟩
  simp only [Engine.updatePinger, Array.getElem?_modify] at hp'
  split at hp'
  · next heq =>
    subst heq
    obtain ⟨pinger, hp, rfl⟩ := Option.map_eq_some_iff.1 hp'
    rw [hmailbox] at hprivate
    have hw : e.waiter? (.socket pinger.socket) = some (.pinger id) := by
      rwa [hsocket] at hw
    rcases hcalls pinger hp with hkeeps | hnot
    · exact ⟨pinger, hp, hgone pinger hg, hprivate, hkeeps hempty, hw⟩
    · exact absurd (by rwa [Pinger.port, hprivate]) (hnot pinger hp)
  · exact ⟨pinger', hp', hg, hprivate, hempty, hw⟩

/-! ## 3. Asking and telling -/

/-- **A pinger starts its receive only while it has calls.** -/
theorem startReceive (id : PingerId) : Rests e (e.startReceive id) := by
  unfold Engine.startReceive
  split
  · exact refl e
  · next pinger hp =>
    split
    · exact refl e
    · next hneeds =>
      have hcalls : pinger.calls ≠ [] := by
        intro hempty
        simp [hempty] at hneeds
      have hflagged : Rests e (e.updatePinger id fun pinger => { pinger with receiving := true }) :=
        updatePinger (fun _ h => h) (fun _ => rfl) (fun _ => rfl) fun _ _ => .inl fun h => h
      have hp' : (e.updatePinger id fun pinger => { pinger with receiving := true }).pingers[id]?
          = some { pinger with receiving := true } := by
        rw [Engine.pingers_updatePinger hp, if_pos rfl]
      dsimp only
      split
      · exact hflagged.trans (of_inward (.askMail _ _))
      · refine hflagged.trans ?_
        rintro other ⟨pinger', hp'', hg, hprivate, hempty, hw⟩
        rw [(SameParts.receive _ _ _).pingers] at hp''
        rcases Engine.waiter?_receive hw with hself | hold
        · obtain rfl := ReceiveClient.pinger.inj hself
          obtain rfl := Option.some.inj (hp'.symm.trans hp'')
          exact absurd hempty hcalls
        · exact ⟨pinger', hp'', hg, hprivate, hempty, hold⟩

theorem enterCall (id : PingerId) (pinger : Pinger) (token : Token) (caller : Caller) :
    Rests e (e.enterCall id pinger token caller) := by
  let call : Call := { token, queued := e.now, sent := e.now, timer := e.nextPing, caller }
  let asked := e.noteAsked id pinger token caller
  let entered := asked.updatePinger id fun pinger =>
    { pinger with calls := call.insert pinger.calls }
  have hasked : Rests e asked := of_same rfl fun _ _ h => h
  have hentered : Rests asked entered := by
    refine updatePinger (fun _ h => h) (fun _ => rfl) (fun _ => rfl) fun pinger _ => .inl ?_
    intro hempty
    exact absurd hempty (List.ne_nil_of_mem (Call.mem_insert.2 (.inl rfl)))
  have hrung : Rests entered (e.enterCall id pinger token caller) := of_same rfl fun _ _ h => h
  exact (hasked.trans hentered).trans hrung

theorem ping (id : PingerId) (sequence : UInt16) (caller : Caller) :
    Rests e (e.ping id sequence caller) := by
  have hrefuse : ∀ pinger token fault, Rests e (e.refuse id pinger token caller fault) :=
    fun _ _ _ => of_same rfl fun _ _ h => h
  unfold Engine.ping
  split
  · exact refl e
  · dsimp only
    split
    · exact hrefuse _ _ _
    · split
      · exact hrefuse _ _ _
      · exact ((enterCall _ _ _ _).trans (startReceive _)).trans (of_aside (.submit _ _ _ _))

theorem tell (number : PingId) (caller : Caller) (code : ErrorCode) (result : PingResult) :
    Rests e (e.tell number caller code result) := by
  let ending : Ending := { ping := number, time := e.now, code, result }
  have htold : Rests e { e with endings := ending :: e.endings } := of_same rfl fun _ _ h => h
  unfold Engine.tell
  dsimp only
  split
  · exact htold.trans (of_aside (.targetAnswered _ _ _))
  · exact of_same rfl fun _ _ h => h

theorem answer (id : PingerId) (number : PingId) (caller : Caller) (code : ErrorCode)
    (result : PingResult) : Rests e (e.answer id number caller code result) := by
  unfold Engine.answer
  dsimp only
  split
  · split
    · exact (tell _ _ _ _).trans (ping _ _ _)
    · exact tell _ _ _ _
  · exact tell _ _ _ _

theorem cancelAlarm (alarm : Alarm) : Rests e (e.cancelAlarm alarm) := by
  unfold Engine.cancelAlarm
  split
  · exact of_same rfl fun _ _ h => h
  · exact refl e

/-! ## 4. Ending calls -/

/-- Taking a call off and cancelling its timer makes nobody wait. -/
theorem waiter?_taken (left : Pinger) (alarm : Alarm) (port : Port) :
    ((e.updatePinger id fun _ => left).cancelAlarm alarm).waiter? port = e.waiter? port := by
  unfold Engine.cancelAlarm
  split
  · cases port <;> rfl
  · cases port <;> rfl

theorem pingers_taken (hp : e.pingers[id]? = some pinger) (left : Pinger) (alarm : Alarm)
    (other : PingerId) :
    ((e.updatePinger id fun _ => left).cancelAlarm alarm).pingers[other]?
      = if other = id then some left else e.pingers[other]? := by
  unfold Engine.cancelAlarm
  split
  · exact Engine.pingers_updatePinger hp (fun _ => left) other
  · exact Engine.pingers_updatePinger hp (fun _ => left) other

/-- **With its last call a pinger gives its receive up.** -/
theorem complete {hand : Hand} (hs : Sound hand e) (id : PingerId) (token : Token)
    (timer : TimerId) (code : ErrorCode) : Rests e (e.complete id token timer code) := by
  unfold Engine.complete
  split
  · exact refl e
  · next pinger call hfound =>
    obtain ⟨hp, -, -⟩ := Engine.callOf?_eq_some hfound
    let left := pinger.without token
    let taken := (e.updatePinger id fun _ => left).cancelAlarm (.call id token timer)
    have hleft : taken.pingers[id]? = some left := by rw [pingers_taken hp, if_pos rfl]
    have hothers : ∀ other, other ≠ id → taken.pingers[other]? = e.pingers[other]? := by
      intro other hne
      rw [pingers_taken hp, if_neg hne]
    dsimp only
    refine trans ?_ (answer _ _ _ _ _)
    split
    · have hgiven : Inward taken (taken.cancelSocket left.socket) := .endReceive _ _
      refine @of_others _ _ id (fun other hne => ?_) (fun socket other hw => ?_) ?_
      · rw [← hothers other hne, ← hgiven.pingers]
      · rw [← waiter?_taken left (.call id token timer)]
        exact hgiven.waits hw
      · rintro ⟨other, hother, -, -, -, hw⟩
        rw [hgiven.pingers] at hother
        obtain rfl := Option.some.inj (hleft.symm.trans hother)
        rw [Engine.cancelSocket, Engine.waiter?_endReceive_self] at hw
        cases hw
    · next hbusy =>
      refine of_others hothers (fun socket other hw => ?_) ?_
      · rwa [← waiter?_taken left (.call id token timer)]
      · rintro ⟨other, hother, hg, hprivate, hempty, hw⟩
        obtain rfl := Option.some.inj (hleft.symm.trans hother)
        -- with no calls, and a socket of its own, it gives nothing up only if its flag is down
        have hflag : pinger.receiving = false := by
          by_contra hraised
          refine hbusy ?_
          simp only [Bool.not_eq_false] at hraised
          simp [left, hempty, Pinger.isMultiplexed, hprivate, show left.receiving = true from hraised]
        have hport : pinger.port = .socket pinger.socket := by
          rw [Pinger.port, show pinger.mailbox = none from hprivate]
        refine hs.notWaiting_of_flag hp hg hflag pinger hp ?_
        rwa [waiter?_taken, ← show pinger.port = .socket left.socket from hport] at hw

theorem refreshSent (id : PingerId) (token : Token) (timer : TimerId) :
    Rests e (e.refreshSent id token timer) := by
  unfold Engine.refreshSent
  split
  · exact refl e
  · refine updatePinger (fun _ h => h) (fun _ => rfl) (fun _ => rfl) fun pinger _ => .inl ?_
    exact List.map_eq_nil_iff.1

theorem callSent {hand : Hand} (hs : Sound hand e) (id : PingerId) (token : Token)
    (timer : TimerId) (code : ErrorCode) : Rests e (e.callSent id token timer code) := by
  unfold Engine.callSent
  split
  · exact refreshSent _ _ _
  · dsimp only
    split
    · split
      · exact complete hs _ _ _ _
      · have hlogged : ∀ address message, Aside e (e.logAbout address .warn message) :=
          fun _ _ => .logAbout _ _ _
        exact (of_aside (hlogged _ _)).trans (complete (hs.aside (hlogged _ _)) _ _ _ _)
    · exact complete hs _ _ _ _

theorem failCalls (hnot : e.NotWaiting id) (pinger : Pinger) (code : ErrorCode) :
    Rests e (e.failCalls id pinger code) := by
  have hcleared : Rests e (e.updatePinger id fun pinger => { pinger with calls := [] }) :=
    updatePinger (fun _ h => h) (fun _ => rfl) (fun _ => rfl) fun _ _ => .inr hnot
  have hlogged : ∀ e : Engine, Rests e (if pinger.calls.isEmpty || code == .aborted then e
      else e.logAbout pinger.destination .error ("receive failed: " ++ code.message)) := by
    intro e
    split
    · exact refl e
    · exact of_aside (.logAbout _ _ _)
  unfold Engine.failCalls
  exact (hcleared.trans (hlogged _)).trans
    (foldl (fun _ _ => (cancelAlarm _).trans (answer _ _ _ _ _)) _ _)

/-! ## 5. What was received -/

theorem succeed (hnot : e.NotWaiting id) (call : Call) (reply : EchoReply) (received : Time) :
    Rests e (e.succeed id call reply received) := by
  let left := e.updatePinger id fun pinger => pinger.without call.token
  have hleft : Rests e left :=
    updatePinger (fun _ h => h) (fun _ => rfl) (fun _ => rfl) fun _ _ => .inr hnot
  have hstarted : Rests left (left.startReceive id) := startReceive _
  unfold Engine.succeed
  exact ((hleft.trans hstarted).trans (cancelAlarm _)).trans (answer _ _ _ _ _)

theorem pingerDatagram (hnot : e.NotWaiting id) (pinger : Pinger) (received : Time)
    (source : Address) (data : Bytes) :
    Rests e (e.pingerDatagram id pinger received source data) := by
  have hlogged : Inward e (e.logMalformed source (decode pinger.destination.family data source)) :=
    .logMalformed _ _
  unfold Engine.pingerDatagram
  dsimp only
  split
  · exact (of_inward hlogged).trans (startReceive _)
  · next call reply hmatched =>
    refine (of_inward hlogged).trans ?_
    have hnot' : Engine.NotWaiting
        (e.logMalformed source (decode pinger.destination.family data source)) id := by
      intro other hother hw
      rw [hlogged.pingers] at hother
      refine hnot other hother ?_
      have haside : Aside e
          (e.logMalformed source (decode pinger.destination.family data source)) :=
        .logMalformed _ _
      rwa [haside.receives.waiter?] at hw
    exact succeed hnot' _ _ _

theorem pingerReceived (hnot : e.NotWaiting id) (code : ErrorCode) (received : Time)
    (source : Address) (data : Bytes) :
    Rests e (e.pingerReceived id code received source data) := by
  unfold Engine.pingerReceived
  split
  · exact refl e
  · next pinger hp =>
    split
    · exact refl e
    · have hlowered : Rests e (e.updatePinger id fun pinger => { pinger with receiving := false }) :=
        updatePinger (fun _ h => h) (fun _ => rfl) (fun _ => rfl) fun _ _ => .inl fun h => h
      have hnot' : Engine.NotWaiting
          (e.updatePinger id fun pinger => { pinger with receiving := false }) id := by
        intro other hother hw
        rw [Engine.pingers_updatePinger hp, if_pos rfl] at hother
        obtain rfl := Option.some.inj hother
        refine hnot pinger hp ?_
        cases hport : pinger.port with
        | socket socket =>
          rw [show Pinger.port { pinger with receiving := false } = pinger.port from rfl, hport] at hw
          exact hw
        | box box =>
          rw [show Pinger.port { pinger with receiving := false } = pinger.port from rfl, hport] at hw
          exact hw
      dsimp only
      split
      · exact hlowered.trans (pingerDatagram hnot' _ _ _ _)
      · split
        · exact hlowered.trans (startReceive _)
        · exact hlowered.trans (failCalls hnot' _ _)

theorem receiveEnded {client : ReceiveClient} (hnot : ∀ id, client = .pinger id → e.NotWaiting id)
    (code : ErrorCode) (source : Address) (data : Bytes) :
    Rests e (e.receiveEnded client code source data) := by
  cases client with
  | raw tag => exact of_aside (.record rfl)
  | pinger id => exact pingerReceived (hnot id rfl) _ _ _ _
  | hub id => exact of_inward (.hubReceived _ _ _ _)

theorem socketReceived {client : ReceiveClient}
    (hnot : ∀ id, client = .pinger id → e.NotWaiting id) (socket : SocketId) (code : ErrorCode)
    (source : Address) (data : Bytes) :
    Rests e (e.socketReceived socket client code source data) := by
  unfold Engine.socketReceived
  split
  · exact receiveEnded hnot _ _ _
  · dsimp only
    split
    · exact receiveEnded hnot _ _ _
    · have hsame := Engine.pingers_failSocket (e := e) socket code
      have hwaiter := Engine.waiter?_failSocket (e := e) socket code
      have hfailed : Rests e (e.failSocket socket code) :=
        of_same hsame fun other id hw => by rwa [hwaiter] at hw
      refine hfailed.trans (receiveEnded (fun id hclient pinger hp => ?_) _ _ _)
      rw [hwaiter]
      exact hnot id hclient pinger (by rwa [← hsame])

/-! ## 6. Tasks -/

theorem pingTarget (sequence : UInt16) (index : Nat) : Rests e (e.pingTarget sequence index) := by
  unfold Engine.pingTarget
  split
  · exact refl e
  · refine trans (of_aside (.updateService fun service => ?_)) (ping _ _ _)
    have htransmit : ∀ target : Target,
        { target with transmitted := target.transmitted + 1 }.pinger = target.pinger :=
      fun _ => rfl
    exact Aside.map_pinger_modify htransmit _ _

theorem startRound : Rests e e.startRound := by
  unfold Engine.startRound
  split
  · exact refl e
  · split
    · exact refl e
    · next service _ _ =>
      have hpinged : Rests e ((List.range service.targets.size).foldl
          (Engine.pingTarget service.round.toUInt16) e) := foldl (fun _ _ => pingTarget _ _) _ _
      have hcounted : ∀ e : Engine, Rests e (e.updateService fun own =>
          { own with round := service.round + 1 }) := fun _ => of_aside (.updateService fun _ => rfl)
      refine (hpinged.trans (hcounted _)).trans ?_
      dsimp only
      split
      · exact refl _
      · exact of_aside (.setAlarm rfl)

theorem rang {hand : Hand} (hs : Sound hand e) (alarm : Alarm) (code : ErrorCode) :
    Rests e (e.rang alarm code) := by
  unfold Engine.rang
  split
  · exact refl e
  · split
    · exact complete hs _ _ _ _
    · exact of_aside (.wakeLimiter _)
    · exact startRound

theorem sendEnded {hand : Hand} (hs : Sound hand e) (client : SendClient) (code : ErrorCode)
    (count : Nat) : Rests e (e.sendEnded client code count) := by
  cases client with
  | raw tag => exact of_aside (.record rfl)
  | call id token timer => exact callSent hs _ _ _ _

/-- **No task makes a pinger idle.** -/
theorem perform {task : Task} (hs : Sound (Hand.of task) e) : Rests e (e.perform task) := by
  cases task with
  | rang alarm code => exact rang hs _ _
  | turnedAway sender =>
    cases sender with
    | datagram socket packet destination client => exact sendEnded hs _ _ _
    | labelled limiter label again => exact of_aside (.answerLabelled _ _ _ _)
  | sent client code count => exact sendEnded hs _ _ _
  | received socket client code source data =>
    refine socketReceived (fun id hclient => ?_) _ _ _ _
    exact hs.notWaiting_of_busy (congrArg some hclient)
  | noReceive client code =>
    refine receiveEnded (fun id hclient => ?_) _ _ _
    exact hs.notWaiting_of_busy (congrArg some hclient)
  | mail reader code letter =>
    cases reader with
    | labelled box label again =>
      have hrecorded : Rests e (e.record (.mail label code letter.time letter.packet)) :=
        of_aside (.record rfl)
      simp only [Engine.perform, Engine.mailArrived, Engine.answerReader]
      split
      · exact hrecorded
      · exact hrecorded.trans (of_inward (.askMail _ _))
    | pinger id =>
      simp only [Engine.perform, Engine.mailArrived]
      split
      · exact refl e
      · exact pingerReceived (hs.notWaiting_of_busy rfl) _ _ _ _
  | noPing id number caller code sequence => exact answer _ _ _ _ _
  | signalled code number => exact of_aside (.signalled _ _)

/-! ## 7. Parts -/

theorem updateSocket {socket : SocketId} {change : RawSocket → RawSocket}
    (hc : ∀ record, (change record).receiver = record.receiver) :
    Rests e (e.updateSocket socket change) := by
  refine of_same rfl fun other id hw => ?_
  rw [Engine.waiter?_updateSocket] at hw
  split at hw
  · next heq =>
    obtain rfl := Port.socket.inj heq
    simpa only [Engine.waiter?, Option.bind_map, Function.comp_def, hc] using hw
  · exact hw

theorem closeSocket (socket : SocketId) : Rests e (e.closeSocket socket) := by
  unfold Engine.closeSocket
  split
  · exact refl e
  · next record hrecord =>
    have hfailed : Rests e (if record.fatal.isError then e
        else e.updateSocket socket fun record => { record with fatal := .aborted }) := by
      split
      · exact refl e
      · exact updateSocket fun _ => rfl
    exact ((hfailed.trans (of_aside (.cancelLimiter _))).trans
      (of_inward (.endReceive _ _))).trans (updateSocket fun _ => rfl)

theorem removePinger (id : PingerId) : Rests e (e.removePinger id) := by
  have hgone : Rests e (e.updatePinger id fun pinger => { pinger with gone := true }) :=
    updatePinger (fun _ h => nomatch h) (fun _ => rfl) (fun _ => rfl) fun _ _ => .inl fun h => h
  unfold Engine.removePinger
  split
  · exact refl e
  · dsimp only
    split
    · exact hgone.trans (of_inward (.closeMail _ _))
    · exact hgone.trans (closeSocket _)

theorem sweep : Rests e e.sweep := by
  have hreleased : ∀ released, Rests e { e with released } := fun _ => of_same rfl fun _ _ h => h
  exact (hreleased _).trans (foldl (fun _ id => removePinger id) _ _)

/-- Opening a socket makes nobody wait. -/
theorem waits_openSocket {settings : SocketSettings} {socket : SocketId} {id : PingerId}
    (hw : (e.openSocket settings).1.waiter? (.socket socket) = some (.pinger id)) :
    e.waiter? (.socket socket) = some (.pinger id) := by
  obtain ⟨record, hidle, haside, -⟩ := e.openSocket_grows settings
  rw [haside.receives.waiter?] at hw
  rcases Array.getElem?_push_cases e.sockets record socket with hsame | ⟨-, hnew⟩
  · simpa only [Engine.waiter?, hsame] using hw
  · simp [Engine.waiter?, hnew, hidle.receiver] at hw

theorem openSocket (settings : SocketSettings) : Rests e (e.openSocket settings).1 := by
  obtain ⟨record, -, haside, -⟩ := e.openSocket_grows settings
  exact of_same haside.pingers fun _ _ => waits_openSocket

theorem openHub (settings : SocketSettings) : Rests e (e.openHub settings).1 := by
  have hopened : Rests e (e.openSocket settings).1 := openSocket settings
  unfold Engine.openHub
  split
  · next hopen => rwa [hopen] at hopened
  · next hopen =>
    rw [hopen] at hopened
    exact hopened.trans (of_same rfl fun _ _ h => h)

/-- A pinger that is made waits nowhere, since only those wait that exist. -/
theorem addPinger (hexist : ∀ (socket : SocketId) (id : PingerId),
      e.waiter? (.socket socket) = some (.pinger id) → id < e.pingers.size)
    (destination : Address) (socket : SocketId) (mailbox : Option MailboxId) :
    Rests e (e.addPinger destination socket mailbox).1 := by
  rintro id ⟨pinger, hp, hg, hprivate, hcalls, hw⟩
  have hw : e.waiter? (.socket pinger.socket) = some (.pinger id) := hw
  rcases Array.getElem?_push_cases e.pingers
    { destination, identifier := e.nextIdentifier, socket, mailbox } id with hsame | ⟨hnone, -⟩
  · exact ⟨pinger, hsame ▸ hp, hg, hprivate, hcalls, hw⟩
  · exact absurd (hexist _ _ hw) (Nat.not_lt.2 (Array.getElem?_eq_none_iff.1 hnone))

theorem exist_of_wired (hw : Wired e) (socket : SocketId) (id : PingerId)
    (hwaits : e.waiter? (.socket socket) = some (.pinger id)) : id < e.pingers.size := by
  have hport : e.port? (.pinger id) = some (.socket socket) := hw.waits _ _ hwaits
  obtain ⟨pinger, hp, -⟩ := Option.map_eq_some_iff.1 hport
  exact (Array.getElem?_eq_some_iff.1 hp).1

theorem createPinger (hw : Wired e) (destination : Address) (settings : SocketSettings) :
    Rests e (e.createPinger destination settings).1 := by
  have hopened : Rests e
      (e.openSocket { settings with family := destination.family }).1 := openSocket _
  obtain ⟨record, -, haside, -⟩ :=
    e.openSocket_grows { settings with family := destination.family }
  unfold Engine.createPinger
  split
  · next hopen => rwa [hopen] at hopened
  · next opened socket hopen =>
    rw [hopen] at hopened haside
    have hpingers : opened.pingers = e.pingers := haside.pingers
    refine hopened.trans (addPinger (fun other id hwaits => ?_) _ _ _)
    rw [hpingers]
    have hwaits : (e.openSocket { settings with family := destination.family }).1.waiter?
        (.socket other) = some (.pinger id) := by
      rw [hopen]
      exact hwaits
    exact exist_of_wired hw other id (waits_openSocket hwaits)

theorem register (hw : Wired e) (id : HubId) (destination : Address) :
    Rests e (e.register id destination).1 := by
  unfold Engine.register
  split
  · exact refl e
  · next hub _ =>
    split
    · exact refl e
    · split
      · exact refl e
      · let boxed := (e.addMailbox 100).1
        have hinward : Inward boxed
            ((boxed.enterRegistration id hub destination e.mailboxes.size).startHub id) :=
          (Inward.enterRegistration _ _ _ _).trans (.startHub _)
        have hboxed : Rests e boxed := of_same rfl fun _ _ h => h
        refine (hboxed.trans (of_inward hinward)).trans (addPinger (fun socket other hwaits => ?_) _ _ _)
        rw [hinward.pingers]
        exact exist_of_wired hw socket other (hinward.waits hwaits)

theorem closeHub (id : HubId) : Rests e (e.closeHub id) := by
  unfold Engine.closeHub
  split
  · exact refl e
  · exact (of_inward (.closeRegistrations _ _ _)).trans (closeSocket _)

theorem outer (hs : Sound {} e) (h : Engine.Outer e e') : Rests e e' := by
  cases h with
  | openSocket settings => exact openSocket settings
  | openHub settings => exact openHub settings
  | createPinger destination settings => exact createPinger hs.wired destination settings
  | register id destination => exact register hs.wired id destination
  | configure hp hg alike receiving =>
    rintro other ⟨pinger', hp', hg', hprivate, hempty, hw⟩
    have hw : e.waiter? (.socket pinger'.socket) = some (.pinger other) := hw
    rw [Engine.pingers_updatePinger hp] at hp'
    split at hp'
    · next heq =>
      subst heq
      obtain rfl := Option.some.inj hp'
      rw [alike.mailbox] at hprivate
      rw [alike.calls] at hempty
      rw [alike.socket] at hw
      exact ⟨_, hp, hg, hprivate, hempty, hw⟩
    · exact ⟨pinger', hp', hg', hprivate, hempty, hw⟩
  | ping hk sequence caller => exact ping _ _ _
  | closeSocket hraw => exact closeSocket _
  | closeHub id => exact closeHub id
  | releasePinger hk ht =>
    have hreleased : ∀ released, Rests e { e with released } := fun _ => of_same rfl fun _ _ h => h
    exact (hreleased _).trans sweep
  | cancelSocket hraw => exact of_inward (.endReceive _ _)
  | deliver source data => exact of_inward (.deliver _ _)
  | schedule time source data => exact of_same rfl fun _ _ h => h
  | failReceives family errno only => exact of_inward (.failReceives _ _ _)
  | logLevel level => exact of_same rfl fun _ _ h => h
  | logAbout address severity message => exact of_inward (.logAbout _ _ _)
  | serve service => exact of_same rfl fun _ _ h => h

end Rests

namespace Session

variable {s s' : Session}

/-! ## 8. All runs -/

theorem Does.rests {deed : Deed} (h : Does s deed s') (hs : s.Sound) :
    Rests s.engine s'.engine := by
  have he := hs.engine
  have hsame : ∀ {e e' : Engine}, e'.pingers = e.pingers → e'.sockets = e.sockets → Rests e e' :=
    fun hp hsockets => .of_same hp fun _ _ hw => by simpa only [Engine.waiter?, hsockets] using hw
  cases h with
  | step step hrun =>
    by_cases hraw : step.isRaw
    · cases step with
      | send name destination data tag =>
        simp only [Session.perform, Session.use]
        split
        · exact .refl _
        · split
          · exact .of_aside (.submit _ _ _ _)
          · exact .refl _
      | receive name room tag =>
        simp only [Session.perform, Session.use]
        split
        · exact .refl _
        · split
          · exact .of_inward (.receive (by simp) _)
          · exact .refl _
      | _ => cases hraw
    · exact (hs.perform_outers hrun (by simpa using hraw)).lift .refl .trans .outer
  | @task front back task hready =>
    have htaken : Rests s.engine { s.engine with ready := front ++ back } := hsame rfl rfl
    exact (htaken.trans (.perform (he.consume hready).1)).trans .sweep
  | @item front back time item htimeline =>
    have htaken : Rests s.engine { s.engine with timeline := front ++ back } := hsame rfl rfl
    refine (htaken.trans ?_).trans .sweep
    cases item with
    | ring alarm => exact hsame rfl rfl
    | ready task => exact hsame rfl rfl
    | deliver source data => exact .of_inward (.deliver _ _)
    | signal number =>
      simp only [Engine.happen]
      split
      · exact hsame rfl rfl
      · exact .refl _
  | clock now => exact hsame rfl rfl
  | network network => exact hsame rfl rfl
  | openService config =>
    exact (Engine.Outers.openService he hs.remembers config).lift .refl .trans .outer
  | startService =>
    have hwaits : Aside s.engine { s.engine with awaitsSignal := true } := .awaitsSignal true
    exact (Rests.of_aside (hwaits.trans (.logDated _ _))).trans .startRound
  | endService => exact .of_aside .endService

/-- **No pinger ever idles.** -/
theorem Reachable.not_idles (hr : Reachable s) (id : PingerId) : ¬ s.engine.Idles id := by
  obtain ⟨network, logLevel, logFile, files, signals, past, hrun⟩ := hr
  have hall : ∀ {s s' : Session} {past : List (Session × Deed)}, Run s past s' → s.Sound →
      Rests s.engine s'.engine := by
    intro s s' past hrun hs
    induction hrun with
    | nil => exact .refl _
    | cons head rest ih => exact (head.rests hs).trans (ih (head.leads hs).sound)
  intro hidles
  obtain ⟨pinger, hp, -⟩ :=
    hall hrun (sound_fresh network logLevel logFile files signals) id hidles
  have hsignals : Aside ({ network, logLevel, logFile, files } : Engine)
      (Session.fresh network logLevel logFile files signals).engine :=
    .foldl (fun _ _ => .schedule rfl) _ _
  have hnone : (Session.fresh network logLevel logFile files signals).engine.pingers = #[] :=
    hsignals.pingers
  rw [hnone] at hp
  cases hp

/-- What a pinger has outstanding is what its flag says. -/
theorem Sound.outstanding_eq (hs : s.Sound) {id : PingerId} {pinger : Pinger}
    (hp : s.engine.pingers[id]? = some pinger) (hg : pinger.gone = false) :
    s.engine.outstanding (.pinger id) = if pinger.receiving then 1 else 0 := by
  simpa using hs.engine.counted.exact (.pinger id) _ (Engine.listens?_pinger hp hg)

/-- **With nothing ready, a pinger with a socket of its own has a receive exactly while it has
calls.** -/
theorem Reachable.receiving_iff (hr : Reachable s) {id : PingerId} {pinger : Pinger}
    (hp : s.engine.pingers[id]? = some pinger) (hg : pinger.gone = false)
    (hprivate : pinger.mailbox = none) (hready : s.engine.ready = []) :
    pinger.receiving = true ↔ pinger.calls ≠ [] := by
  have hs := hr.sound
  constructor
  · intro hflag hempty
    have hport : pinger.port = .socket pinger.socket := by rw [Pinger.port, hprivate]
    have hposted : s.engine.posted (.pinger id) = 0 := by simp [Engine.posted, hready]
    have hout := hs.outstanding_eq hp hg
    rw [hflag, Engine.outstanding, hposted] at hout
    -- the receive waits, so the pinger idles
    have hwaits : s.engine.waiter? pinger.port = some (.pinger id) := by
      by_contra hno
      have hzero : s.engine.waiting (.pinger id) = 0 := by
        simp only [Engine.waiting, Engine.port?_pinger hp, Option.bind_some, if_neg hno]
      rw [hzero] at hout
      cases hout
    exact hr.not_idles id ⟨pinger, hp, hg, hprivate, hempty, hport ▸ hwaits⟩
  · exact hs.engine.settled (.pinger id) (by simp) pinger hp hg

/-- **The receive of a pinger.**

Of every pinger that ever was at most one receive is outstanding, and it waits at the port of the
pinger if it waits anywhere.  While a pinger lives, its flag is
up exactly when one is outstanding: waiting at the pinger's port, its own socket or its mailbox, or
with its end among the ready tasks.  A pinger that has calls has its flag up; one with a socket of
its own has it up only then, as soon as nothing is ready.

No receive takes the place of another.  Pinging, and performing a task, are rows of acts, and at
each point of such a row nobody waits at the port of a pinger whose flag is down, which is when a
receive may be started there. -/
theorem pinger_receives_once (hr : Reachable s) :
    (∀ (id : PingerId) (pinger : Pinger), s.engine.pingers[id]? = some pinger →
      s.engine.outstanding (.pinger id) ≤ 1 ∧
      (∀ port, s.engine.waiter? port = some (.pinger id) → port = pinger.port) ∧
      (pinger.gone = false →
        (pinger.receiving = true ↔ s.engine.outstanding (.pinger id) = 1) ∧
        (pinger.calls ≠ [] → pinger.receiving = true) ∧
        (pinger.mailbox = none → s.engine.ready = [] →
          (pinger.receiving = true ↔ pinger.calls ≠ [])))) ∧
    (∀ hand e, Acts {} s.engine hand e → e.Unclaimed) ∧
    (∀ id, s.engine.Kept id → ∀ sequence caller,
      Acts {} s.engine {} (s.engine.ping id sequence caller)) ∧
    (∀ front task back, s.engine.ready = front ++ task :: back →
      let taken : Engine := { s.engine with ready := front ++ back }
      Acts (Hand.of task) (taken.offered task) { may := task.may } (taken.perform task) ∧
        ∀ hand e, Acts (Hand.of task) (taken.offered task) hand e → e.Unclaimed) := by
  have hs := hr.sound
  have he := hs.engine
  refine ⟨fun id pinger hp => ⟨?_, fun port hw => ?_, fun hg => ⟨?_, ?_, hr.receiving_iff hp hg⟩⟩,
    fun hand e hacts => (hacts.sound he).nobody_waits, fun id hk sequence caller => ?_,
    fun front task back hready => ?_⟩
  · simpa using he.counted.single (.pinger id) _ (Engine.port?_pinger hp)
  · exact (he.wired.waits port _ hw).eq_port (Engine.port?_pinger hp)
  · rw [hs.outstanding_eq hp hg]
    cases pinger.receiving <;> simp
  · exact he.settled (.pinger id) (by simp) pinger hp hg
  · refine Acts.ping he (fun pinger hp => ?_) _ _
    obtain ⟨⟨pinger', hp', hg⟩, -⟩ := hk
    obtain rfl := Option.some.inj (hp.symm.trans hp')
    exact hg
  · obtain ⟨hconsumed, htaken⟩ := he.consume hready
    have hoffered := hconsumed.passes (Engine.passes_offered hconsumed.wired task)
    exact ⟨Acts.perform hconsumed htaken, fun hand e hacts => (hacts.sound hoffered).nobody_waits⟩

/-- A pinger with a socket of its own begins to receive with its first call. -/
theorem pinger_receives_once_of_one_call :
    let created := ((fresh {} 1 none [] []).perform
      (.create "pinger" (.ofOctets 10 0 0 1) { family := .v4 })).1
    let pinged := (created.perform (.ping "pinger" 1 "call" [])).1
    created.engine.outstanding (.pinger 0) ≤ 1 ∧ pinged.engine.outstanding (.pinger 0) = 1 := by
  intro created pinged
  have hcreated : Reachable created := (Reachable.fresh _ _ _ _ _).perform _
  have hpinged : Reachable pinged := hcreated.perform _
  have hfirst : (created.engine.pingers[0]?.map Pinger.receiving) = some false := by rfl
  have hsecond : (pinged.engine.pingers[0]?.map fun pinger => (pinger.receiving, pinger.gone))
      = some (true, false) := by decide +kernel
  obtain ⟨before, hbefore, -⟩ := Option.map_eq_some_iff.1 hfirst
  obtain ⟨pinger, hp, hflags⟩ := Option.map_eq_some_iff.1 hsecond
  obtain ⟨hflag, hg⟩ := Prod.mk.inj hflags
  exact ⟨((pinger_receives_once hcreated).1 0 before hbefore).1,
    (((pinger_receives_once hpinged).1 0 pinger hp).2.2 hg).1.1 hflag⟩

end Session

end IcmpEcho
