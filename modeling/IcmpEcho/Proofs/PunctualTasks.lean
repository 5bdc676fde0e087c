/-
# Tasks keep times and codes in order

The functions that ask for pings, run hubs and the service, and end pings keep an engine `Punctual`.
A ping that is entered is the one place where a timer of a call is set: for the time to which the
ping wants to wait (`Punctual.enterCall`).

**A task that is fair and an item that happens in time keep an engine punctual**
(`Punctual.perform`, `Punctual.happen`), and so does a clock that goes on (`Punctual.clock`).
-/
import IcmpEcho.Proofs.PingerActs
import IcmpEcho.Proofs.Punctual

namespace IcmpEcho

namespace Engine

/-! ## 1. Pinging -/

/-- Asking for a ping gives it a new number, so what is due of the earlier ones stays due. -/
theorem Due.noteAsked {e : Engine} {timer : TimerId} {time : Time} (h : e.Due timer time)
    (id : PingerId) (pinger : Pinger) (token : Token) (caller : Caller) :
    (e.noteAsked id pinger token caller).Due timer time := by
  obtain ⟨hold, hdue⟩ := h
  refine ⟨Nat.lt_succ_of_lt hold, ?_⟩
  intro ping hping hnumber
  rcases List.mem_cons.1 hping with rfl | hmem
  · exact absurd hnumber (Nat.ne_of_gt hold)
  · exact hdue ping hmem hnumber

/-- A timer that may ring may still ring later. -/
theorem Due.later {e : Engine} {timer : TimerId} {time time' : Time} (h : e.Due timer time)
    (hle : time ≤ time') : e.Due timer time' := by
  obtain ⟨hold, hdue⟩ := h
  refine ⟨hold, ?_⟩
  intro ping hping hnumber
  exact Int.le_trans (hdue ping hping hnumber) hle

/-- A task stays fair while timers that are due stay due. -/
theorem Fair.mono {e e' : Engine} (hdue : ∀ timer, e.Due timer e.now → e'.Due timer e'.now)
    {task : Task} (h : e.Fair task) : e'.Fair task := by
  cases task with
  | rang alarm code =>
    cases alarm with
    | call id token timer => exact fun hne => hdue timer (h hne)
    | limiter limiter => trivial
    | round => trivial
  | _ => exact h

/-- So does an item. -/
theorem OnTime.mono {e e' : Engine} {time time' : Time}
    (hdue : ∀ timer, e.Due timer time → e'.Due timer time') {item : Happening}
    (h : e.OnTime time item) : e'.OnTime time' item := by
  cases item with
  | ring alarm =>
    cases alarm with
    | call id token timer => exact hdue timer h
    | limiter limiter => trivial
    | round => trivial
  | ready task =>
    cases task with
    | sent client code count => exact h
    | _ => exact h.elim
  | deliver source data => trivial
  | signal number => trivial

namespace Punctual

variable {start : Time} {e : Engine} {id : PingerId} {pinger : Pinger}

/-- A pinger changes, and no call of it left before it was asked for, or leaves later than now. -/
theorem modifyPinger (h : Punctual start e) {change : Pinger → Pinger}
    (hc : ∀ pinger, e.pingers[id]? = some pinger →
      ∀ call ∈ (change pinger).calls, call.queued ≤ call.sent ∧ call.sent ≤ e.now) :
    Punctual start (e.updatePinger id change) := by
  refine { h with calls := ?_ }
  intro other pinger hpinger
  simp only [Engine.updatePinger, Array.getElem?_modify] at hpinger
  split at hpinger
  · next hother =>
    obtain ⟨old, hold, rfl⟩ := Option.map_eq_some_iff.1 hpinger
    exact hc old (hother ▸ hold)
  · exact h.calls other pinger hpinger

/-- A pinger that changes gets no new calls. -/
theorem updatePinger (h : Punctual start e) {change : Pinger → Pinger}
    (hc : ∀ pinger, e.pingers[id]? = some pinger → (change pinger).calls ⊆ pinger.calls) :
    Punctual start (e.updatePinger id change) := by
  refine h.modifyPinger ?_
  intro pinger hp call hcall
  exact h.calls id pinger hp call (hc pinger hp hcall)

/-- A new pinger has no calls. -/
theorem addPinger (h : Punctual start e) (destination : Address) (socket : SocketId)
    (mailbox : Option MailboxId) : Punctual start (e.addPinger destination socket mailbox).1 := by
  refine { h with calls := ?_ }
  intro other pinger hp
  rcases Array.getElem?_push_cases e.pingers
      { destination, identifier := e.nextIdentifier, socket, mailbox } other with hsame | ⟨-, hnew⟩
  · exact h.calls other pinger (hsame ▸ hp)
  · obtain rfl := Option.some.inj (hnew.symm.trans hp)
    intro call hcall
    cases hcall

/-- Opening a socket sets no timer, and the pinger on it is new. -/
theorem createPinger (h : Punctual start e) (destination : Address) (settings : SocketSettings) :
    Punctual start (e.createPinger destination settings).1 := by
  have hopened := h.openSocket { settings with family := destination.family }
  unfold Engine.createPinger
  split
  · next hopen =>
    rw [hopen] at hopened
    exact hopened
  · next hopen =>
    rw [hopen] at hopened
    exact hopened.addPinger _ _ _

/-- To receive is to wait: no call, timer or time changes. -/
theorem startReceive (h : Punctual start e) (id : PingerId) :
    Punctual start (e.startReceive id) := by
  unfold Engine.startReceive
  split
  · exact h
  · split
    · exact h
    · have hflag : Punctual start
          (e.updatePinger id fun pinger => { pinger with receiving := true }) :=
        h.updatePinger fun _ _ => List.Subset.refl _
      dsimp only
      split
      · exact hflag.askMail _ _
      · exact hflag.receive _ _ _

/-- A ping that is noted has a number of its own, below the next one. -/
theorem noteAsked (h : Punctual start e) (id : PingerId) (pinger : Pinger) (token : Token)
    (caller : Caller) : Punctual start (e.noteAsked id pinger token caller) := by
  have hdue : ∀ timer time, e.Due timer time →
      (e.noteAsked id pinger token caller).Due timer time := by
    intro timer time hdue
    exact hdue.noteAsked id pinger token caller
  refine { h with pings := ?_, timeline := ?_, ready := ?_ }
  · intro ping hping
    rcases List.mem_cons.1 hping with rfl | hold
    · exact Nat.lt_succ_self _
    · exact Nat.lt_succ_of_lt (h.pings ping hold)
  · intro entry hentry
    exact (h.timeline entry hentry).mono fun timer => hdue timer entry.1
  · intro task htask
    exact (h.ready task htask).mono fun timer => hdue timer e.now

/-- The task that refuses a ping carries the code of a fault. -/
theorem refuse (h : Punctual start e) (id : PingerId) (pinger : Pinger) (token : Token)
    (caller : Caller) {fault : PingFault} (hfault : fault.code.Plain) :
    Punctual start (e.refuse id pinger token caller fault) := by
  refine Punctual.post (h.noteAsked id pinger token caller) ?_
  exact hfault

/-- A call is entered now, and its timer is set for the time to which its ping wants to wait. -/
theorem enterCall (h : Punctual start e) (id : PingerId) (pinger : Pinger) (token : Token)
    (caller : Caller) : Punctual start (e.enterCall id pinger token caller) := by
  have hasked := h.noteAsked id pinger token caller
  let call : Call := { token, queued := e.now, sent := e.now, timer := e.nextPing, caller }
  have hentered : Punctual start ((e.noteAsked id pinger token caller).updatePinger id fun pinger =>
      { pinger with calls := call.insert pinger.calls }) := by
    refine hasked.modifyPinger ?_
    intro other hother entered hmem
    rcases Call.mem_insert.1 hmem with rfl | hold
    · exact ⟨Int.le_refl e.now, Int.le_refl e.now⟩
    · exact hasked.calls id other hother entered hold
  refine Punctual.ringAfter hentered ?_
  refine ⟨Nat.lt_succ_self _, ?_⟩
  intro ping hping hnumber
  rcases List.mem_cons.1 hping with rfl | hold
  · exact Int.le_refl _
  · exact absurd hnumber (Nat.ne_of_lt (h.pings ping hold))

/-- **To ask for a ping keeps an engine punctual**, whether it is entered or refused. -/
theorem ping (h : Punctual start e) (id : PingerId) (sequence : UInt16) (caller : Caller) :
    Punctual start (e.ping id sequence caller) := by
  unfold Engine.ping
  split
  · exact h
  · next pinger hp =>
    dsimp only
    split
    · next fault hfault =>
      obtain ⟨-, rfl⟩ := encodeRequest_eq_error_iff.1 hfault
      exact h.refuse _ _ _ _ (.fault (by decide))
    · split
      · exact h.refuse _ _ _ _ (.fault (by decide))
      · exact ((h.enterCall _ _ _ _).startReceive _).submit _ _ _ _

/-! ## 2. Hubs -/

/-- No time is kept in a hub. -/
theorem updateHub (h : Punctual start e) (hub : HubId) (change : Hub → Hub) :
    Punctual start (e.updateHub hub change) := { h with }

theorem openHub (h : Punctual start e) (settings : SocketSettings) :
    Punctual start (e.openHub settings).1 := by
  have hopened := h.openSocket settings
  unfold Engine.openHub
  split
  · next hopen =>
    rw [hopen] at hopened
    exact hopened
  · next hopen =>
    rw [hopen] at hopened
    exact { hopened with }

theorem receiveForHub (h : Punctual start e) (id : HubId) (hub : Hub) :
    Punctual start (e.receiveForHub id hub) := h.receive _ _ _

/-- Every mailbox is closed by the one reason that is given, and this is what its reader is told. -/
theorem closeRegistrations (h : Punctual start e) (id : HubId) (hub : Hub) {reason : ErrorCode}
    (hreason : reason.Plain) : Punctual start (e.closeRegistrations id hub reason) :=
  foldl (fun _ entry h => h.closeMail entry.2 hreason) _ (h.updateHub _ _)

/-- A hub that starts on a failed socket passes on what the socket failed of. -/
theorem startHub (h : Punctual start e) (id : HubId) : Punctual start (e.startHub id) := by
  unfold Engine.startHub
  split
  · exact h
  · dsimp only
    split
    · exact h.closeRegistrations _ _ (h.fatalOf _)
    · split
      · exact h
      · exact ((h.updateHub _ _).logDated _ _).receiveForHub _ _

/-- A hub that fails closes its mailboxes by the code it was told. -/
theorem failHub (h : Punctual start e) (id : HubId) (hub : Hub) {code : ErrorCode}
    (hcode : code.Plain) :
    Punctual start (e.failHub id hub code) := by
  have hclosed := (h.updateHub id fun hub => { hub with running := false }).closeRegistrations id
    hub hcode
  unfold Engine.failHub
  dsimp only
  split
  · exact hclosed
  · exact hclosed.logDated _ _

/-- A hub that gives up a mailbox closes it by a fault of its own. -/
theorem endRegistration (h : Punctual start e) (id : HubId) (hub : Hub) (source : Address)
    (box : MailboxId) : Punctual start (e.endRegistration id hub source box) := by
  have hclosed : Punctual start (e.closeMail box PingFault.registrationClosed.code) :=
    h.closeMail box (.fault (by decide))
  unfold Engine.endRegistration
  dsimp only
  split
  · exact ((hclosed.updateHub _ _).logAbout _ _ _).logDated _ _
  · exact ((hclosed.updateHub _ _).logAbout _ _ _).receiveForHub _ _

/-- **What a hub is told keeps an engine punctual**, if it is told a code that may be passed on. -/
theorem hubReceived (h : Punctual start e) (id : HubId) {code : ErrorCode} (hcode : code.Plain)
    (source : Address) (data : Bytes) : Punctual start (e.hubReceived id code source data) := by
  unfold Engine.hubReceived
  split
  · exact h
  · split
    · exact h.failHub _ _ hcode
    · split
      · exact h.receiveForHub _ _
      · next box hbox =>
        have hoffered := h.offerMail box { time := e.now, packet := data }
        split
        · next hoffer =>
          rw [hoffer] at hoffered
          exact hoffered.receiveForHub _ _
        · next hoffer =>
          rw [hoffer] at hoffered
          exact hoffered.endRegistration _ _ _ _

theorem enterRegistration (h : Punctual start e) (id : HubId) (hub : Hub) (destination : Address)
    (box : MailboxId) : Punctual start (e.enterRegistration id hub destination box) := by
  have hentered := h.updateHub id fun hub =>
    { hub with registry := Hub.enter destination box hub.registry }
  unfold Engine.enterRegistration
  dsimp only
  split
  · exact hentered
  · exact (hentered.closeMail _ (.fault (by decide))).logAbout _ _ _

/-- A registration adds a mailbox and a pinger, and may replace a mailbox. -/
theorem register (h : Punctual start e) (id : HubId) (destination : Address) :
    Punctual start (e.register id destination).1 := by
  unfold Engine.register
  split
  · exact h
  · split
    · exact h
    · split
      · exact h
      · exact (((h.addMailbox 100).enterRegistration _ _ _ _).startHub _).addPinger _ _ _

/-- A hub that is closed passes on that it was aborted. -/
theorem closeHub (h : Punctual start e) (id : HubId) : Punctual start (e.closeHub id) := by
  unfold Engine.closeHub
  split
  · exact h
  · exact (h.closeRegistrations _ _ (.system 125)).closeSocket _

/-! ## 3. The service -/

theorem updateService (h : Punctual start e) (change : Service → Service) :
    Punctual start (e.updateService change) := { h with }

theorem write (h : Punctual start e) (lines : List String) :
    Punctual start (e.write lines) := { h with }

theorem stop (h : Punctual start e) : Punctual start e.stop := { h with }

theorem cancelSignal (h : Punctual start e) : Punctual start e.cancelSignal := by
  unfold Engine.cancelSignal
  split
  · refine Punctual.post ?_ trivial
    exact { h with }
  · exact h

/-- The timer that is cancelled is that of the rounds, not that of a call. -/
theorem stopService (h : Punctual start e) : Punctual start e.stopService :=
  (((h.updateService _).cancelAlarm _).cancelSignal).stop

theorem finishIfIdle (h : Punctual start e) : Punctual start e.finishIfIdle := by
  unfold Engine.finishIfIdle
  split
  · exact h
  · split
    · exact h.stopService
    · exact h

theorem targetAnswered (h : Punctual start e) (index : Nat) (code : ErrorCode)
    (result : PingResult) :
    Punctual start (e.targetAnswered index code result) := by
  unfold Engine.targetAnswered
  split
  · exact h
  · exact ((h.updateService _).write _).finishIfIdle

theorem pingTarget (h : Punctual start e) (sequence : UInt16) (index : Nat) :
    Punctual start (Engine.pingTarget sequence e index) := by
  unfold Engine.pingTarget
  split
  · exact h
  · exact (h.updateService _).ping _ _ _

/-- **A round keeps an engine punctual**: it pings, and sets the timer of the next round. -/
theorem startRound (h : Punctual start e) : Punctual start e.startRound := by
  unfold Engine.startRound
  split
  · exact h
  · split
    · exact h
    · next service hservice hstopped =>
      have hpinged := foldl (fun e index h => h.pingTarget service.round.toUInt16 index)
        (List.range service.targets.size) h
      dsimp only
      split
      · exact hpinged.updateService _
      · exact (hpinged.updateService _).setRoundAlarm _

theorem hubFor (h : Punctual start e) (service : Service) (family : Family) :
    Punctual start (e.hubFor service family).1 := by
  unfold Engine.hubFor
  dsimp only
  split
  · exact h
  · split
    · exact h
    · next settings hsettings =>
      have hopened := h.openHub settings
      split
      · next hopen =>
        rw [hopen] at hopened
        exact hopened
      · next hopen =>
        rw [hopen] at hopened
        exact hopened

/-- A pinger for a target is registered, or has a socket of its own. -/
theorem pingerFor (h : Punctual start e) (service : Service) (address : Address) :
    Punctual start (e.pingerFor service address).1 := by
  unfold Engine.pingerFor
  split
  · have hhub := h.hubFor service address.family
    split
    · next heq =>
      rw [heq] at hhub
      exact hhub
    · next made service' hub heq =>
      rw [heq] at hhub
      have hregistered := hhub.register hub address
      split
      · next heq' =>
        rw [heq'] at hregistered
        exact hregistered
      · next heq' =>
        rw [heq'] at hregistered
        exact hregistered
  · split
    · exact h
    · next settings hsettings =>
      have hcreated := h.createPinger address settings
      split
      · next heq =>
        rw [heq] at hcreated
        exact hcreated
      · next heq =>
        rw [heq] at hcreated
        exact hcreated

theorem addTarget (h : Punctual start e) (service : Service) (name : String) :
    Punctual start (e.addTarget service name).1 := by
  unfold Engine.addTarget
  split
  · exact h
  · next address hresolve =>
    have hmade := h.pingerFor service address
    split
    · next heq =>
      rw [heq] at hmade
      exact hmade
    · next heq =>
      rw [heq] at hmade
      refine Punctual.logAbout (Punctual.updatePinger hmade ?_) _ _ _
      exact fun _ _ => List.Subset.refl _

theorem addTargets (names : List String) :
    ∀ {e : Engine} (_ : Punctual start e) (service : Service),
      Punctual start (e.addTargets service names).1 := by
  induction names with
  | nil =>
    intro e h service
    exact h
  | cons name rest ih =>
    intro e h service
    have hadded := h.addTarget service name
    unfold Engine.addTargets
    split
    · next heq =>
      rw [heq] at hadded
      exact hadded
    · next heq =>
      rw [heq] at hadded
      exact ih hadded _

/-- **To open a service keeps an engine punctual**, also when it fails on the way. -/
theorem openService (h : Punctual start e) (config : Config) :
    Punctual start (e.openService config).1 := by
  have hlevel : Punctual start { e with logLevel := config.logLevel } := { h with }
  have hadded := addTargets config.targets hlevel { config }
  unfold Engine.openService
  dsimp only
  split
  · exact hlevel
  · split
    · next heq =>
      rw [heq] at hadded
      exact hadded
    · next heq =>
      rw [heq] at hadded
      exact { hadded with }

theorem startService (h : Punctual start e) : Punctual start e.startService := by
  have hwaits : Punctual start { e with awaitsSignal := true } := { h with }
  exact (hwaits.logDated _ _).startRound

theorem endService (h : Punctual start e) : Punctual start e.endService := (h.write _).logDated _ _

theorem signalled (h : Punctual start e) (code : ErrorCode) (number : Int) :
    Punctual start (e.signalled code number) := by
  unfold Engine.signalled
  split
  · exact h
  · exact (h.logDated _ _).stopService

/-! ## 4. How pings end -/

/-- Whoever is told is told now. -/
theorem tell (h : Punctual start e) (number : PingId) (caller : Caller) (code : ErrorCode)
    (result : PingResult) : Punctual start (e.tell number caller code result) := by
  have hnoted : Punctual start
      { e with
        endings := { ping := number, time := e.now, code, result } :: e.endings } := { h with }
  unfold Engine.tell
  dsimp only
  split
  · exact hnoted.targetAnswered _ _ _
  · exact hnoted.record _

/-- A caller that is told may ask again from inside. -/
theorem answer (h : Punctual start e) (id : PingerId) (number : PingId) (caller : Caller)
    (code : ErrorCode) (result : PingResult) :
    Punctual start (e.answer id number caller code result) := by
  have htold := h.tell number caller code result
  unfold Engine.answer
  dsimp only
  split
  · split
    · exact htold.ping _ _ _
    · exact htold
  · exact htold

/-- A pinger without a call has no call that it did not have. -/
theorem without_subset (pinger : Pinger) (token : Token) :
    (pinger.without token).calls ⊆ pinger.calls := List.filter_sublist.subset

/-- **A call that ends keeps an engine punctual**, whatever ended it: it is taken out, and its timer
is cancelled. -/
theorem complete (h : Punctual start e) (id : PingerId) (token : Token) (timer : TimerId)
    (code : ErrorCode) : Punctual start (e.complete id token timer code) := by
  unfold Engine.complete
  split
  · exact h
  · next pinger call hfound =>
    have htaken : Punctual start (e.updatePinger id fun _ => pinger.without token) := by
      refine h.updatePinger ?_
      intro other hother
      obtain rfl := Option.some.inj ((Engine.callOf?_eq_some hfound).1.symm.trans hother)
      exact without_subset pinger token
    dsimp only
    split
    · exact ((htaken.cancelAlarm _).cancelSocket _).answer _ _ _ _ _
    · exact (htaken.cancelAlarm _).answer _ _ _ _ _

/-- A request that was sent is timed anew, and a call is never sent before it was asked for. -/
theorem refreshSent (h : Punctual start e) (id : PingerId) (token : Token) (timer : TimerId) :
    Punctual start (e.refreshSent id token timer) := by
  unfold Engine.refreshSent
  split
  · exact h
  · refine h.modifyPinger ?_
    intro pinger hp call hcall
    obtain ⟨old, hold, rfl⟩ := List.mem_map.1 hcall
    have horder := h.calls id pinger hp old hold
    split
    · exact ⟨Int.le_trans horder.1 horder.2, Int.le_refl _⟩
    · exact horder

/-- A send that fails ends its call, and one that succeeds times it anew. -/
theorem callSent (h : Punctual start e) (id : PingerId) (token : Token) (timer : TimerId)
    (code : ErrorCode) : Punctual start (e.callSent id token timer code) := by
  unfold Engine.callSent
  split
  · exact h.refreshSent _ _ _
  · refine Punctual.complete ?_ _ _ _ _
    split
    · split
      · exact h
      · exact h.logAbout _ _ _
    · exact h

theorem failCall (h : Punctual start e) (id : PingerId) (code : ErrorCode) (call : Call) :
    Punctual start (Engine.failCall id code e call) := (h.cancelAlarm _).answer _ _ _ _ _

/-- The calls of a pinger are taken out before anybody is told. -/
theorem failCalls (h : Punctual start e) (id : PingerId) (pinger : Pinger) (code : ErrorCode) :
    Punctual start (e.failCalls id pinger code) := by
  have hemptied : Punctual start (e.updatePinger id fun pinger => { pinger with calls := [] }) :=
    h.updatePinger fun _ _ => List.nil_subset _
  refine foldl (fun _ call h => h.failCall id code call) _ ?_
  split
  · exact hemptied
  · exact hemptied.logAbout _ _ _

theorem succeed (h : Punctual start e) (id : PingerId) (call : Call) (reply : EchoReply)
    (received : Time) : Punctual start (e.succeed id call reply received) := by
  have htaken : Punctual start (e.updatePinger id fun pinger => pinger.without call.token) :=
    h.updatePinger fun pinger _ => without_subset pinger call.token
  exact ((htaken.startReceive _).cancelAlarm _).answer _ _ _ _ _

theorem pingerDatagram (h : Punctual start e) (id : PingerId) (pinger : Pinger) (received : Time)
    (source : Address) (data : Bytes) :
    Punctual start (e.pingerDatagram id pinger received source data) := by
  have hlogged := h.logMalformed source (decode pinger.destination.family data source)
  unfold Engine.pingerDatagram
  dsimp only
  split
  · exact hlogged.startReceive _
  · exact hlogged.succeed _ _ _ _

/-- **What a pinger is told keeps an engine punctual.** -/
theorem pingerReceived (h : Punctual start e) (id : PingerId) (code : ErrorCode) (received : Time)
    (source : Address) (data : Bytes) :
    Punctual start (e.pingerReceived id code received source data) := by
  have hflag : Punctual start
      (e.updatePinger id fun pinger => { pinger with receiving := false }) :=
    h.updatePinger fun _ _ => List.Subset.refl _
  unfold Engine.pingerReceived
  split
  · exact h
  · split
    · exact h
    · dsimp only
      split
      · exact hflag.pingerDatagram _ _ _ _ _
      · split
        · exact hflag.startReceive _
        · exact hflag.failCalls _ _ _

/-- A pinger that nobody holds any more has no calls, and lets go of its mailbox or its socket. -/
theorem removePinger (h : Punctual start e) (id : PingerId) :
    Punctual start (e.removePinger id) := by
  have hgone : Punctual start (e.updatePinger id fun pinger => { pinger with gone := true }) :=
    h.updatePinger fun _ _ => List.Subset.refl _
  unfold Engine.removePinger
  split
  · exact h
  · dsimp only
    split
    · exact hgone.closeMail _ (.fault (by decide))
    · exact hgone.closeSocket _

theorem sweep (h : Punctual start e) : Punctual start e.sweep := by
  unfold Engine.sweep
  refine foldl (fun _ id h => h.removePinger id) _ ?_
  exact { h with }

theorem releasePinger (h : Punctual start e) (id : PingerId) :
    Punctual start (e.releasePinger id) := by
  refine Punctual.sweep ?_
  exact { h with }

/-! ## 5. Tasks and items -/

theorem sendEnded (h : Punctual start e) (client : SendClient) (code : ErrorCode) (count : Nat) :
    Punctual start (e.sendEnded client code count) := by
  cases client with
  | raw tag => exact h.record _
  | call id token timer => exact h.callSent _ _ _ _

theorem receiveEnded (h : Punctual start e) (client : ReceiveClient) {code : ErrorCode}
    (hcode : code.Plain) (source : Address) (data : Bytes) :
    Punctual start (e.receiveEnded client code source data) := by
  cases client with
  | raw tag => exact h.record _
  | pinger id => exact h.pingerReceived _ _ _ _ _
  | hub id => exact h.hubReceived _ hcode _ _

/-- What a socket is told of is passed on, and the socket may fail of it. -/
theorem socketReceived (h : Punctual start e) (socket : SocketId) (client : ReceiveClient)
    {code : ErrorCode} (hcode : code.Plain) (source : Address) (data : Bytes) :
    Punctual start (e.socketReceived socket client code source data) := by
  unfold Engine.socketReceived
  split
  · exact h.receiveEnded _ hcode _ _
  · refine Punctual.receiveEnded ?_ _ hcode _ _
    split
    · exact h
    · exact h.failSocket _ hcode

/-- **A task keeps an engine punctual.** -/
theorem perform (h : Punctual start e) {task : Task} (ht : e.Fair task) :
    Punctual start (e.perform task) := by
  cases task with
  | rang alarm code =>
    unfold Engine.perform Engine.rang
    dsimp only
    split
    · exact h
    · cases alarm with
      | call id token timer => exact h.complete _ _ _ _
      | limiter limiter => exact h.wakeLimiter _
      | round => exact h.startRound
  | turnedAway sender =>
    cases sender with
    | datagram socket packet destination client => exact h.sendEnded _ _ _
    | labelled limiter label again => exact h.answerLabelled _ _ _ _
  | sent client code count => exact h.sendEnded _ _ _
  | received socket client code source data => exact h.socketReceived _ _ ht _ _
  | noReceive client code => exact h.receiveEnded _ ht _ _
  | mail reader code letter =>
    cases reader with
    | labelled box label again => exact h.answerReader _ _ _ _ _
    | pinger id =>
      unfold Engine.perform Engine.mailArrived
      dsimp only
      split
      · exact h
      · exact h.pingerReceived _ _ _ _ _
  | noPing id number caller code sequence => exact h.answer _ _ _ _ _
  | signalled code number => exact h.signalled _ _

/-- **An item that happens in time keeps an engine punctual.** -/
theorem happen (h : Punctual start e) {item : Happening} (hi : e.OnTime e.now item) :
    Punctual start (e.happen item) := by
  cases item with
  | ring alarm =>
    refine Punctual.post h ?_
    cases alarm with
    | call id token timer => exact fun _ => hi
    | limiter limiter => trivial
    | round => trivial
  | ready task =>
    cases task with
    | sent client code count => exact Punctual.post h hi
    | _ => exact hi.elim
  | deliver source data => exact h.deliver _ _
  | signal number =>
    unfold Engine.happen
    dsimp only
    split
    · refine Punctual.post ?_ trivial
      exact { h with }
    · exact h

/-- The clock goes on. -/
theorem clock (h : Punctual start e) {now : Time} (hnow : e.now ≤ now) :
    Punctual start { e with now } := by
  refine { h with since := ?_, calls := ?_, ready := ?_ }
  · exact Int.le_trans h.since hnow
  · intro id pinger hp call hcall
    obtain ⟨hqueued, hsent⟩ := h.calls id pinger hp call hcall
    exact ⟨hqueued, Int.le_trans hsent hnow⟩
  · intro task htask
    refine (h.ready task htask).mono ?_
    intro timer hdue
    exact hdue.later hnow

end Punctual

end Engine

end IcmpEcho
