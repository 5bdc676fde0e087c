/-
# What has nothing to do with calls

Sockets, mailboxes and hubs hand over what comes in, fail and are closed; pingers, sockets and hubs
are made and let go.  None of this ends a call, sets or cancels the timer of one, refuses a ping or
tells a caller: **the engine has the calls that it had** (`SameCalls`).  A pinger learns of it by a
task only.

So whoever is told is told by one of the tasks of `Telling`, and of steps from outside only pinging
has to do with calls at all (`Session.perform_sameCalls`).
-/
import IcmpEcho.Proofs.Runs

namespace IcmpEcho

variable {e e' : Engine}

namespace SameCalls

/-! ## 1. Sockets and mailboxes -/

theorem foldl {α : Type} {f : Engine → α → Engine} (hf : ∀ e a, SameCalls e (f e a)) (l : List α) :
    ∀ e : Engine, SameCalls e (l.foldl f e) := by
  intro e
  exact List.foldlRecOn (motive := SameCalls e) l f (refl e) fun next h a _ => h.trans (hf next a)

theorem setMailbox (box : MailboxId) (value : Mailbox Letter Reader) :
    SameCalls e (e.setMailbox box value) := { refl e with }

theorem offerMail (box : MailboxId) (letter : Letter) :
    SameCalls e (e.offerMail box letter).1 := by
  unfold Engine.offerMail
  split
  · exact refl e
  · dsimp only
    split
    · exact (setMailbox _ _).trans (post rfl)
    · exact setMailbox _ _
    · exact setMailbox _ _

theorem closeMail (box : MailboxId) (reason : ErrorCode) :
    SameCalls e (e.closeMail box reason) := by
  unfold Engine.closeMail
  split
  · exact refl e
  · dsimp only
    split
    · exact (setMailbox _ _).trans (post rfl)
    · exact setMailbox _ _

/-- Whoever received learns of it by a task. -/
theorem endReceive (socket : SocketId) (code : ErrorCode) :
    SameCalls e (e.endReceive socket code) := by
  unfold Engine.endReceive
  split
  · exact (updateSocket _ _).trans (post rfl)
  · exact refl e

theorem deliverTo (source : Address) (data : Bytes) (socket : SocketId) :
    SameCalls e (e.deliverTo source data socket) := by
  unfold Engine.deliverTo
  split
  · exact refl e
  · split
    · exact refl e
    · split
      · exact (updateSocket _ _).trans (post rfl)
      · exact updateSocket _ _

/-- A datagram that comes in answers nobody yet. -/
theorem deliver (source : Address) (data : Bytes) : SameCalls e (e.deliver source data) := by
  have harrived : SameCalls e { e with arrivals := (source, data) :: e.arrivals } :=
    { refl e with }
  exact harrived.trans (foldl (fun _ socket => deliverTo source data socket) _ _)

theorem failReceives (family : Family) (errno : Int) (only : Option SocketId) :
    SameCalls e (e.failReceives family errno only) := by
  refine foldl ?_ _ e
  intro e socket
  split
  · exact refl e
  · split
    · exact endReceive _ _
    · exact refl e

/-- A socket fails; the calls of its pingers end later, by their own tasks. -/
theorem failSocket (socket : SocketId) (code : ErrorCode) :
    SameCalls e (e.failSocket socket code) := by
  unfold Engine.failSocket
  split
  · exact refl e
  · exact (updateSocket _ _).trans (of_aside (.logDated _ _))

/-- **A socket that is closed ends no call**, though it turns its senders away. -/
theorem closeSocket (socket : SocketId) : SameCalls e (e.closeSocket socket) := by
  unfold Engine.closeSocket
  split
  · exact refl e
  · next record hrecord =>
    have hfailed : SameCalls e (if record.fatal.isError then e
        else e.updateSocket socket fun record => { record with fatal := .aborted }) := by
      split
      · exact refl e
      · exact updateSocket _ _
    exact ((hfailed.trans (of_aside (.cancelLimiter _))).trans (endReceive _ _)).trans
      (updateSocket _ _)

/-! ## 2. Hubs -/

theorem closeRegistrations (id : HubId) (hub : Hub) (reason : ErrorCode) :
    SameCalls e (e.closeRegistrations id hub reason) :=
  (updateHub _ _).trans (foldl (fun _ _ => closeMail _ _) _ _)

theorem startHub (id : HubId) : SameCalls e (e.startHub id) := by
  unfold Engine.startHub
  split
  · exact refl e
  · dsimp only
    split
    · exact closeRegistrations _ _ _
    · split
      · exact refl e
      · exact ((updateHub _ _).trans (of_aside (.logDated _ _))).trans (receive _ _ _)

theorem failHub (id : HubId) (hub : Hub) (code : ErrorCode) :
    SameCalls e (e.failHub id hub code) := by
  have hclosed : SameCalls e ((e.updateHub id fun hub =>
      { hub with running := false }).closeRegistrations id hub code) :=
    (updateHub _ _).trans (closeRegistrations _ _ _)
  unfold Engine.failHub
  dsimp only
  split
  · exact hclosed
  · exact hclosed.trans (of_aside (.logDated _ _))

theorem endRegistration (id : HubId) (hub : Hub) (source : Address) (box : MailboxId) :
    SameCalls e (e.endRegistration id hub source box) := by
  have hclosed : SameCalls e (e.closeMail box PingFault.registrationClosed.code) := closeMail _ _
  unfold Engine.endRegistration
  dsimp only
  split
  · exact (hclosed.trans (updateHub _ _)).trans
      (of_aside ((Aside.logAbout _ _ _).trans (.logDated _ _)))
  · exact ((hclosed.trans (updateHub _ _)).trans (of_aside (.logAbout _ _ _))).trans
      (receive _ _ _)

/-- **A hub that gets something ends no call.** -/
theorem hubReceived (id : HubId) (code : ErrorCode) (source : Address) (data : Bytes) :
    SameCalls e (e.hubReceived id code source data) := by
  unfold Engine.hubReceived
  split
  · exact refl e
  · split
    · exact failHub _ _ _
    · split
      · exact receive _ _ _
      · next box hbox =>
        have hoffered : SameCalls e (e.offerMail box { time := e.now, packet := data }).1 :=
          offerMail _ _
        split
        · next hoffer =>
          rw [hoffer] at hoffered
          exact hoffered.trans (receive _ _ _)
        · next hoffer =>
          rw [hoffer] at hoffered
          exact hoffered.trans (endRegistration _ _ _ _)

/-- A hub that is closed ends no call either. -/
theorem closeHub (id : HubId) : SameCalls e (e.closeHub id) := by
  unfold Engine.closeHub
  split
  · exact refl e
  · exact (closeRegistrations _ _ _).trans (closeSocket _)

/-! ## 3. Making and letting go -/

theorem openSocket (settings : SocketSettings) : SameCalls e (e.openSocket settings).1 := by
  obtain ⟨record, -, haside, -⟩ := e.openSocket_grows settings
  have hpushed : SameCalls e { e with sockets := e.sockets.push record } := { refl e with }
  exact hpushed.trans (of_aside haside)

theorem openHub (settings : SocketSettings) : SameCalls e (e.openHub settings).1 := by
  have hopened : SameCalls e (e.openSocket settings).1 := openSocket settings
  unfold Engine.openHub
  split
  · next hopen =>
    rw [hopen] at hopened
    exact hopened
  · next hopen =>
    rw [hopen] at hopened
    exact hopened.trans { refl _ with }

/-- A pinger that is made has no calls. -/
theorem addPinger (destination : Address) (socket : SocketId) (mailbox : Option MailboxId) :
    SameCalls e (e.addPinger destination socket mailbox).1 := by
  refine { refl e with calls := ?_ }
  intro id
  rcases Array.getElem?_push_cases e.pingers
    { destination, identifier := e.nextIdentifier, socket, mailbox } id with hsame | ⟨hnone, hnew⟩
  · exact congrArg (fun pinger : Option Pinger => (pinger.map Pinger.calls).getD []) hsame
  · have hempty : e.callsOf id = [] := by rw [Engine.callsOf, hnone]; rfl
    rw [hempty]
    exact congrArg (fun pinger : Option Pinger => (pinger.map Pinger.calls).getD []) hnew

/-- A new pinger has no calls. -/
theorem createPinger (destination : Address) (settings : SocketSettings) :
    SameCalls e (e.createPinger destination settings).1 := by
  have hopened : SameCalls e
      (e.openSocket { settings with family := destination.family }).1 := openSocket _
  unfold Engine.createPinger
  split
  · next hopen =>
    rw [hopen] at hopened
    exact hopened
  · next hopen =>
    rw [hopen] at hopened
    exact hopened.trans (addPinger _ _ _)

/-- A registration that is replaced loses its mailbox, and its pinger is told by a task. -/
theorem enterRegistration (id : HubId) (hub : Hub) (destination : Address) (box : MailboxId) :
    SameCalls e (e.enterRegistration id hub destination box) := by
  unfold Engine.enterRegistration
  dsimp only
  split
  · exact updateHub _ _
  · exact ((updateHub _ _).trans (closeMail _ _)).trans (of_aside (.logAbout _ _ _))

theorem register (id : HubId) (destination : Address) :
    SameCalls e (e.register id destination).1 := by
  have hbox : SameCalls e (e.addMailbox 100).1 := { refl e with }
  unfold Engine.register
  split
  · exact refl e
  · split
    · exact refl e
    · split
      · exact refl e
      · exact ((hbox.trans (enterRegistration _ _ _ _)).trans (startHub _)).trans
          (addPinger _ _ _)

/-- A pinger that goes lets go of its socket or its mailbox. -/
theorem removePinger (id : PingerId) : SameCalls e (e.removePinger id) := by
  have hgone : SameCalls e (e.updatePinger id fun pinger => { pinger with gone := true }) :=
    updatePinger fun _ => rfl
  unfold Engine.removePinger
  split
  · exact refl e
  · dsimp only
    split
    · exact hgone.trans (closeMail _ _)
    · exact hgone.trans (closeSocket _)

theorem sweep : SameCalls e e.sweep := by
  have hreleased : ∀ released, SameCalls e { e with released } := fun _ => { refl e with }
  exact (hreleased _).trans (foldl (fun _ id => removePinger id) _ _)

theorem releasePinger (id : PingerId) : SameCalls e (e.releasePinger id) := by
  have hreleased : SameCalls e { e with released := e.released ++ [id] } := { refl e with }
  exact hreleased.trans sweep

/-! ## 4. The service is made -/

theorem hubFor (service : Service) (family : Family) :
    SameCalls e (e.hubFor service family).1 := by
  unfold Engine.hubFor
  dsimp only
  split
  · exact refl e
  · split
    · exact refl e
    · next settings hsettings =>
      have hopened : SameCalls e (e.openHub settings).1 := openHub settings
      split
      · next hopen =>
        rw [hopen] at hopened
        exact hopened
      · next hopen =>
        rw [hopen] at hopened
        exact hopened

theorem pingerFor (service : Service) (address : Address) :
    SameCalls e (e.pingerFor service address).1 := by
  unfold Engine.pingerFor
  split
  · have hhub : SameCalls e (e.hubFor service address.family).1 := hubFor _ _
    split
    · next hfailed =>
      rw [hfailed] at hhub
      exact hhub
    · next made service' hub hmade =>
      rw [hmade] at hhub
      have hregistered : SameCalls made (made.register hub address).1 := register _ _
      split
      · next hrefused =>
        rw [hrefused] at hregistered
        exact hhub.trans hregistered
      · next haccepted =>
        rw [haccepted] at hregistered
        exact hhub.trans hregistered
  · split
    · exact refl e
    · next settings hsettings =>
      have hcreated : SameCalls e (e.createPinger address settings).1 := createPinger _ _
      split
      · next hfailed =>
        rw [hfailed] at hcreated
        exact hcreated
      · next hmade =>
        rw [hmade] at hcreated
        exact hcreated

theorem addTarget (service : Service) (name : String) :
    SameCalls e (e.addTarget service name).1 := by
  unfold Engine.addTarget
  split
  · exact refl e
  · next address hresolve =>
    have hmade : SameCalls e (e.pingerFor service address).1 := pingerFor _ _
    split
    · next hfailed =>
      rw [hfailed] at hmade
      exact hmade
    · next hpinger =>
      rw [hpinger] at hmade
      refine (hmade.trans (updatePinger ?_)).trans (of_aside (.logAbout _ _ _))
      exact fun _ => rfl

theorem addTargets (names : List String) :
    ∀ (e : Engine) (service : Service), SameCalls e (e.addTargets service names).1 := by
  induction names with
  | nil =>
    intro e service
    exact refl e
  | cons name rest ih =>
    intro e service
    have hadded : SameCalls e (e.addTarget service name).1 := addTarget _ _
    unfold Engine.addTargets
    split
    · next hfailed =>
      rw [hfailed] at hadded
      exact hadded
    · next hmade =>
      rw [hmade] at hadded
      exact hadded.trans (ih _ _)

/-- **To open a service asks for no ping.** -/
theorem openService (config : Config) : SameCalls e (e.openService config).1 := by
  have hlevel : SameCalls e { e with logLevel := config.logLevel } := { refl e with }
  have hadded := addTargets config.targets { e with logLevel := config.logLevel } { config }
  unfold Engine.openService
  dsimp only
  split
  · exact hlevel
  · split
    · next hfailed =>
      rw [hfailed] at hadded
      exact hlevel.trans hadded
    · next hmade =>
      rw [hmade] at hadded
      exact (hlevel.trans hadded).trans { refl _ with }

/-! ## 5. Mail -/

theorem answerReader (box : MailboxId) (label : String) (again : Nat) (code : ErrorCode)
    (letter : Letter) : SameCalls e (e.answerReader box label again code letter) := by
  unfold Engine.answerReader
  dsimp only
  split
  · exact of_aside (.record rfl)
  · exact (of_aside (.record rfl)).trans (askMail _ _)

end SameCalls

namespace Session

variable {s s' : Session}

/-! ## 6. Steps from outside -/

theorem drop_sameCalls (s : Session) (name : String) :
    SameCalls s.engine (s.drop name).engine := by
  unfold drop
  split
  · exact .refl _
  · next handle hhandle =>
    cases handle with
    | socket socket => exact .closeSocket _
    | hub hub => exact .closeHub _
    | pinger pinger => exact .releasePinger _

theorem hold_sameCalls (s : Session) (name : String) {made : Engine × Except Failure Handle}
    (h : SameCalls s.engine made.1) : SameCalls s.engine (s.hold name made).1.engine := by
  obtain ⟨e, made⟩ := made
  cases made with
  | error failure => exact h
  | ok handle => exact h.trans (drop_sameCalls { s with engine := e } name)

theorem use_sameCalls (s : Session) (name : String) {act : Engine → Handle → Engine}
    (hact : ∀ handle, SameCalls s.engine (act s.engine handle)) :
    SameCalls s.engine (s.use name act).engine := by
  unfold use
  split
  · exact .refl _
  · exact hact _

/-- The step asks for pings. -/
def Step.pings : Step → Bool
  | .ping _ _ _ _ => true
  | .burst _ _ _ => true
  | _ => false

/-- **A step from outside that asks for no ping has nothing to do with calls.** -/
theorem perform_sameCalls (s : Session) {step : Step} (hrun : ∀ duration, step ≠ .run duration)
    (hpings : step.pings = false) : SameCalls s.engine (s.perform step).1.engine := by
  cases step with
  | openSocket name settings => exact hold_sameCalls s name (.openSocket settings)
  | openHub name settings => exact hold_sameCalls s name (.openHub settings)
  | create name destination settings =>
    exact hold_sameCalls s name (.createPinger destination settings)
  | register name hub destination =>
    have hregistered : SameCalls s.engine (s.register hub destination).1 := by
      unfold Session.register
      split
      · exact .register _ _
      · exact .refl _
    exact hold_sameCalls s name hregistered
  | configure name identifier size timeout =>
    refine use_sameCalls s name ?_
    intro handle
    cases handle with
    | pinger pinger => exact .updatePinger fun _ => rfl
    | _ => exact .refl _
  | ping name sequence tag again => cases hpings
  | burst name sequence count => cases hpings
  | drop name => exact drop_sameCalls s name
  | close name =>
    refine use_sameCalls s name ?_
    intro handle
    cases handle with
    | socket socket => exact .closeSocket _
    | hub hub => exact .closeHub _
    | pinger pinger => exact .refl _
  | cancel name =>
    refine use_sameCalls s name ?_
    intro handle
    cases handle with
    | socket socket => exact .endReceive _ _
    | _ => exact .refl _
  | send name destination data tag =>
    refine use_sameCalls s name ?_
    intro handle
    cases handle with
    | socket socket => exact .of_aside (.submit _ _ _ _)
    | _ => exact .refl _
  | receive name room tag =>
    refine use_sameCalls s name ?_
    intro handle
    cases handle with
    | socket socket => exact .receive _ _ _
    | _ => exact .refl _
  | deliver source data count time =>
    cases time with
    | none => exact SameCalls.foldl (fun _ _ => .deliver _ _) _ _
    | some time => exact .of_aside (.foldl (fun _ _ => .schedule rfl) _ _)
  | failReceives family errno only => exact .failReceives _ _ _
  | run duration => exact absurd rfl (hrun duration)
  | logLevel level => exact { SameCalls.refl s.engine with }

end Session

end IcmpEcho
