/-
# One task

**A task is performed by acts** (`Acts.perform`), once the datagram that it may bring to a hub has
been offered to the mailbox registered for its source (`Engine.offered`).

What is known of a task when it is taken up (`Engine.Taken`) follows from the invariant before
(`Sound.consume`).
-/
import IcmpEcho.Proofs.HubActs

namespace IcmpEcho

variable {e e' : Engine} {ended : List PingId} {late : Option Alarm}
  {unsettled : Option ReceiveClient} {may : HubId → Address → Prop}

/-! ## 1. Taking a task up -/

namespace Engine

/-- The engine after a hub has offered a datagram to the mailbox registered for its source. -/
def hubOffer (e : Engine) (id : HubId) (source : Address) (data : Bytes) : Engine :=
  match e.hubs[id]?.bind fun hub => hub.mailbox? source with
  | none => e
  | some box => (e.offerMail box { time := e.now, packet := data }).1

/-- The engine after the offer that a task makes, if it makes one. -/
def offered (e : Engine) : Task → Engine
  | .received _ (.hub id) code source data =>
    if code.isError then e else e.hubOffer id source data
  | _ => e

/-- What is known of a task that is taken up. -/
structure Taken (e : Engine) (task : Task) : Prop where
  proper : e.Proper task
  refusal : ∀ id number caller code sequence, task = .noPing id number caller code sequence →
    ∃ ping, e.ping? number = some ping ∧ ping.caller = caller ∧ ping.token.sequence = sequence

theorem passes_hubOffer (hw : Wired e) (id : HubId) (source : Address) (data : Bytes) :
    Passes e (e.hubOffer id source data) := by
  unfold hubOffer
  split
  · exact .stays (.refl e) (fun _ => rfl) rfl
  · exact .offerMail hw _ _

theorem passes_offered (hw : Wired e) (task : Task) : Passes e (e.offered task) := by
  unfold offered
  split
  · split
    · exact .stays (.refl e) (fun _ => rfl) rfl
    · exact passes_hubOffer hw _ _ _
  · exact .stays (.refl e) (fun _ => rfl) rfl

end Engine

/-- **A task that is taken up goes into the hand.** -/
theorem Sound.consume (hs : Sound {} e) {front back : List Task} {task : Task}
    (hr : e.ready = front ++ task :: back) :
    Sound (Hand.of task) { e with ready := front ++ back } ∧
      Engine.Taken { e with ready := front ++ back } task := by
  have hmem : task ∈ e.ready := hr ▸ List.mem_append_right _ List.mem_cons_self
  have hports : SamePorts e { e with ready := front ++ back } :=
    ⟨fun client => by cases client <;> rfl, rfl, rfl⟩
  have hsub : ∀ other ∈ front ++ back, other ∈ e.ready := fun other ho =>
    (sublist_of_taken hr).subset ho
  refine ⟨{
    wired := hs.wired.of_ports hports
      (fun port client hp => hs.wired.waits port client (by cases port <;> exact hp))
      (fun other ho => hs.wired.tasks other (hsub other ho)) hs.wired.later
    counted := hs.counted.consume hr
    settled := fun client hclient => (hs.settled client (by simp)).congr rfl rfl fun _ => rfl
    ledger := hs.ledger.consume hr
    armed := hs.armed.consume hr
    gone := hs.gone
    targets := hs.targets
    listed := hs.listed.same rfl rfl }, ⟨(hports.proper task).2 (hs.wired.tasks task hmem), ?_⟩⟩
  rintro id number caller code sequence rfl
  obtain ⟨ping, hping, -, hsequence, hcaller, -⟩ := hs.ledger.refused _ _ _ _ _ hmem
  exact ⟨ping, hping, hcaller, hsequence⟩

/-! ## 2. Receives that ended -/

namespace Acts

/-- **A hub that received a datagram deals with it by acts**, once it has offered it. -/
theorem hubReceived {id : HubId} {code : ErrorCode} (hcode : code.isError = false)
    (hs : Sound ⟨some (.hub id), none, [], none, may⟩ e) {source : Address} (hm : may id source)
    (data : Bytes) :
    Acts ⟨some (.hub id), none, [], none, may⟩ (e.hubOffer id source data) { may }
      (e.hubReceived id code source data) := by
  have hpasses := Engine.passes_hubOffer hs.wired id source data
  have hs' := hs.passes hpasses
  unfold Engine.hubReceived
  split
  · next hnone =>
    have hsame : e.hubOffer id source data = e := by simp [Engine.hubOffer, hnone]
    rw [hsame]
    exact .one (.rest rfl (by simp [Engine.listens?, hnone]))
  · next hub hh =>
    have hh' : (e.hubOffer id source data).hubs[id]? = some hub := by rw [hpasses.same.hubs, hh]
    rw [if_neg (by simp [hcode])]
    unfold Engine.hubOffer at hs' hh' ⊢
    simp only [hh, Option.bind_some] at hs' hh' ⊢
    split
    · next hnone =>
      simp only [hnone] at hh' ⊢
      exact receiveForHub hh' rfl
    · next box hbox =>
      simp only [hbox] at hs' hh' ⊢
      split
      · next offered hoffer =>
        rw [hoffer] at hh' ⊢
        exact receiveForHub hh' rfl
      · next offered hoffer =>
        rw [hoffer] at hs' hh' ⊢
        exact endRegistration hs' hh' hm hbox

/-- **A receive that failed is dealt with by acts.** -/
theorem receiveFailed {client : ReceiveClient} {code : ErrorCode} (hcode : code.isError)
    (hs : Sound ⟨some client, unsettled, [], none, may⟩ e)
    (hu : unsettled = none ∨ ∃ id, client = .hub id ∧ unsettled = some client)
    (hm : ∀ id address, client = .hub id → may id address) (source : Address) (data : Bytes) :
    Acts ⟨some client, unsettled, [], none, may⟩ e { may }
      (e.receiveEnded client code source data) := by
  cases client with
  | raw tag =>
    obtain rfl : unsettled = none := by simpa using hu
    exact (Acts.aside (.record rfl)).trans (.one (.rest rfl rfl))
  | pinger id =>
    obtain rfl : unsettled = none := by simpa using hu
    exact pingerReceived hs code e.now source data
  | hub id =>
    have hu : unsettled = none ∨ unsettled = some (.hub id) := hu.imp_right fun ⟨_, _, h⟩ => h
    simp only [Engine.receiveEnded, Engine.hubReceived]
    split
    · next hnone =>
      have hrest : Act ⟨some (.hub id), unsettled, [], none, may⟩ e
          ⟨none, unsettled, [], none, may⟩ e := .rest rfl (by simp [Engine.listens?, hnone])
      rcases hu with rfl | rfl
      · exact .one hrest
      · have hsettled : e.Settled (.hub id) := fun hub hh => by
          rw [hnone] at hh
          cases hh
        exact .cons hrest (.one (.settle rfl hsettled))
    · next hub hh =>
      rw [if_pos hcode]
      exact failHub hs hh hu hcode fun address => hm id address rfl

/-- **The end of a receive on a socket is dealt with by acts.**  A failed receive fails the socket
first. -/
theorem socketReceived {socket : SocketId} {client : ReceiveClient} {code : ErrorCode}
    {source : Address} {data : Bytes} (hs : Sound ⟨some client, none, [], none, may⟩ e)
    (hfits : e.Fits client (.socket socket))
    (hm : ∀ id address, client = .hub id → (code.isError = false → address = source) →
      may id address) :
    Acts ⟨some client, none, [], none, may⟩
      (e.offered (.received socket client code source data)) { may }
      (e.socketReceived socket client code source data) := by
  unfold Engine.socketReceived
  split
  · next hcode =>
    have hcode : code.isError = false := by simpa using hcode
    cases client with
    | raw tag => exact (Acts.aside (.record rfl)).trans (.one (.rest rfl rfl))
    | pinger id => exact pingerReceived hs code e.now source data
    | hub id =>
      simp only [Engine.offered, hcode]
      exact hubReceived hcode hs (hm id source rfl fun _ => rfl) data
  · next hcode =>
    have hcode : code.isError = true := by simpa using hcode
    have hoffered : e.offered (.received socket client code source data) = e := by
      cases client <;> simp [Engine.offered, hcode]
    rw [hoffered]
    have hm' : ∀ id address, client = .hub id → may id address := fun id address hclient =>
      hm id address hclient fun h => by rw [hcode] at h; cases h
    simp only []
    split
    · exact receiveFailed hcode hs (.inl rfl) hm' _ _
    · -- only the client itself can be a hub on this socket
      have hown : ∀ (id : HubId) (hub : Hub), e.hubs[id]? = some hub → hub.socket = socket →
          client = .hub id := fun id hub hh hsocket =>
        hfits.eq_of_port? hs.wired.unique (by simp [Engine.port?, hh, hsocket])
      by_cases hhub : ∃ id, client = .hub id
      · obtain ⟨id, rfl⟩ := hhub
        have hunsettle : Act ⟨some (.hub id), none, [], none, may⟩ e
            ⟨some (.hub id), some (.hub id), [], none, may⟩ e := .unsettle e _ rfl
        have hfail : Acts ⟨some (.hub id), some (.hub id), [], none, may⟩ e
            ⟨some (.hub id), some (.hub id), [], none, may⟩ (e.failSocket socket code) :=
          failSocket hcode fun other hub hh hsocket => .inr (by rw [hown other hub hh hsocket])
        have hrow := Acts.cons hunsettle hfail
        exact hrow.trans (receiveFailed hcode (hrow.sound hs) (.inr ⟨id, rfl, rfl⟩) hm' _ _)
      · have hfail : Acts ⟨some client, none, [], none, may⟩ e ⟨some client, none, [], none, may⟩
            (e.failSocket socket code) :=
          failSocket hcode fun other hub hh hsocket =>
            absurd ⟨other, hown other hub hh hsocket⟩ hhub
        exact hfail.trans (receiveFailed hcode (hfail.sound hs) (.inl rfl) hm' _ _)

end Acts

/-! ## 3. Rounds -/

/-- The pinger of a target is kept. -/
theorem Sound.kept_of_target {hand : Hand} (hs : Sound hand e) {index : Nat} {target : Target}
    (ht : (e.service.bind fun service => service.targets[index]?) = some target) :
    e.Kept target.pinger := by
  obtain ⟨service, hservice, htarget⟩ := Option.bind_eq_some_iff.1 ht
  refine hs.targets _ ?_
  have hmem : target ∈ service.targets.toList := by
    rw [← Array.mem_def]
    exact Array.mem_of_getElem? htarget
  simp only [Engine.targetPingers, hservice, Option.map_some, Option.getD_some]
  exact List.mem_map_of_mem hmem

namespace Acts

theorem pingTarget (hs : Sound {} e) (sequence : UInt16) (index : Nat) :
    Acts {} e {} (Engine.pingTarget sequence e index) := by
  unfold Engine.pingTarget
  split
  · exact .nil _ _
  · next target htarget =>
    have hcount : Aside e (e.updateService fun service =>
        { service with
          outstanding := service.outstanding + 1
          targets := service.targets.modify index fun target =>
            { target with transmitted := target.transmitted + 1 } }) :=
      .updateService fun service => Aside.map_pinger_modify (by intro target; rfl) _ _
    obtain ⟨⟨pinger, hp, hg⟩, -⟩ := hs.kept_of_target htarget
    refine (Acts.aside hcount).trans (ping (hs.aside hcount) (fun pinger' hp' => ?_) _ _)
    rw [hcount.pingers] at hp'
    obtain rfl := Option.some.inj (hp.symm.trans hp')
    exact hg

theorem pingTargets (sequence : UInt16) :
    ∀ (indices : List Nat) (e : Engine), Sound {} e →
      Acts {} e {} (indices.foldl (Engine.pingTarget sequence) e)
  | [], _, _ => .nil _ _
  | index :: indices, e, hs => by
    have hrow := pingTarget hs sequence index
    exact hrow.trans (pingTargets sequence indices _ (hrow.sound hs))

/-- **A round begins by acts.** -/
theorem startRound (hs : Sound {} e) : Acts {} e {} e.startRound := by
  unfold Engine.startRound
  split
  · exact .nil _ _
  · next service hservice =>
    split
    · exact .nil _ _
    · have hpings := pingTargets service.round.toUInt16 (List.range service.targets.size) e hs
      have hround : ∀ (e : Engine) (round : UInt32), Acts {} e {}
          (e.updateService fun service => { service with round }) := fun e round =>
        .aside (.updateService fun _ => rfl)
      refine hpings.trans ((hround _ (service.round + 1)).trans ?_)
      simp only []
      split
      · exact .nil _ _
      · exact .aside (.setAlarm rfl)

/-! ## 4. Tasks -/

theorem sendEnded (hs : Sound {} e) (client : SendClient) (code : ErrorCode) (count : Nat) :
    Acts {} e {} (e.sendEnded client code count) := by
  cases client with
  | raw tag => exact .aside (.record rfl)
  | call id token timer => exact callSent hs id token timer code

theorem rang {alarm : Alarm} {code : ErrorCode}
    (hs : Sound (Hand.of (.rang alarm code)) e) :
    Acts (Hand.of (.rang alarm code)) e {} (e.rang alarm code) := by
  by_cases hcode : code = .aborted
  · have hhand : Hand.of (.rang alarm code) = {} := by
      simp only [Hand.of, Task.listener?, Task.refusal?, Task.rings?, hcode, if_true]
      rfl
    rw [hhand, Engine.rang.eq_def, if_pos hcode]
    exact .nil _ _
  · have hhand : Hand.of (.rang alarm code) = { late := some alarm } := by
      simp only [Hand.of, Task.listener?, Task.refusal?, Task.rings?, hcode, if_false]
      rfl
    rw [hhand] at hs ⊢
    rw [Engine.rang.eq_def, if_neg hcode]
    -- an alarm that is not a call's is nobody's
    have hpunctual : alarm.isCall = false →
        Act { late := some alarm } e {} e := by
      intro ha
      refine .punctual rfl fun id call _ heq => ?_
      rw [heq] at ha
      cases ha
    cases alarm with
    | call id token timer => exact complete hs (.inr rfl) _
    | limiter limiter => exact .cons (hpunctual rfl) (.aside (.wakeLimiter _))
    | round =>
      have hact := hpunctual rfl
      exact .cons hact (startRound (hact.sound hs))

/-- **A task is performed by acts**, once the datagram that it brings has been offered. -/
theorem perform {task : Task} (hs : Sound (Hand.of task) e) (ht : e.Taken task) :
    Acts (Hand.of task) (e.offered task) { may := task.may } (e.perform task) := by
  cases task with
  | rang alarm code => exact rang hs
  | turnedAway sender =>
    cases sender with
    | datagram socket packet destination client => exact sendEnded hs client .aborted 0
    | labelled limiter label again => exact .aside (.answerLabelled _ _ _ _)
  | sent client code count => exact sendEnded hs client code count
  | received socket client code source data =>
    refine socketReceived hs ht.proper fun id address hclient haddress => ?_
    subst hclient
    exact ⟨rfl, haddress⟩
  | noReceive client code =>
    refine receiveFailed ht.proper.1 hs (.inl rfl) (fun id address hclient => ?_) _ _
    subst hclient
    exact rfl
  | mail reader code letter =>
    cases reader with
    | labelled box label again =>
      obtain ⟨box, hfits⟩ := ht.proper
      exact hfits.elim
    | pinger id =>
      have hs : Sound { busy := some (.pinger id) } e := hs
      change Acts { busy := some (.pinger id) } e {} _
      simp only [Engine.perform, Engine.mailArrived]
      split
      · next hnone => exact .one (.rest rfl (by simp [Engine.listens?, hnone]))
      · exact pingerReceived hs code letter.time _ letter.packet
  | noPing id number caller code sequence =>
    obtain ⟨ping, hping, hcaller, hsequence⟩ := ht.refusal _ _ _ _ _ rfl
    exact answer hs hping hcaller id code hsequence.symm
  | signalled code number => exact .aside (.signalled _ _)

end Acts

end IcmpEcho
