/-
# What comes in, and what is let go

Datagrams and failures come in from outside (`Moved.deliver`, `Moved.failReceives`).  A pinger
that was released is removed once no due work refers to it; since each of its calls would have a
timer that does, it then has no calls (`Sound.callsOf_of_not_holds`), and nothing is lost
(`Moved.sweep`).
-/
import IcmpEcho.Proofs.Registering

namespace IcmpEcho

variable {e e' e'' : Engine}

/-! ## 1. Coming in -/

namespace Moved

theorem of_passes (hs : Sound {} e) (h : Passes e e') (still : Still (fun _ _ => False) e e') :
    Moved e e' :=
  of_steady hs (hs.passes h) (.of_sameParts h.same) still

/-- A row of moves. -/
theorem foldl {α : Type} {f : Engine → α → Engine}
    (hf : ∀ e a, Sound {} e → Moved e (f e a)) :
    ∀ (l : List α) (e : Engine), Sound {} e → Moved e (l.foldl f e)
  | [], _, hs => refl hs
  | a :: l, e, hs => (hf e a hs).trans (foldl hf l (f e a) (hf e a hs).sound) hs

/-- A datagram is written down. -/
theorem arrive (hs : Sound {} e) (datagram : Address × Bytes) :
    Moved e { e with arrivals := datagram :: e.arrivals } := by
  have hports : SamePorts e { e with arrivals := datagram :: e.arrivals } :=
    ⟨fun client => by cases client <;> rfl, rfl, rfl⟩
  have hsteady : Steady e { e with arrivals := datagram :: e.arrivals } :=
    .of_parts hports rfl rfl rfl rfl (fun _ _ => rfl) (fun _ _ h => h) (List.suffix_refl _)
  refine of_steady hs ?_ hsteady (.of_steady hsteady rfl (fun hm => ⟨hm.boxes, ?_, ?_⟩)
    (fun _ => Engine.inbox_congr hports rfl rfl) fun _ _ _ _ hshut => .inl hshut)
  · exact { hs with
      wired := { hs.wired with }
      counted := hs.counted.same ⟨rfl, rfl, rfl, rfl, fun _ => rfl⟩
      settled := fun client hclient => (hs.settled client hclient).congr rfl rfl fun _ => rfl
      ledger := { hs.ledger with }
      armed := { hs.armed with }
      listed := hs.listed.same rfl rfl }
  · intro socket record hsocket
    have hk := hm.sockets socket record hsocket
    exact ⟨fun _ hmem => List.mem_cons_of_mem _ (hk.backlog hmem), hk.room⟩
  · intro task ht
    exact (hm.tasks task ht).mono fun _ hmem => List.mem_cons_of_mem _ hmem

/-- A datagram that is written down comes in at sockets, one after another. -/
theorem deliverEach {source : Address} {data : Bytes} :
    ∀ (sockets : List SocketId) (e : Engine), Sound {} e → (source, data) ∈ e.arrivals →
      Moved e (sockets.foldl (fun e => e.deliverTo source data) e)
  | [], _, hs, _ => refl hs
  | socket :: sockets, e, hs, hcame => by
    have hfirst : Moved e (e.deliverTo source data socket) :=
      of_passes hs (.deliverTo hs.wired _ _ _) (.deliverTo hcame socket)
    refine hfirst.trans (deliverEach sockets _ hfirst.sound ?_) hs
    rwa [Engine.arrivals_deliverTo]

/-- **A datagram comes in.** -/
theorem deliver (hs : Sound {} e) (source : Address) (data : Bytes) :
    Moved e (e.deliver source data) := by
  have harrived := arrive hs (source, data)
  exact harrived.trans (deliverEach _ _ harrived.sound List.mem_cons_self) hs

/-- **Receives fail.** -/
theorem failReceives (hs : Sound {} e) (family : Family) (errno : Int) (only : Option SocketId) :
    Moved e (e.failReceives family errno only) := by
  refine foldl (fun e socket hs => ?_) _ e hs
  split
  · exact refl hs
  · split
    · exact of_passes hs (.endReceive hs.wired _ _) (.endReceive _ _)
    · exact refl hs

/-- A receive that waits on a socket is given up. -/
theorem cancelSocket (hs : Sound {} e) (socket : SocketId) : Moved e (e.cancelSocket socket) :=
  of_passes hs (.endReceive hs.wired _ _) (.endReceive _ _)

end Moved

/-! ## 2. Closing a hub -/

/-- A hub that is closed has nothing registered. -/
theorem Engine.registered?_closeHub (id : HubId) (address : Address) :
    (e.closeHub id).registered? id address = none := by
  unfold closeHub
  split
  · next hnone => rw [registered?, hnone, Option.bind_none]
  · next hub hh =>
    rw [registered?, hubs_closeSocket, hubs_closeRegistrations hh, if_pos rfl]
    rfl

/-- **A hub is closed.** -/
theorem Moved.closeHub (hs : Sound {} e) (id : HubId) :
    Moved e (e.closeHub id) fun hub _ => hub = id := by
  have hs' : Sound { may := fun hub _ => hub = id } e := hs.withMay _
  have hrow := Acts.closeHub hs' id fun _ => rfl
  have hstill := hrow.still hs'
  refine ⟨.of_steady ((hrow.sound hs').withMay _) (hrow.steady hs'), hstill, fun ha =>
    hstill.attended ha fun other address box hr hcase => ?_⟩
  have hne : other ≠ id := by
    rintro rfl
    rw [Engine.registered?_closeHub] at hr
    cases hr
  rw [hstill.frame other address hne] at hr
  have hlt := hs.listed.known _ _ _ (Engine.lists_of_registered? hr)
  rcases hcase with hnew | heq
  · exact absurd hlt (Nat.not_lt.2 hnew)
  · exact absurd heq hne

/-! ## 3. Removing a pinger -/

/-- **A pinger to which no due work refers has no calls.** -/
theorem Sound.callsOf_of_not_holds (hs : Sound {} e) {id : PingerId} (h : e.holds id = false) :
    e.callsOf id = [] := by
  refine List.eq_nil_iff_forall_not_mem.2 fun call hcall => ?_
  have harmed : e.armed (.call id call.token call.timer) = 1 := by
    simpa using hs.armed.rings id call hcall
  simp only [Engine.holds, Bool.or_eq_false_iff, List.any_eq_false] at h
  obtain ⟨⟨hready, htimeline⟩, -⟩ := h
  have hnone : e.armed (.call id call.token call.timer) = 0 := by
    rw [Engine.armed, Nat.add_eq_zero_iff, List.countP_eq_zero, List.countP_eq_zero]
    refine ⟨fun task ht hrings => hready task ht ?_, fun entry he hring => htimeline entry he ?_⟩
    · cases task with
      | rang alarm code =>
        have hrings : (Task.rang alarm code).rings? = some (.call id call.token call.timer) :=
          of_decide_eq_true hrings
        simp only [Task.rings?] at hrings
        split at hrings
        · cases hrings
        · obtain rfl := Option.some.inj hrings
          simp [Engine.Task.holds]
      | _ => simp [Task.rings?] at hrings
    · have hring : entry.2 = .ring (.call id call.token call.timer) := of_decide_eq_true hring
      rw [hring]
      simp [Engine.Happening.holds]
  rw [hnone] at harmed
  cases harmed

/-- A pinger without calls, of no target, can go. -/
theorem Sound.retire (hs : Sound {} e) {id : PingerId} {pinger : Pinger}
    (hp : e.pingers[id]? = some pinger) (hcalls : pinger.calls = [])
    (ht : id ∉ e.targetPingers) :
    Sound {} (e.updatePinger id fun pinger => { pinger with gone := true }) := by
  let change : Pinger → Pinger := fun pinger => { pinger with gone := true }
  have hports : SamePorts e (e.updatePinger id change) := .updatePinger hp rfl
  have houtstanding : ∀ {client port}, e.port? client = some port →
      (e.updatePinger id change).outstanding client = e.outstanding client := fun hport =>
    Engine.outstanding_congr hports (Engine.waiter?_updatePinger _) hport rfl
  have hsame : SameCalls e (e.updatePinger id change) := .updatePinger fun _ => rfl
  exact {
    wired := hs.wired.of_ports hports
      (fun port client hp => hs.wired.waits port client (by rwa [← Engine.waiter?_updatePinger]))
      hs.wired.tasks hs.wired.later
    counted := {
      exact := fun client listens hl => by
        have hne : client ≠ .pinger id := by
          rintro rfl
          simp [Engine.listens?, Engine.pingers_updatePinger hp] at hl
        rw [Engine.listens?_updatePinger_of_ne hp _ hne] at hl
        obtain ⟨port, hport⟩ := Engine.exists_port? hl
        rw [houtstanding hport]
        exact hs.counted.exact client listens hl
      single := fun client port hport => by
        rw [hports.port?] at hport
        rw [houtstanding hport]
        exact hs.counted.single client port hport }
    settled := fun client hclient => by
      have hold := hs.settled client hclient
      cases client with
      | raw tag => trivial
      | hub other => exact hold
      | pinger other =>
        intro pinger' hp' hg
        rw [Engine.pingers_updatePinger hp] at hp'
        split at hp'
        · obtain rfl := Option.some.inj hp'
          cases hg
        · exact hold pinger' hp' hg
    ledger := hs.ledger.same hsame
    armed := hs.armed.same hsame
    gone := fun other pinger' hp' hg => by
      rw [Engine.pingers_updatePinger hp] at hp'
      split at hp'
      · obtain rfl := Option.some.inj hp'
        exact hcalls
      · exact hs.gone other pinger' hp' hg
    targets := fun other hother => by
      obtain ⟨⟨pinger', hp', hg⟩, hrel⟩ := hs.targets other hother
      have hne : other ≠ id := by
        rintro rfl
        exact ht hother
      exact ⟨⟨pinger', by rwa [Engine.pingers_updatePinger hp, if_neg hne], hg⟩, hrel⟩
    listed := hs.listed.same rfl rfl }

/-- A pinger that goes orphans its mailbox and changes no inbox. -/
theorem Still.retire {id : PingerId} {pinger : Pinger} (hp : e.pingers[id]? = some pinger) :
    Still (fun _ _ => False) e (e.updatePinger id fun pinger => { pinger with gone := true }) :=
  { Still.refl e with
    mailed := fun hm => ⟨hm.boxes, hm.sockets, fun task ht => (hm.tasks task ht).congr rfl⟩
    inbox := fun _ => Engine.inbox_congr (SamePorts.updatePinger hp rfl) rfl rfl
    shut := fun _ _ _ _ _ hshut => .inl hshut
    orphan := fun box ho => by
      obtain ⟨other, pinger', hp', hbox, hg⟩ := ho
      rw [Engine.Orphan]
      by_cases hother : other = id
      · subst hother
        obtain rfl := Option.some.inj (hp.symm.trans hp')
        exact ⟨other, _, (Engine.pingers_updatePinger hp _ _).trans (if_pos rfl), hbox, rfl⟩
      · exact ⟨other, pinger', (Engine.pingers_updatePinger hp _ _).trans ((if_neg hother).trans hp'),
          hbox, hg⟩ }

/-! ## 4. Closing calmly -/

/-- No pinger changes, no receive is started or told, and no caller is told. -/
structure Calm (e e' : Engine) : Prop where
  wired : Wired e'
  ports : SamePorts e e'
  pingers : e'.pingers = e.pingers
  endings : e'.endings = e.endings
  outstanding : ∀ client port, e.port? client = some port →
    e'.outstanding client = e.outstanding client

namespace Calm

theorem refl (hw : Wired e) : Calm e e :=
  ⟨hw, ⟨fun _ => rfl, rfl, rfl⟩, rfl, rfl, fun _ _ _ => rfl⟩

theorem trans (h : Calm e e') (h' : Calm e' e'') : Calm e e'' where
  wired := h'.wired
  ports := {
    port? := fun client => (h'.ports.port? client).trans (h.ports.port? client)
    socketCount := h'.ports.socketCount.trans h.ports.socketCount
    boxCount := h'.ports.boxCount.trans h.ports.boxCount }
  pingers := h'.pingers.trans h.pingers
  endings := h'.endings.trans h.endings
  outstanding client port hp :=
    (h'.outstanding client port (by rwa [h.ports.port?])).trans (h.outstanding client port hp)

theorem of_aside (hw : Wired e) (h : Aside e e') : Calm e e' :=
  ⟨hw.aside h, h.receives.ports, h.pingers, h.endings, fun client _ hp =>
    Engine.outstanding_congr h.receives.ports h.receives.waiter? hp (h.receives.posted client)⟩

theorem of_passes (hw : Wired e) (h : Passes e e') : Calm e e' :=
  ⟨hw.passes h, h.same.ports, h.same.pingers, h.same.endings, fun _ _ hp => h.outstanding hw hp⟩

/-- What is written into a socket is nothing to those who receive there. -/
theorem updateSocket (hw : Wired e) (socket : SocketId) {change : RawSocket → RawSocket}
    (hr : ∀ record, (change record).receiver = record.receiver) :
    Calm e (e.updateSocket socket change) := by
  have hports : SamePorts e (e.updateSocket socket change) :=
    ⟨fun client => by cases client <;> rfl, Array.size_modify, rfl⟩
  have hwaiter : ∀ port, (e.updateSocket socket change).waiter? port = e.waiter? port := by
    intro port
    rw [Engine.waiter?_updateSocket]
    split
    · next h => subst h; cases hs : e.sockets[socket]? <;> simp [Engine.waiter?, hs, hr]
    · rfl
  exact ⟨hw.of_ports hports (fun port client hp => hw.waits port client (by rwa [← hwaiter]))
    hw.tasks hw.later, hports, rfl, rfl, fun _ _ hp => Engine.outstanding_congr hports hwaiter hp rfl⟩

theorem closeMail (hw : Wired e) (box : MailboxId) (reason : ErrorCode) :
    Calm e (e.closeMail box reason) := of_passes hw (.closeMail hw box reason)

theorem closeSocket (hw : Wired e) (socket : SocketId) : Calm e (e.closeSocket socket) := by
  unfold Engine.closeSocket
  split
  · exact refl hw
  · next record _ =>
    have hfail : ∀ works : Bool, Calm e (if works then e
        else e.updateSocket socket fun record => { record with fatal := .aborted }) := by
      intro works
      cases works with
      | true => exact refl hw
      | false => exact updateSocket hw socket fun _ => rfl
    have hfailed := hfail record.fatal.isError
    have hcancelled := of_aside hfailed.wired (.cancelLimiter record.limiter)
    have hended := of_passes hcancelled.wired (.endReceive hcancelled.wired socket .aborted)
    exact ((hfailed.trans hcancelled).trans hended).trans
      (updateSocket hended.wired socket fun _ => rfl)

end Calm

/-! ## 5. Removing pingers -/

/-- What removing pingers leaves. -/
structure Retires (ids : List PingerId) (e e' : Engine) : Prop where
  sound : Sound {} e'
  onward : Onward e e'
  others : ∀ id, id ∉ ids → e'.pingers[id]? = e.pingers[id]?
  calls : ∀ id, e'.callsOf id = e.callsOf id
  released : e'.released = e.released
  targets : e'.targetPingers = e.targetPingers
  endings : e'.endings = e.endings
  outstanding : ∀ client port, e.port? client = some port →
    e'.outstanding client = e.outstanding client
  still : Still (fun _ _ => False) e e'

namespace Retires

theorem nil (hs : Sound {} e) : Retires [] e e :=
  ⟨hs, .refl e, fun _ _ => rfl, fun _ => rfl, rfl, rfl, rfl, fun _ _ _ => rfl, .refl e⟩

theorem trans {id : PingerId} {ids : List PingerId} (h : Retires [id] e e')
    (h' : Retires ids e' e'') (hs : Sound {} e) : Retires (id :: ids) e e'' where
  sound := h'.sound
  onward := h.onward.trans h'.onward hs.wired
  others other hother := by
    rw [h'.others other fun hmem => hother (List.mem_cons_of_mem _ hmem),
      h.others other fun hmem => hother (List.mem_singleton.1 hmem ▸ List.mem_cons_self)]
  calls other := (h'.calls other).trans (h.calls other)
  released := h'.released.trans h.released
  targets := h'.targets.trans h.targets
  endings := h'.endings.trans h.endings
  outstanding client port hp :=
    (h'.outstanding client port (h.onward.port? hp)).trans (h.outstanding client port hp)
  still := h.still.trans h'.still

/-- **Removing one pinger that has no calls.** -/
theorem removePinger (hs : Sound {} e) {id : PingerId} (hcalls : e.callsOf id = [])
    (ht : id ∉ e.targetPingers) : Retires [id] e (e.removePinger id) := by
  unfold Engine.removePinger
  split
  · exact { nil hs with others := fun _ _ => rfl }
  · next pinger hp =>
    let retired := e.updatePinger id fun pinger => { pinger with gone := true }
    rw [Engine.callsOf_eq hp] at hcalls
    have hs' : Sound {} retired := hs.retire hp hcalls ht
    have honward : Onward e retired := {
      Onward.refl e with
      fits := fun client port => ((SamePorts.updatePinger hp rfl).fits client port).2
      pingers := fun other pinger' hp' => by
        rw [Engine.pingers_updatePinger hp]
        by_cases hother : other = id
        · subst hother
          obtain rfl := Option.some.inj (hp.symm.trans hp')
          exact ⟨_, if_pos rfl, rfl, rfl, rfl, fun _ => rfl⟩
        · exact ⟨pinger', by rwa [if_neg hother], rfl, rfl, rfl, fun hg => hg⟩ }
    have hsame : SameCalls e retired := .updatePinger fun _ => rfl
    have hports : SamePorts e retired := .updatePinger hp rfl
    -- what is closed then is nothing to any pinger
    have hclose : ∀ next, Acts {} retired {} next → Calm retired next → Retires [id] e next := by
      intro next hrow hcalm
      have hsteady := hrow.steady hs'
      refine ⟨hrow.sound hs', honward.trans (.of_steady hsteady) hs.wired, fun other hother => ?_,
        fun other => ?_, hsteady.released, hsteady.targets, hcalm.endings,
        fun client port hport => ?_, (Still.retire hp).trans (hrow.still hs')⟩
      · rw [hcalm.pingers, Engine.pingers_updatePinger hp, if_neg (by simpa using hother)]
      · rw [← hsame.calls other, Engine.callsOf, Engine.callsOf, hcalm.pingers]
      · rw [hcalm.outstanding client port (by rwa [hports.port?])]
        exact Engine.outstanding_congr hports (Engine.waiter?_updatePinger _) hport rfl
    simp only []
    split
    · next box hmailbox =>
      have horphan : retired.Orphan box :=
        ⟨id, _, (Engine.pingers_updatePinger hp _ _).trans (if_pos rfl), hmailbox, rfl⟩
      have hact : Act {} retired {} (retired.closeMail box PingFault.registrationClosed.code) :=
        .closeMail (by simp) fun _ _ _ => .inr horphan
      exact hclose _ (.one hact) (.closeMail hs'.wired _ _)
    · next hmailbox =>
      have hrow : Acts {} retired {} (retired.closeSocket pinger.socket) := by
        refine Acts.closeSocket fun other hub hh hsocket => ?_
        have hown : e.port? (.pinger id) = some (.socket pinger.socket) := by
          simp only [Engine.port?, hp, Option.map_some, Pinger.port, hmailbox]
        have hhub : e.port? (.hub other) = some (.socket pinger.socket) := by
          have hh : e.hubs[other]? = some hub := hh
          simp only [Engine.port?, hh, Option.map_some, hsocket]
        cases hs.wired.unique _ _ _ hown hhub
      exact hclose _ hrow (.closeSocket hs'.wired _)

theorem removePingers :
    ∀ (ids : List PingerId) {e : Engine} (_ : Sound {} e),
      (∀ id ∈ ids, e.callsOf id = []) → (∀ id ∈ ids, id ∉ e.targetPingers) →
      Retires ids e (ids.foldl Engine.removePinger e)
  | [], _, hs, _, _ => nil hs
  | id :: ids, e, hs, hcalls, ht => by
    have hfirst := removePinger hs (hcalls id List.mem_cons_self) (ht id List.mem_cons_self)
    refine hfirst.trans (removePingers ids hfirst.sound (fun other hother => ?_)
      fun other hother => ?_) hs
    · rw [hfirst.calls]
      exact hcalls other (List.mem_cons_of_mem _ hother)
    · rw [hfirst.targets]
      exact ht other (List.mem_cons_of_mem _ hother)

end Retires

/-! ## 6. Sweeping -/

theorem Sound.withReleased (hs : Sound {} e) {released : List PingerId}
    (h : ∀ id ∈ released, id ∉ e.targetPingers) : Sound {} { e with released } :=
  { hs with
    wired := { hs.wired with }
    counted := hs.counted.same ⟨rfl, rfl, rfl, rfl, fun _ => rfl⟩
    settled := fun client hclient => (hs.settled client hclient).congr rfl rfl fun _ => rfl
    ledger := { hs.ledger with }
    armed := { hs.armed with }
    targets := fun id hid => ⟨(hs.targets id hid).1, fun hrel => h id hrel hid⟩
    listed := hs.listed.same rfl rfl }

theorem Still.withReleased {may : HubId → Address → Prop} (released : List PingerId) :
    Still may e { e with released } :=
  { refl e with
    mailed := fun hm => ⟨hm.boxes, hm.sockets, fun task ht => (hm.tasks task ht).congr rfl⟩
    inbox := fun _ => Engine.inbox_congr ⟨fun client => by cases client <;> rfl, rfl, rfl⟩ rfl rfl }

/-- **Sweeping removes the released pingers that nothing refers to.** -/
theorem Retires.sweep (hs : Sound {} e) :
    Retires (e.released.filter fun id => !e.holds id)
      { e with released := e.released.filter e.holds } e.sweep := by
  have hsweep : e.sweep = (e.released.filter fun id => !e.holds id).foldl Engine.removePinger
      { e with released := e.released.filter e.holds } := by
    simp only [Engine.sweep, List.partition_eq_filter_filter]
    rfl
  rw [hsweep]
  refine removePingers _ (hs.withReleased fun id hid ht => ?_) (fun id hid => ?_) fun id hid ht => ?_
  · exact (hs.targets id ht).2 (List.mem_filter.1 hid).1
  · exact hs.callsOf_of_not_holds (by simpa using (List.mem_filter.1 hid).2)
  · exact (hs.targets id ht).2 (List.mem_filter.1 hid).1

theorem Moved.sweep (hs : Sound {} e) : Moved e e.sweep := by
  have hretires := Retires.sweep hs
  have hstill := (Still.withReleased _).trans hretires.still
  exact {
    sound := hretires.sound
    onward := { hretires.onward with }
    kept := fun id hk => by
      obtain ⟨⟨pinger, hp, hg⟩, hrel⟩ := hk
      refine ⟨⟨pinger, ?_, hg⟩, ?_⟩
      · rw [hretires.others id fun hid => hrel (List.mem_filter.1 hid).1]
        exact hp
      · rw [hretires.released]
        exact fun hid => hrel (List.mem_filter.1 hid).1
    released := fun id hid => by
      rw [hretires.released] at hid
      exact (List.mem_filter.1 hid).1
    targets := fun id hid => .inl (by rwa [hretires.targets] at hid)
    still := hstill
    attended := fun ha => hstill.attended_of_none ha hs.listed }

/-! ## 7. One task, one item -/

/-- **Any ready task may be performed.** -/
theorem Sound.perform (hs : Sound {} e) {front back : List Task} {task : Task}
    (hr : e.ready = front ++ task :: back) :
    Sound {} ({ e with ready := front ++ back }.perform task) ∧
      Steady e ({ e with ready := front ++ back }.perform task) := by
  obtain ⟨htaken, hknown⟩ := hs.consume hr
  have hpasses := Engine.passes_offered htaken.wired task
  have hoffered := htaken.passes hpasses
  have hrow := Acts.perform htaken hknown
  exact ⟨(hrow.sound hoffered).withMay _, ((Steady.queues (front ++ back) e.timeline).trans
    (.of_sameParts hpasses.same)).trans (hrow.steady hoffered)⟩

/-- A timer that rings is posted, and has not been told. -/
theorem Sound.ring (hs : Sound {} e) {front back : List (Time × Happening)} {time : Time}
    {alarm : Alarm} (ht : e.timeline = front ++ (time, .ring alarm) :: back) :
    Sound {} { e with timeline := front ++ back, ready := e.ready ++ [.rang alarm .success] } := by
  let next : Engine :=
    { e with timeline := front ++ back, ready := e.ready ++ [.rang alarm .success] }
  have hreceives : SameReceives e next :=
    ⟨rfl, rfl, rfl, rfl, fun _ => Engine.posted_append_of_ne rfl (by simp [Task.listener?])⟩
  have harmed : ∀ other, next.armed other = e.armed other := by
    intro other
    have hcode : ErrorCode.success ≠ .aborted := by decide
    have hrings : (Task.rang alarm .success).rings? = some alarm := by simp [Task.rings?, hcode]
    simp only [Engine.armed, next, ht, List.countP_append, List.countP_cons, List.countP_nil,
      hrings, decide_eq_true_eq, Happening.ring.injEq, Option.some.injEq]
    omega
  have hsub : ∀ entry ∈ front ++ back, entry ∈ e.timeline := fun entry hentry =>
    (sublist_of_taken ht).subset hentry
  exact {
    wired := hs.wired.same hreceives
      (fun task htask => (List.mem_append.1 htask).symm.imp
        (fun h => by rw [List.mem_singleton.1 h]; rfl) fun h => h)
      fun time task htask => hs.wired.later time task (hsub _ htask)
    counted := hs.counted.same hreceives
    settled := fun client hclient => (hs.settled client hclient).congr rfl rfl fun _ => rfl
    ledger := { hs.ledger with
      refused := fun id number caller code sequence htask => by
        rcases List.mem_append.1 htask with htask | htask
        · exact hs.ledger.refused id number caller code sequence htask
        · simp at htask
      once := fun number ping hping => by
        have hrefused : next.refused number = e.refused number := by
          simp [next, Engine.refused, List.countP_append, Task.refusal?]
        rw [hrefused]
        exact hs.ledger.once number ping hping }
    armed := hs.armed.fewer (fun _ call hcall => ⟨call, hcall, rfl, rfl⟩) (fun _ _ _ => harmed _)
      (fun _ _ _ => Nat.le_of_eq (harmed _)) (Nat.le_refl _)
    gone := hs.gone
    targets := hs.targets
    listed := hs.listed.same rfl rfl }

theorem SameMail.ring {timeline : List (Time × Happening)} {alarm : Alarm} :
    SameMail e { e with timeline, ready := e.ready ++ [.rang alarm .success] } :=
  ⟨rfl, rfl, rfl, rfl, by simp [Task.listener?]⟩

/-- Taking an item that is not core off the timeline goes aside. -/
theorem Aside.withoutItem {front back : List (Time × Happening)} {time : Time} {item : Happening}
    (ht : e.timeline = front ++ (time, item) :: back) (hc : item.isCore = false) :
    Aside e { e with timeline := front ++ back } :=
  { refl e with
    timeline := by
      rw [ht, List.filter_append, List.filter_append,
        List.filter_cons_of_neg (by simp [hc])] }

namespace Moved

/-- **Any item of the timeline may happen next.** -/
theorem item (hs : Sound {} e) {front back : List (Time × Happening)} {time : Time}
    {item : Happening} (ht : e.timeline = front ++ (time, item) :: back) :
    Moved e ({ e with timeline := front ++ back }.happen item).sweep := by
  let rest : Engine := { e with timeline := front ++ back }
  have hmoved : Moved e (rest.happen item) := by
    cases item with
    | ring alarm =>
      have hsteady : Steady e (rest.happen (.ring alarm)) := .queues _ _
      exact of_steady hs (hs.ring ht) hsteady (SameMail.ring.still hsteady)
    | ready task =>
      have hcore : task.isCore = false :=
        hs.wired.later time task (ht ▸ List.mem_append_right _ List.mem_cons_self)
      have haside : Aside e rest := .withoutItem ht hcore
      exact of_aside hs (haside.trans (.post hcore))
    | deliver source data =>
      have haside : Aside e rest := .withoutItem ht rfl
      exact (of_aside hs haside).trans (deliver (hs.aside haside) source data) hs
    | signal number =>
      have haside : Aside e rest := .withoutItem ht rfl
      unfold Engine.happen
      simp only []
      split
      · exact of_aside hs (haside.trans ((Aside.awaitsSignal false).trans (.post rfl)))
      · exact of_aside hs haside
  exact hmoved.trans (sweep hmoved.sound) hs

end Moved

end IcmpEcho
