/-
# Pingers that are registered

A pinger that shares a socket has a mailbox.  **While the pinger lives, its mailbox is registered
with a hub on its socket, or is closed** (`Engine.Enrolls`): a registration ends only together with
its mailbox, whether it is replaced, refuses a datagram, or ends with all others of its hub
(`Session.Does.enlists`).

So a pinger that waits at its mailbox is registered, and when a hub has lost all registrations,
because its socket has failed, every pinger of it knows, or is about to be told.
-/
import IcmpEcho.Proofs.Closing

namespace IcmpEcho

variable {e e' e'' : Engine} {hand hand' : Hand} {box : MailboxId} {id : HubId} {hub : Hub}
  {k : SocketId} {address : Address}

/-! ## 1. The relation -/

namespace Engine

/-- The mailbox is closed, or registered with a hub on the socket. -/
def Enrolled (e : Engine) (box : MailboxId) (k : SocketId) : Prop :=
  e.Shut box ∨ ∃ (id : HubId) (hub : Hub) (address : Address), e.hubs[id]? = some hub ∧
    hub.socket = k ∧ e.registered? id address = some box

/-- **The invariant of registered pingers.** -/
def Enrolls (e : Engine) : Prop :=
  ∀ (id : PingerId) (pinger : Pinger) (box : MailboxId), e.pingers[id]? = some pinger →
    pinger.gone = false → pinger.mailbox = some box → e.Enrolled box pinger.socket

end Engine

/-- `e'` comes from `e`; registrations have ended only with their mailboxes, and new pingers are
registered. -/
structure Enlists (e e' : Engine) : Prop extends Reasons e e' where
  enrolled : ∀ box k, e.Enrolled box k → e'.Enrolled box k
  pingers : ∀ (id : PingerId) (pinger' : Pinger) (box : MailboxId),
    e'.pingers[id]? = some pinger' → pinger'.gone = false → pinger'.mailbox = some box →
    e'.Enrolled box pinger'.socket ∨ ∃ pinger, e.pingers[id]? = some pinger ∧
      pinger.gone = false ∧ pinger.mailbox = some box ∧ pinger.socket = pinger'.socket

namespace Enlists

theorem refl (e : Engine) : Enlists e e where
  toReasons := .refl e
  enrolled _ _ h := h
  pingers _ pinger _ hp hg hbox := .inr ⟨pinger, hp, hg, hbox, rfl⟩

theorem trans (h : Enlists e e') (h' : Enlists e' e'') : Enlists e e'' where
  toReasons := h.toReasons.trans h'.toReasons
  enrolled box k hb := h'.enrolled box k (h.enrolled box k hb)
  pingers id pinger'' box hp'' hg'' hbox'' := by
    rcases h'.pingers id pinger'' box hp'' hg'' hbox'' with hnew | ⟨pinger', hp', hg', hbox', hs'⟩
    · exact .inl hnew
    · rcases h.pingers id pinger' box hp' hg' hbox' with hnew | ⟨pinger, hp, hg, hbox, hs⟩
      · exact .inl (hs' ▸ h'.enrolled box _ hnew)
      · exact .inr ⟨pinger, hp, hg, hbox, hs.trans hs'⟩

theorem enrolls (h : Enlists e e') (he : e.Enrolls) : e'.Enrolls := by
  intro id pinger' box hp' hg' hbox'
  rcases h.pingers id pinger' box hp' hg' hbox' with hnew | ⟨pinger, hp, hg, hbox, hs⟩
  · exact hnew
  · exact hs ▸ h.enrolled box _ (he id pinger box hp hg hbox)

/-- Pingers are the same, and so are sockets of hubs; what was registered still is, or its mailbox
has been closed. -/
theorem of_onward (hr : Reasons e e') (ho : Onward e e')
    (registered : ∀ id address box, e.registered? id address = some box →
      e'.registered? id address = some box ∨ e'.Shut box)
    (pingers : ∀ id : PingerId, e.pingers[id]? = none → e'.pingers[id]? = none) :
    Enlists e e' where
  toReasons := hr
  enrolled box k hb := by
    rcases hb with hshut | ⟨id, hub, address, hh, hsocket, hregistered⟩
    · exact .inl (hr.shut hshut)
    · obtain ⟨hub', hh', hsame, -⟩ := ho.hubs id hub hh
      rcases registered id address box hregistered with hstill | hshut
      · exact .inr ⟨id, hub', address, hh', hsame.trans hsocket, hstill⟩
      · exact .inl hshut
  pingers id pinger' box hp' hg' hbox' := by
    cases hp : e.pingers[id]? with
    | none => exact absurd ((pingers id hp).symm.trans hp') (by simp)
    | some pinger =>
      obtain ⟨other, hother, -, hsocket, hmailbox, hgone⟩ := ho.pingers id pinger hp
      obtain rfl := Option.some.inj (hp'.symm.trans hother)
      refine .inr ⟨pinger, rfl, ?_, hmailbox.symm.trans hbox', hsocket.symm⟩
      cases hg : pinger.gone with
      | false => rfl
      | true => exact absurd ((hgone hg).symm.trans hg') (by simp)

theorem none_of_ports (h : SamePorts e e') (id : PingerId) (hnone : e.pingers[id]? = none) :
    e'.pingers[id]? = none := by
  have hport : e'.port? (.pinger id) = none := by rw [h.port?, Engine.port?, hnone, Option.map_none]
  exact Option.map_eq_none_iff.1 hport

/-- What nothing that is registered has to do with. -/
theorem of_moved (h : Moved e e') (hr : Reasons e e') (pingers : e'.pingers = e.pingers) :
    Enlists e e' :=
  of_onward hr h.onward (fun id address box hb => .inl (by rwa [h.still.frame id address fun h => h]))
    fun id hnone => by rwa [pingers]

/-- **Acts that may not end a registration end none.** -/
theorem acts (h : Acts hand e hand' e') (hs : Sound hand e) (hno : ∀ id address, ¬ hand.may id address) :
    Enlists e e' := by
  have hsteady := h.steady hs
  refine of_onward (.acts h hs) (.of_steady hsteady) (fun id address box hb => .inl ?_)
    (none_of_ports hsteady.ports)
  rwa [(h.still hs).frame id address (hno id address)]

theorem of_aside (hs : Sound {} e) (h : Aside e e') : Enlists e e' :=
  acts (.aside h : Acts {} e {} e') hs fun _ _ h => h

/-! ## 2. Mailboxes that are closed with their registrations -/

/-- What is closed for a reason is closed. -/
theorem shut_closeMail (hb : box < e.mailboxes.size) {reason : ErrorCode} (hr : reason.isError) :
    (e.closeMail box reason).Shut box := by
  have hold : e.mailboxes[box]? = some e.mailboxes[box] := Array.getElem?_eq_getElem hb
  unfold Engine.closeMail
  simp only [hold]
  rcases (e.mailboxes[box]).close_cases reason with ⟨hc, hclose⟩ | ⟨-, hclose⟩ <;> simp only [hclose]
  · exact ⟨_, (Engine.mailboxes_setMailbox hold _ box).trans (if_pos rfl), hc⟩
  · split
    · exact ⟨_, (Engine.mailboxes_setMailbox hold _ box).trans (if_pos rfl), hr⟩
    · exact ⟨_, (Engine.mailboxes_setMailbox hold _ box).trans (if_pos rfl), hr⟩

/-- A mailbox that is closed is not opened by closing others. -/
theorem shut_closeEach (reason : ErrorCode) :
    ∀ (entries : List (Address × MailboxId)) {e : Engine}, e.Shut box →
      (entries.foldl (fun e entry => e.closeMail entry.2 reason) e).Shut box
  | [], _, h => h
  | entry :: entries, e, h => by
    refine shut_closeEach reason entries ?_
    obtain ⟨value, hvalue, hc⟩ := h
    by_cases hne : box = entry.2
    · subst hne
      have hclose : value.close reason = (value, none) := by simp only [Mailbox.close, hc, if_true]
      simp only [Engine.closeMail, hvalue, hclose]
      exact ⟨value, (Engine.mailboxes_setMailbox hvalue _ _).trans (if_pos rfl), hc⟩
    · exact ⟨value, (Engine.mailboxes_closeMail_of_ne reason hne).trans hvalue, hc⟩

/-- **When every registration of a hub ends, every mailbox of it is closed.** -/
theorem shut_closeRegistrations {reason : ErrorCode} (hr : reason.isError)
    (hb : box < e.mailboxes.size) (hmem : ∃ address, (address, box) ∈ hub.registry) :
    (e.closeRegistrations id hub reason).Shut box := by
  have hall : ∀ (entries : List (Address × MailboxId)) {e : Engine}, box < e.mailboxes.size →
      (∃ address, (address, box) ∈ entries) →
      (entries.foldl (fun e entry => e.closeMail entry.2 reason) e).Shut box := by
    intro entries
    induction entries with
    | nil =>
      rintro e - ⟨address, hmem⟩
      cases hmem
    | cons entry entries ih =>
      rintro e hb ⟨address, hmem⟩
      rcases List.mem_cons.1 hmem with rfl | hmem
      · exact shut_closeEach reason entries (shut_closeMail hb hr)
      · refine ih ?_ ⟨address, hmem⟩
        rwa [(Inward.closeMail _ _).boxCount]
  exact hall hub.registry hb hmem

theorem mem_registry (hh : e.hubs[id]? = some hub) (hb : e.registered? id address = some box) :
    (address, box) ∈ hub.registry := by
  rw [Engine.registered?, hh, Option.bind_some] at hb
  exact Hub.mem_of_mailbox? hb

theorem shut_of_aside (h : Aside e e') (hs : e.Shut box) : e'.Shut box := (Reasons.of_aside h).shut hs

/-- A receive of a hub that failed closes all that was registered with it. -/
theorem shut_hubReceived_of_error (hl : Listed e) {code : ErrorCode} (hcode : code.isError)
    (source : Address) (data : Bytes) (hb : e.registered? id address = some box) :
    (e.hubReceived id code source data).Shut box := by
  have hlt := hl.known id address box (Engine.lists_of_registered? hb)
  cases hh : e.hubs[id]? with
  | none =>
    rw [Engine.registered?, hh] at hb
    cases hb
  | some hub =>
    have hclosed : ((e.updateHub id fun hub => { hub with running := false }).closeRegistrations id
        hub code).Shut box :=
      shut_closeRegistrations hcode hlt ⟨address, mem_registry hh hb⟩
    simp only [Engine.hubReceived, hh, if_pos hcode, Engine.failHub]
    split
    · exact hclosed
    · exact shut_of_aside (.logDated _ _) hclosed

/-- A mailbox that refuses a datagram is closed, when its registration ends. -/
theorem shut_hubReceived_of_refused {code : ErrorCode} (hcode : code.isError = false) (data : Bytes)
    (hlt : box < e.mailboxes.size) (hb : e.registered? id address = some box)
    (hrefuses : e.refuses box = true) : (e.hubReceived id code address data).Shut box := by
  cases hh : e.hubs[id]? with
  | none =>
    rw [Engine.registered?, hh] at hb
    cases hb
  | some hub =>
    have hmailbox : hub.mailbox? address = some box := by
      rwa [Engine.registered?, hh, Option.bind_some] at hb
    have haccepted := Engine.offerMail_accepted (e := e) box { time := e.now, packet := data }
    have hcount := (Inward.offerMail (e := e) box { time := e.now, packet := data }).boxCount
    simp only [Engine.hubReceived, hh, hcode, hmailbox]
    rw [if_neg (by simp)]
    split
    · next offered hoffer =>
      rw [hoffer, hrefuses] at haccepted
      cases haccepted
    · next offered hoffer =>
      rw [hoffer] at hcount
      have hshut : (offered.closeMail box PingFault.registrationClosed.code).Shut box :=
        shut_closeMail (by rwa [show offered.mailboxes.size = e.mailboxes.size from hcount]) (by simp)
      have hkept : ∀ {e' : Engine}, e'.mailboxes
          = (offered.closeMail box PingFault.registrationClosed.code).mailboxes → e'.Shut box := by
        intro e' hm
        rwa [Engine.Shut, hm]
      unfold Engine.endRegistration
      dsimp only
      split
      · refine hkept ?_
        rw [(Aside.logDated _ _).mailboxes, (Aside.logAbout _ _ _).mailboxes]
        rfl
      · refine hkept ?_
        rw [Engine.mailboxes_receiveForHub, (Aside.logAbout _ _ _).mailboxes]
        rfl

/-! ## 3. Tasks -/

/-- A task is performed; an offer that it makes comes first. -/
theorem reasons_perform (hs : Sound {} e) {front back : List Task} {task : Task}
    (h : e.ready = front ++ task :: back) :
    Reasons e ({ e with ready := front ++ back }.perform task) := by
  let rest : Engine := { e with ready := front ++ back }
  obtain ⟨hsound, htaken⟩ := hs.consume h
  have hpasses := Engine.passes_offered hsound.wired task
  have hsub : ∀ other ∈ front ++ back, other ∈ e.ready := fun other hother =>
    (sublist_of_taken h).subset hother
  have hrest : Reasons e rest := .of_same rfl (fun client _ h => by cases client <;> exact h)
    fun _ _ _ ht => hsub _ ht
  have hoffered : Reasons rest (rest.offered task) := by
    unfold Engine.offered
    split
    · split
      · exact .refl _
      · unfold Engine.hubOffer
        split
        · exact .refl _
        · exact .offerMail _ _
    · exact .refl _
  exact (hrest.trans hoffered).trans (.acts (Acts.perform hsound htaken) (hsound.passes hpasses))

/-- **What a task does to registrations**: one that ends is closed. -/
theorem registered?_perform (hs : Sound {} e) (hm : Mailed e) {front back : List Task} {task : Task}
    (h : e.ready = front ++ task :: back) (hb : e.registered? id address = some box) :
    let next := { e with ready := front ++ back }.perform task
    next.registered? id address = some box ∨ next.Shut box := by
  intro next
  let rest : Engine := { e with ready := front ++ back }
  have hhandled := hs.handle hm h
  have hlt := hs.listed.known id address box (Engine.lists_of_registered? hb)
  by_cases hmay : task.may id address
  · cases task with
    | received socket client code source data =>
      cases client with
      | hub other =>
        obtain ⟨rfl, haddress⟩ := hmay
        cases hcode : code.isError with
        | false =>
          obtain rfl := haddress hcode
          have hperform : next = rest.hubReceived id code address data := by
            simp [next, rest, Engine.perform, Engine.socketReceived, Engine.receiveEnded, hcode]
          rw [hperform]
          rcases Engine.registered?_hubReceived (e := rest) hcode data hb with
            ⟨hrefuses, -⟩ | ⟨-, hstill, -⟩
          · exact .inr (shut_hubReceived_of_refused hcode data hlt hb hrefuses)
          · exact .inl hstill
        | true =>
          let failed := if code = .aborted then rest else rest.failSocket socket code
          have hhubs : failed.hubs = e.hubs := by
            simp only [failed]
            split
            · rfl
            · unfold Engine.failSocket
              split
              · rfl
              · exact (Aside.logDated _ _).hubs
          have hboxes : failed.mailboxes = e.mailboxes := by
            simp only [failed]
            split
            · rfl
            · unfold Engine.failSocket
              split
              · rfl
              · exact (Aside.logDated _ _).mailboxes
          have hperform : next = failed.hubReceived id code .any [] := by
            simp only [next, Engine.perform, Engine.socketReceived, hcode, Engine.receiveEnded]
            rfl
          rw [hperform]
          have hb' : failed.registered? id address = some box := by
            rwa [Engine.registered?_eq hhubs]
          exact .inr (shut_hubReceived_of_error (hs.listed.same hhubs (by rw [hboxes])) hcode _ _ hb')
      | _ => exact hmay.elim
    | noReceive client code =>
      cases client with
      | hub other =>
        obtain rfl : id = other := hmay
        have hproper : e.Proper (.noReceive (.hub id) code) :=
          hs.wired.tasks _ (h ▸ List.mem_append_right _ List.mem_cons_self)
        have hperform : next = rest.hubReceived id code .any [] := rfl
        have hlisted : Listed rest := hs.listed.same rfl rfl
        have hb' : rest.registered? id address = some box := hb
        rw [hperform]
        exact .inr (shut_hubReceived_of_error hlisted hproper.1 _ _ hb')
      | _ => exact hmay.elim
    | _ => exact hmay.elim
  · exact .inl ((hhandled.frame id address hmay).trans hb)

theorem pingerCount_removePinger (hw : Wired e) (id : PingerId) :
    (e.removePinger id).pingers.size = e.pingers.size := by
  unfold Engine.removePinger
  split
  · rfl
  · next pinger hp =>
    have hports : SamePorts e (e.updatePinger id fun pinger => { pinger with gone := true }) :=
      .updatePinger hp rfl
    have hleft : Wired (e.updatePinger id fun pinger => { pinger with gone := true }) :=
      hw.of_ports hports (fun port client hc => hw.waits port client hc) hw.tasks hw.later
    have hsize : (e.updatePinger id fun pinger => { pinger with gone := true }).pingers.size
        = e.pingers.size := Array.size_modify
    dsimp only
    split
    · rw [(Calm.closeMail hleft _ _).pingers, hsize]
    · rw [(Calm.closeSocket hleft _).pingers, hsize]

/-- Sweeping makes no pingers. -/
theorem pingerCount_sweep (hw : Wired e) : e.sweep.pingers.size = e.pingers.size := by
  have hall : ∀ (ids : List PingerId) {e : Engine}, Wired e →
      (ids.foldl Engine.removePinger e).pingers.size = e.pingers.size := by
    intro ids
    induction ids with
    | nil => exact fun _ => rfl
    | cons id ids ih =>
      intro e hw
      exact (ih (Heeds.removePinger hw id).wired).trans (pingerCount_removePinger hw id)
  exact hall _ (Heeds.withReleased hw _).wired

theorem sweep (hs : Sound {} e) : Enlists e e.sweep := by
  have hmoved := Moved.sweep hs
  refine of_onward (.sweep hs.wired) hmoved.onward
    (fun id address box hb => .inl (by rwa [hmoved.still.frame id address fun h => h]))
    fun id hnone => ?_
  rw [Array.getElem?_eq_none_iff] at hnone ⊢
  rwa [pingerCount_sweep hs.wired]

/-- **A task ends a registration only with its mailbox.** -/
theorem perform (hs : Sound {} e) (hm : Mailed e) {front back : List Task} {task : Task}
    (h : e.ready = front ++ task :: back) :
    Enlists e ({ e with ready := front ++ back }.perform task).sweep := by
  obtain ⟨hsound, hsteady⟩ := hs.perform h
  refine (of_onward (reasons_perform hs h) (.of_steady hsteady)
    (fun id address box hb => registered?_perform hs hm h hb) (none_of_ports hsteady.ports)).trans
    (sweep hsound)

/-! ## 4. Done from outside -/

/-- Parts are added: hubs without registrations, and pingers that are registered or share nothing. -/
theorem of_added (mailboxes : e'.mailboxes = e.mailboxes) (ready : e'.ready = e.ready)
    (hubs : ∀ (id : HubId) (hub : Hub), e.hubs[id]? = some hub → e'.hubs[id]? = some hub)
    (old : ∀ (id : PingerId) (pinger : Pinger), e.pingers[id]? = some pinger →
      e'.pingers[id]? = some pinger)
    (new : ∀ (id : PingerId) (pinger : Pinger) (box : MailboxId), e'.pingers[id]? = some pinger →
      pinger.mailbox = some box → e.pingers[id]? = some pinger ∨ e'.Enrolled box pinger.socket) :
    Enlists e e' where
  toReasons := by
    refine .of_same mailboxes (fun client box hf => ?_) fun _ _ _ ht => by rwa [ready] at ht
    cases client with
    | raw tag => exact hf
    | hub id =>
      obtain ⟨hub, -, hport⟩ := Option.map_eq_some_iff.1 (show e.port? (.hub id) = _ from hf)
      cases hport
    | pinger id =>
      obtain ⟨pinger, hp, hport⟩ := Option.map_eq_some_iff.1 (show e.port? (.pinger id) = _ from hf)
      show e'.port? (.pinger id) = some (.box box)
      simp only [Engine.port?, old id pinger hp, Option.map_some, hport]
  enrolled box k hb := by
    rcases hb with ⟨value, hvalue, hc⟩ | ⟨id, hub, address, hh, hsocket, hregistered⟩
    · exact .inl ⟨value, by rwa [mailboxes], hc⟩
    · refine .inr ⟨id, hub, address, hubs id hub hh, hsocket, ?_⟩
      rwa [Engine.registered?, hubs id hub hh, ← hh]
  pingers id pinger' box hp' hg' hbox' := by
    rcases new id pinger' box hp' hbox' with hold | hnew
    · exact .inr ⟨pinger', hold, hg', hbox', rfl⟩
    · exact .inl hnew

theorem openSocket (hs : Sound {} e) (settings : SocketSettings) :
    Enlists e (e.openSocket settings).1 := by
  obtain ⟨record, hidle, haside, -⟩ := e.openSocket_grows settings
  have hgrown : Enlists e { e with sockets := e.sockets.push record } :=
    of_added rfl rfl (fun _ _ h => h) (fun _ _ h => h) fun _ _ _ h _ => .inl h
  exact hgrown.trans (of_aside (Moved.of_grows hs (.pushSocket hidle)).sound haside)

theorem openHub (hs : Sound {} e) (settings : SocketSettings) :
    Enlists e (e.openHub settings).1 := by
  have hopened := openSocket hs settings
  unfold Engine.openHub
  split
  · next hopen => rwa [hopen] at hopened
  · next opened socket hopen =>
    rw [hopen] at hopened
    refine hopened.trans (of_added rfl rfl (fun id hub hh => ?_) (fun _ _ h => h)
      fun _ _ _ h _ => .inl h)
    exact Array.getElem?_push_of_some hh _

theorem createPinger (hs : Sound {} e) (destination : Address) (settings : SocketSettings) :
    Enlists e (e.createPinger destination settings).1 := by
  have hopened := openSocket hs { settings with family := destination.family }
  unfold Engine.createPinger
  split
  · next hopen => rwa [hopen] at hopened
  · next opened socket hopen =>
    rw [hopen] at hopened
    refine hopened.trans (of_added rfl rfl (fun _ _ h => h) (fun id pinger hp => ?_)
      fun id pinger box hp hbox => ?_)
    · exact Array.getElem?_push_of_some hp _
    · -- the new pinger has no mailbox
      rcases Array.getElem?_push_cases opened.pingers _ id with hsame | ⟨-, hnew⟩
      · exact .inl (hsame ▸ hp)
      · obtain rfl := Option.some.inj (hnew.symm.trans hp)
        cases hbox

/-- To start a hub opens nothing. -/
theorem shut_startHub (hs : e.Shut box) : (e.startHub id).Shut box := by
  unfold Engine.startHub
  split
  · exact hs
  · next hub hh =>
    dsimp only
    split
    · exact shut_closeEach _ _ hs
    · split
      · exact hs
      · rw [Engine.Shut, Engine.mailboxes_receiveForHub, (Aside.logDated _ _).mailboxes]
        exact hs

/-- On a failed socket a hub that is started ends all registrations instead. -/
theorem startRegistration_of_failed (hs : Sound {} e) (hh : e.hubs[id]? = some hub)
    (destination : Address) (hfailed : (e.fatalOf hub.socket).isError) :
    e.startRegistration id hub destination
      = (e.withRegistration id hub destination).closeRegistrations id
          { hub with registry := Hub.enter destination e.mailboxes.size hub.registry }
          (e.fatalOf hub.socket) := by
  obtain ⟨hhub, -, hfatal⟩ := Engine.withRegistration_spec hs hh destination
  simp only [Engine.startRegistration, Engine.startHub, hhub, hfatal hub.socket]
  exact if_pos hfailed

/-- On a failed socket the fresh mailbox of a registration is closed at once. -/
theorem enrolled_startRegistration (hs : Sound {} e) (hh : e.hubs[id]? = some hub)
    (destination : Address) :
    (e.startRegistration id hub destination).Enrolled e.mailboxes.size hub.socket := by
  obtain ⟨hmoved, hbox, -⟩ := Moved.startRegistration hs hh destination
  rcases Engine.startRegistration_cases hs hh destination with ⟨hfailed, -⟩ | ⟨-, hregistered, -⟩
  · obtain ⟨-, hopen, -⟩ := Engine.withRegistration_spec hs hh destination
    have hmailbox : Hub.mailbox?
        { hub with registry := Hub.enter destination e.mailboxes.size hub.registry } destination
          = some e.mailboxes.size := Hub.lookup_enter_self destination e.mailboxes.size hub.registry
    rw [startRegistration_of_failed hs hh destination hfailed]
    exact .inl (shut_closeRegistrations hfailed (Array.getElem?_eq_some_iff.1 hopen).1
      ⟨destination, Hub.mem_of_mailbox? hmailbox⟩)
  · obtain ⟨hub', hh', hsocket, -⟩ := hmoved.onward.hubs id hub hh
    exact .inr ⟨id, hub', destination, hh', hsocket, hregistered⟩

/-- A mailbox that is open, or closed for a reason, is so after others were closed for it. -/
theorem reason_closeEach {reason : ErrorCode} :
    ∀ (entries : List (Address × MailboxId)) {e : Engine},
      (∃ value, e.mailboxes[box]? = some value ∧ (value.isClosed → value.reason = reason)) →
      ∃ value, (entries.foldl (fun e entry => e.closeMail entry.2 reason) e).mailboxes[box]?
        = some value ∧ (value.isClosed → value.reason = reason)
  | [], _, h => h
  | entry :: entries, e, ⟨value, hvalue, hreason⟩ => by
    refine reason_closeEach entries ?_
    by_cases hne : box = entry.2
    · subst hne
      simp only [Engine.closeMail, hvalue]
      rcases value.close_cases reason with ⟨-, hclose⟩ | ⟨-, hclose⟩ <;> simp only [hclose]
      · exact ⟨value, (Engine.mailboxes_setMailbox hvalue _ _).trans (if_pos rfl), hreason⟩
      · split
        · exact ⟨_, (Engine.mailboxes_setMailbox hvalue _ _).trans (if_pos rfl), fun _ => rfl⟩
        · exact ⟨_, (Engine.mailboxes_setMailbox hvalue _ _).trans (if_pos rfl), fun _ => rfl⟩
    · exact ⟨value, (Engine.mailboxes_closeMail_of_ne reason hne).trans hvalue, hreason⟩

/-- **On a failed socket the fresh mailbox of a registration is closed for the reason of the
failure.** -/
theorem reason_startRegistration (hs : Sound {} e) (hh : e.hubs[id]? = some hub)
    (destination : Address) (hfailed : (e.fatalOf hub.socket).isError) :
    ∃ value, (e.startRegistration id hub destination).mailboxes[e.mailboxes.size]? = some value ∧
      value.reason = e.fatalOf hub.socket := by
  obtain ⟨-, hopen, -⟩ := Engine.withRegistration_spec hs hh destination
  have hmailbox : Hub.mailbox?
      { hub with registry := Hub.enter destination e.mailboxes.size hub.registry } destination
        = some e.mailboxes.size := Hub.lookup_enter_self destination e.mailboxes.size hub.registry
  rw [startRegistration_of_failed hs hh destination hfailed]
  obtain ⟨value, hvalue, hclosed⟩ :=
    @shut_closeRegistrations (e.withRegistration id hub destination) e.mailboxes.size id
      { hub with registry := Hub.enter destination e.mailboxes.size hub.registry } _ hfailed
      (Array.getElem?_eq_some_iff.1 hopen).1 ⟨destination, Hub.mem_of_mailbox? hmailbox⟩
  obtain ⟨other, hother, hreason⟩ := reason_closeEach
    (Hub.enter destination e.mailboxes.size hub.registry)
    (e := (e.withRegistration id hub destination).updateHub id fun hub => { hub with registry := [] })
    ⟨_, hopen, fun hc => by cases hc⟩
  obtain rfl := Option.some.inj (hvalue.symm.trans hother)
  exact ⟨value, hvalue, hreason hclosed⟩

/-- The mailbox that a registration replaces is closed. -/
theorem shut_startRegistration (hs : Sound {} e) (hh : e.hubs[id]? = some hub)
    {destination : Address} (hb : e.registered? id destination = some box) :
    (e.startRegistration id hub destination).Shut box := by
  have hlt := hs.listed.known id destination box (Engine.lists_of_registered? hb)
  have hmailbox : hub.mailbox? destination = some box := by
    rwa [Engine.registered?, hh, Option.bind_some] at hb
  refine shut_startHub ?_
  simp only [Engine.withRegistration, Engine.enterRegistration_eq, hmailbox]
  refine shut_of_aside (.logAbout _ _ _) (shut_closeMail ?_ (by simp))
  simp only [Engine.enterBox, Engine.updateHub, Engine.addMailbox, Array.size_push]
  exact Nat.lt_succ_of_lt hlt

/-- **A pinger is registered**; the mailbox that it replaces is closed. -/
theorem register (hs : Sound {} e) (id : HubId) (destination : Address) :
    Enlists e (e.register id destination).1 := by
  rcases e.register_cases id destination with ⟨failure, hregister⟩ | ⟨hub, hh, hregister⟩
  · rw [hregister]
    exact refl e
  · rw [hregister]
    let boxed := (e.addMailbox 100).1
    let entered := boxed.enterBox id destination e.mailboxes.size
    let started := e.startRegistration id hub destination
    obtain ⟨hentered, -⟩ := Moved.enterBox hs hh destination
    have hrow := Acts.startRegistration hs hh destination
    obtain ⟨hmoved, -⟩ := Moved.startRegistration hs hh destination
    have hboxed : Reasons e boxed := by
      refine .of_grown (fun box value hvalue => Array.getElem?_push_of_some hvalue _)
        (fun box value hvalue => ?_) (fun client _ h => by cases client <;> exact h)
        fun _ _ _ h => h
      rcases Array.getElem?_push_cases e.mailboxes _ box with hsame | ⟨-, hnew⟩
      · exact .inl (hsame ▸ hvalue)
      · obtain rfl := Option.some.inj (hnew.symm.trans hvalue)
        exact .inr rfl
    have hlisted : Reasons boxed entered :=
      .of_same rfl (fun client box => ((SamePorts.updateHub hh rfl).fits client (.box box)).2)
        fun _ _ _ h => h
    have hreasons : Reasons e started := (hboxed.trans hlisted).trans (.acts hrow hentered)
    have hstarted : Enlists e started := by
      refine of_onward hreasons hmoved.onward (fun other address box hb => ?_) fun other hnone =>
        none_of_ports (hrow.steady hentered).ports other hnone
      by_cases hat : Engine.At id destination other address
      · obtain ⟨rfl, rfl⟩ := hat
        exact .inr (shut_startRegistration hs hh hb)
      · exact .inl ((hmoved.still.frame other address hat).trans hb)
    refine hstarted.trans (of_added rfl rfl (fun _ _ h => h) (fun other pinger hp => ?_)
      fun other pinger box hp hbox => ?_)
    · exact Array.getElem?_push_of_some hp _
    · rcases Array.getElem?_push_cases started.pingers _ other with hsame | ⟨-, hnew⟩
      · exact .inl (hsame ▸ hp)
      · obtain rfl := Option.some.inj (hnew.symm.trans hp)
        obtain rfl := Option.some.inj hbox
        exact .inr (enrolled_startRegistration hs hh destination)

/-- **A hub is closed**, and every mailbox that was registered with it. -/
theorem closeHub (hs : Sound {} e) (id : HubId) : Enlists e (e.closeHub id) := by
  have hmay := hs.withMay fun hub _ => hub = id
  have hrow : Acts _ e _ (e.closeHub id) := Acts.closeHub hmay id fun _ => rfl
  have hsteady := hrow.steady hmay
  refine of_onward (.acts hrow hmay) (.of_steady hsteady) (fun other address box hb => ?_)
    (none_of_ports hsteady.ports)
  by_cases heq : other = id
  · subst heq
    have hlt := hs.listed.known other address box (Engine.lists_of_registered? hb)
    cases hh : e.hubs[other]? with
    | none =>
      rw [Engine.registered?, hh] at hb
      cases hb
    | some hub =>
      simp only [Engine.closeHub, hh]
      refine .inr (Reasons.shut (.closeSocket _) ?_)
      exact shut_closeRegistrations rfl hlt ⟨address, mem_registry hh hb⟩
  · exact .inl (((hrow.still hmay).frame other address heq).trans hb)

/-- **What is done from outside ends a registration only with its mailbox.** -/
theorem outer (h : Engine.Outer e e') (hs : Sound {} e) : Enlists e e' := by
  have hnone : ∀ {e' : Engine}, Acts {} e {} e' → Enlists e e' :=
    fun hrow => acts hrow hs fun _ _ h => h
  have hsame : ∀ {e' : Engine}, e'.mailboxes = e.mailboxes → e'.ready = e.ready →
      e'.hubs = e.hubs → e'.pingers = e.pingers → Enlists e e' := fun hm hr hh hp =>
    of_added hm hr (fun id hub h => by rwa [hh]) (fun id pinger h => by rwa [hp])
      fun id pinger box h _ => .inl (by rwa [hp] at h)
  cases h with
  | openSocket settings => exact openSocket hs settings
  | openHub settings => exact openHub hs settings
  | createPinger destination settings => exact createPinger hs destination settings
  | register id destination => exact register hs id destination
  | configure hp hg alike receiving => exact hnone (.configure hs hp hg alike receiving)
  | @ping id hk sequence caller =>
    refine hnone (Acts.ping hs (fun pinger hp => ?_) _ _)
    obtain ⟨⟨pinger', hp', hg⟩, -⟩ := hk
    obtain rfl := Option.some.inj (hp.symm.trans hp')
    exact hg
  | closeSocket hraw =>
    refine hnone (Acts.closeSocket fun id hub hh hsocket => ?_)
    refine absurd ?_ ((hraw "").2 (.hub id))
    simp only [Engine.port?, hh, Option.map_some, hsocket]
  | closeHub id => exact closeHub hs id
  | @releasePinger id hk ht =>
    have hreleased : Sound {} { e with released := e.released ++ [id] } :=
      hs.withReleased fun other hother hto => by
        rcases List.mem_append.1 hother with hold | hnew
        · exact (hs.targets other hto).2 hold
        · exact ht (List.mem_singleton.1 hnew ▸ hto)
    have hset : Enlists e { e with released := e.released ++ [id] } := hsame rfl rfl rfl rfl
    exact hset.trans (sweep hreleased)
  | cancelSocket hraw => exact of_moved (.cancelSocket hs _) (.endReceive _ _) (Inward.endReceive _ _).pingers
  | deliver source data =>
    exact of_moved (.deliver hs source data) (.deliver _ _) (Inward.deliver _ _).pingers
  | schedule time source data => exact hsame rfl rfl rfl rfl
  | failReceives family errno only =>
    exact of_moved (.failReceives hs family errno only) (.failReceives _ _ _)
      (Inward.failReceives _ _ _).pingers
  | logLevel level => exact hsame rfl rfl rfl rfl
  | logAbout address severity message => exact of_aside hs (.logAbout _ _ _)
  | serve service => exact hsame rfl rfl rfl rfl

theorem outers (h : Engine.Outers e e') : Enlists e e' :=
  h.lift .refl .trans fun hs h => .outer h hs

/-- An item of the timeline ends no registration. -/
theorem item (hs : Sound {} e) {front back : List (Time × Happening)} {time : Time}
    {item : Happening} (ht : e.timeline = front ++ (time, item) :: back) :
    Enlists e ({ e with timeline := front ++ back }.happen item).sweep := by
  have hmoved := Moved.item hs ht
  have hwired := (Heeds.item hs.wired ht).wired
  have hpingers : (({ e with timeline := front ++ back } : Engine).happen item).pingers = e.pingers :=
    Engine.pingers_happen item
  refine of_onward ((Reasons.item hs.wired ht).trans (.sweep hwired)) hmoved.onward
    (fun id address box hb => .inl (by rwa [hmoved.still.frame id address fun h => h]))
    fun id hnone => ?_
  rw [Array.getElem?_eq_none_iff] at hnone ⊢
  rwa [pingerCount_sweep hwired, hpingers]

end Enlists

/-! ## 5. Deeds -/

namespace Session

variable {s s' : Session} {deed : Deed}

/-- **Whatever happens ends a registration only with its mailbox.** -/
theorem Does.enlists (h : Does s deed s') (hs : s.Sound) : Enlists s.engine s'.engine := by
  have he := hs.engine
  have hsame : ∀ {e e' : Engine}, e'.mailboxes = e.mailboxes → e'.ready = e.ready →
      e'.hubs = e.hubs → e'.pingers = e.pingers → Enlists e e' := fun hm hr hh hp =>
    .of_added hm hr (fun id hub h => by rwa [hh]) (fun id pinger h => by rwa [hp])
      fun id pinger box h _ => .inl (by rwa [hp] at h)
  cases h with
  | step step hrun =>
    by_cases hraw : step.isRaw = false
    · exact .outers (hs.perform_outers hrun hraw)
    · cases step with
      | send name destination data tag =>
        simp only [Session.perform, Session.use]
        split
        · exact .refl _
        · next handle _ =>
          cases handle with
          | socket k => exact .of_aside he (.submit _ _ _ _)
          | _ => exact .refl _
      | receive name room tag =>
        obtain ⟨⟨-, honward⟩, hstill⟩ := hs.perform hrun
        have hreceived : Reasons s.engine (s.perform (.receive name room tag)).1.engine ∧
            (s.perform (.receive name room tag)).1.engine.pingers = s.engine.pingers := by
          simp only [Session.perform, Session.use]
          split
          · exact ⟨.refl _, rfl⟩
          · next handle _ =>
            cases handle with
            | socket k => exact ⟨.receive _ _ _, (Inward.receive (by simp) _).pingers⟩
            | _ => exact ⟨.refl _, rfl⟩
        exact .of_onward hreceived.1 honward
          (fun id address box hb => .inl (by rwa [hstill.frame id address fun h => h]))
          fun id hnone => by rwa [hreceived.2]
      | _ => exact absurd rfl hraw
  | task h => exact .perform he hs.mailed h
  | item h => exact .item he h
  | clock now => exact .of_aside he (.clock now)
  | network network => exact hsame rfl rfl rfl rfl
  | openService config => exact .outers (.openService he hs.remembers config)
  | startService =>
    have hwaits : Aside s.engine { s.engine with awaitsSignal := true } := .awaitsSignal true
    have hbegun := hwaits.trans (.logDated .warn ("pingmux service started with "
      ++ toString ((s.engine.service.map fun service => service.targets.size).getD 0)
      ++ " target(s)"))
    have hmoved := Moved.of_aside he hbegun
    exact (Enlists.of_aside he hbegun).trans
      (.acts (.startRound hmoved.sound) hmoved.sound fun _ _ h => h)
  | endService => exact .of_aside he .endService

theorem enrolls_fresh (network : Network) (logLevel : Int) (logFile : Option String)
    (files : List (String × String)) (signals : List (Time × Int)) :
    Reasoned (fresh network logLevel logFile files signals).engine ∧
      (fresh network logLevel logFile files signals).engine.Enrolls := by
  have haside : Aside { network, logLevel, logFile, files }
      (fresh network logLevel logFile files signals).engine :=
    .foldl (fun _ _ => .schedule rfl) _ _
  refine ⟨(Reasons.of_aside haside).keeps ⟨fun box value hvalue => ?_, fun _ _ _ ht => ?_⟩,
    fun id pinger box hp => ?_⟩
  · simp at hvalue
  · cases ht
  · rw [haside.pingers] at hp
    simp at hp

theorem Run.enlists {past : List (Session × Deed)} (h : Run s past s') (hs : s.Sound) :
    Enlists s.engine s'.engine := by
  induction h with
  | nil s => exact .refl _
  | cons head rest ih => exact (head.enlists hs).trans (ih (head.leads hs).sound)

/-- **In every reachable session** nobody waits at a closed mailbox, and living pingers are
registered or their mailboxes are closed. -/
theorem Reachable.enrolls (hr : Reachable s) : Reasoned s.engine ∧ s.engine.Enrolls := by
  obtain ⟨network, logLevel, logFile, files, signals, past, hrun⟩ := hr
  have henlists := hrun.enlists (sound_fresh network logLevel logFile files signals)
  obtain ⟨hreasoned, henrolls⟩ := enrolls_fresh network logLevel logFile files signals
  exact ⟨henlists.keeps hreasoned, henlists.enrolls henrolls⟩

end Session

end IcmpEcho
