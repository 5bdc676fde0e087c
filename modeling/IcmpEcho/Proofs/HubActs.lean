/-
# Hubs and sockets act by acts

The same for hubs, and for sockets that fail or are closed: every function is a row of acts, except
that a hub that received a datagram offers it to a mailbox first (`Engine.offered`).
-/
import IcmpEcho.Proofs.PingerActs

namespace IcmpEcho

variable {e e' : Engine} {hand : Hand} {id : HubId} {hub : Hub} {ended : List PingId}
  {late : Option Alarm} {busy unsettled : Option ReceiveClient} {may : HubId → Address → Prop}

/-! ## 1. Mailboxes and hubs -/

theorem Hub.mem_of_mailbox? {address : Address} {box : MailboxId}
    (h : hub.mailbox? address = some box) : (address, box) ∈ hub.registry := by
  obtain ⟨front, back, hregistry, -⟩ := List.lookup_eq_some_iff.1 h
  rw [hregistry]
  exact List.mem_append_right _ List.mem_cons_self

/-- What is left in a registry was there. -/
theorem Hub.lookup_of_lookup_leave {source address : Address} {box : MailboxId}
    {registry : List (Address × MailboxId)}
    (h : (Hub.leave source registry).lookup address = some box) :
    registry.lookup address = some box := by
  by_cases hsource : address = source
  · subst hsource
    rw [Hub.lookup_leave_self] at h
    cases h
  · rwa [Hub.lookup_leave_of_ne hsource] at h

namespace Engine

@[simp] theorem hubs_closeMail (box : MailboxId) (reason : ErrorCode) :
    (e.closeMail box reason).hubs = e.hubs := by
  unfold closeMail
  split
  · rfl
  · simp only []
    split <;> rfl

@[simp] theorem sockets_closeMail (box : MailboxId) (reason : ErrorCode) :
    (e.closeMail box reason).sockets = e.sockets := by
  unfold closeMail
  split
  · rfl
  · simp only []
    split <;> rfl

theorem mailboxes_setMailbox_of_ne {box other : MailboxId} (value : Mailbox Letter Reader)
    (h : other ≠ box) : (e.setMailbox box value).mailboxes[other]? = e.mailboxes[other]? := by
  simp [setMailbox, Array.getElem?_modify, Ne.symm h]

/-- Closing a mailbox leaves every other one alone. -/
theorem mailboxes_closeMail_of_ne {box other : MailboxId} (reason : ErrorCode) (h : other ≠ box) :
    (e.closeMail box reason).mailboxes[other]? = e.mailboxes[other]? := by
  unfold closeMail
  split
  · rfl
  · simp only []
    split
    · exact mailboxes_setMailbox_of_ne _ h
    · exact mailboxes_setMailbox_of_ne _ h

theorem hubs_closeEach (reason : ErrorCode) :
    ∀ (registry : List (Address × MailboxId)) (e : Engine),
      (registry.foldl (fun e entry => e.closeMail entry.2 reason) e).hubs = e.hubs
  | [], _ => rfl
  | entry :: registry, e => by
    rw [List.foldl_cons, hubs_closeEach reason registry, hubs_closeMail]

theorem hubs_closeRegistrations (hh : e.hubs[id]? = some hub) (registered : Hub)
    (reason : ErrorCode) (other : HubId) :
    (e.closeRegistrations id registered reason).hubs[other]?
      = if other = id then some { hub with registry := [] } else e.hubs[other]? := by
  rw [closeRegistrations, hubs_closeEach, hubs_updateHub hh]

theorem settled_hub (hh : e.hubs[id]? = some hub)
    (h : if (e.fatalOf hub.socket).isError then hub.registry = []
      else (hub.running = true ↔ hub.registry ≠ [])) : e.Settled (.hub id) := by
  intro other hother
  obtain rfl := Option.some.inj (hh.symm.trans hother)
  exact h

/-- A hub without registrations is settled when it has failed or does not run. -/
theorem settled_hub_of_empty (hh : e.hubs[id]? = some hub) (hempty : hub.registry = [])
    (h : (e.fatalOf hub.socket).isError = true ∨ hub.running = false) : e.Settled (.hub id) := by
  refine settled_hub hh ?_
  split
  · exact hempty
  · next hfatal =>
    rcases h with h | h
    · exact absurd h hfatal
    · simp [h, hempty]

end Engine

/-- A hub whose receive has ended was running. -/
theorem Sound.running_of_busy (hs : Sound hand e) (hb : hand.busy = some (.hub id))
    (hh : e.hubs[id]? = some hub) : hub.running = true := by
  have hcount := hs.counted.exact (.hub id) hub.running
    (by simp only [Engine.listens?, hh, Option.map_some])
  by_contra hno
  simp [hno, hb] at hcount

/-- A hub that has registrations has not failed. -/
theorem Sound.works_of_registered (hs : Sound hand e) (hu : hand.unsettled ≠ some (.hub id))
    (hh : e.hubs[id]? = some hub) (hr : hub.registry ≠ []) :
    (e.fatalOf hub.socket).isError = false := by
  have hsettled := hs.settled (.hub id) hu hub hh
  by_contra hfatal
  rw [if_pos (by simpa using hfatal)] at hsettled
  exact hr hsettled

namespace Acts

/-- Closing mailboxes that are in no registry, one after another. -/
theorem closeEach (hand : Hand) {reason : ErrorCode} (hr : reason.isError) :
    ∀ (registry : List (Address × MailboxId)) (e : Engine),
      (∀ entry ∈ registry, ∀ id address, ¬ e.Lists id address entry.2) →
      Acts hand e hand (registry.foldl (fun e entry => e.closeMail entry.2 reason) e)
  | [], _, _ => .nil _ _
  | entry :: registry, e, hno => by
    have hclose : Act hand e hand (e.closeMail entry.2 reason) :=
      .closeMail hr fun id address h => absurd h (hno entry List.mem_cons_self id address)
    refine .cons hclose (closeEach hand hr registry _ fun other hother id address h => ?_)
    refine hno other (List.mem_cons_of_mem _ hother) id address ?_
    rwa [Engine.Lists, Engine.hubs_closeMail] at h

/-- **Ending every registration is done by acts.** -/
theorem closeRegistrations (hl : Listed e) {registered : Hub} (hh : e.hubs[id]? = some hub)
    (hregistered : registered.registry = hub.registry)
    (hu : unsettled = none ∨ unsettled = some (.hub id)) {reason : ErrorCode}
    (hr : reason.isError) (hm : ∀ address, ¬ may id address → hub.mailbox? address = none) :
    Acts ⟨busy, unsettled, ended, late, may⟩ e ⟨busy, some (.hub id), ended, late, may⟩
      (e.closeRegistrations id registered reason) := by
  have hempty : Act ⟨busy, unsettled, ended, late, may⟩ e
      ⟨busy, some (.hub id), ended, late, may⟩
      (e.updateHub id fun hub => { hub with registry := [] }) :=
    .hub hh rfl (by simp) (by simp [Hub.mailbox?]) (fun address h => (hm address h).symm)
      (fun _ h => h) hu (.keeps _ _)
  refine .cons hempty (closeEach _ hr _ _ fun entry hentry other address => ?_)
  rintro ⟨hub', hhub', hmem⟩
  -- what the hub had registered is registered nowhere else
  rw [Engine.hubs_updateHub hh] at hhub'
  split at hhub'
  · obtain rfl := Option.some.inj hhub'
    cases hmem
  · next hne =>
    rw [hregistered] at hentry
    exact hne (hl.once _ _ _ _ _ ⟨hub', hhub', hmem⟩ ⟨hub, hh, hentry⟩).1

/-- A hub that runs starts its next receive. -/
theorem receiveForHub {sent : Hub} (hh : e.hubs[id]? = some hub)
    (hsocket : sent.socket = hub.socket) :
    Acts ⟨some (.hub id), unsettled, ended, late, may⟩ e ⟨none, unsettled, ended, late, may⟩
      (e.receiveForHub id sent) := by
  have hfits : e.Fits (.hub id) (.socket sent.socket) :=
    Engine.fits_of_port? (by simp only [Engine.port?, hh, Option.map_some, hsocket])
  exact .one (.receive rfl hfits fun _ _ => rfl)

/-- **A hub that has a new registration starts, by acts.** -/
theorem startHub (hs : Sound ⟨none, some (.hub id), ended, late, may⟩ e)
    (hh : e.hubs[id]? = some hub) (hr : hub.registry ≠ [])
    (hm : (e.fatalOf hub.socket).isError → ∀ address, ¬ may id address →
      hub.mailbox? address = none) :
    Acts ⟨none, some (.hub id), ended, late, may⟩ e ⟨none, none, ended, late, may⟩
      (e.startHub id) := by
  unfold Engine.startHub
  simp only [hh]
  split
  · -- on a failed socket the registrations end
    next hfatal =>
    have hclose : Acts ⟨none, some (.hub id), ended, late, may⟩ e
        ⟨none, some (.hub id), ended, late, may⟩
        (e.closeRegistrations id hub (e.fatalOf hub.socket)) :=
      closeRegistrations hs.listed hh rfl (.inr rfl) hfatal (hm hfatal)
    have hh' := (Engine.hubs_closeRegistrations hh hub (e.fatalOf hub.socket) id).trans (if_pos rfl)
    refine hclose.trans (.one (.settle rfl (Engine.settled_hub_of_empty hh' rfl (.inl ?_))))
    rw [(hclose.steady hs).fatal hub.socket hfatal]
    exact hfatal
  · next hfatal =>
    split
    · next hidle =>
      refine .one (.settle rfl (Engine.settled_hub hh ?_))
      rw [if_neg hfatal]
      have hrun : hub.running = true := by simpa [hr] using hidle
      exact ⟨fun _ => hr, fun _ => hrun⟩
    · next hstart =>
      have hflag : hub.running = false := by
        cases hrun : hub.running with
        | false => rfl
        | true => simp [hrun] at hstart
      let started := e.updateHub id fun hub => { hub with running := true }
      have hset : Act ⟨none, some (.hub id), ended, late, may⟩ e
          ⟨some (.hub id), some (.hub id), ended, late, may⟩ started :=
        .hub hh rfl (fun _ h => h) (fun _ _ h => h) (fun _ _ => rfl) (fun h => absurd h hfatal)
          (.inr rfl)
          (by rw [hflag]; exact .sets)
      have hlog : Aside started (started.logDated .all "reply dispatcher started") :=
        .logDated _ _
      have hh' : (started.logDated .all "reply dispatcher started").hubs[id]?
          = some { hub with running := true } := by
        rw [hlog.hubs, Engine.hubs_updateHub hh, if_pos rfl]
      have hsettle : Act ⟨some (.hub id), some (.hub id), ended, late, may⟩
          (started.logDated .all "reply dispatcher started") ⟨some (.hub id), none, ended, late, may⟩
          (started.logDated .all "reply dispatcher started") := by
        refine .settle rfl (Engine.settled_hub hh' ?_)
        rw [hlog.receives.fatalOf, show started.fatalOf hub.socket = e.fatalOf hub.socket from rfl,
          if_neg hfatal]
        exact ⟨fun _ => hr, fun _ => rfl⟩
      exact .cons hset ((Acts.aside hlog).trans (.cons hsettle (receiveForHub hh' rfl)))

/-- **A hub whose receive failed stops, by acts.** -/
theorem failHub (hs : Sound ⟨some (.hub id), unsettled, ended, late, may⟩ e)
    (hh : e.hubs[id]? = some hub) (hu : unsettled = none ∨ unsettled = some (.hub id))
    {code : ErrorCode} (hcode : code.isError) (hm : ∀ address, may id address) :
    Acts ⟨some (.hub id), unsettled, ended, late, may⟩ e ⟨none, none, ended, late, may⟩
      (e.failHub id hub code) := by
  let stopped := e.updateHub id fun hub => { hub with running := false }
  have hrun := hs.running_of_busy rfl hh
  have hclear : Act ⟨some (.hub id), unsettled, ended, late, may⟩ e
      ⟨none, some (.hub id), ended, late, may⟩ stopped :=
    .hub hh rfl (fun _ h => h) (fun _ _ h => h) (fun _ _ => rfl) (fun _ h => by cases h) hu
      (by rw [hrun]; exact .clears)
  have hh' : stopped.hubs[id]? = some { hub with running := false } := by
    rw [Engine.hubs_updateHub hh, if_pos rfl]
  have hclose : Acts ⟨none, some (.hub id), ended, late, may⟩ stopped
      ⟨none, some (.hub id), ended, late, may⟩ (stopped.closeRegistrations id hub code) :=
    closeRegistrations (hclear.sound hs).listed hh' rfl (.inr rfl) hcode
      fun address h => absurd (hm address) h
  have hclosed := (Engine.hubs_closeRegistrations hh' hub code id).trans (if_pos rfl)
  have hsettle : Act ⟨none, some (.hub id), ended, late, may⟩ (stopped.closeRegistrations id hub code)
      ⟨none, none, ended, late, may⟩ (stopped.closeRegistrations id hub code) :=
    .settle rfl (Engine.settled_hub_of_empty hclosed rfl (.inr rfl))
  refine .cons hclear (hclose.trans (.cons hsettle ?_))
  unfold Engine.failHub
  simp only []
  split
  · exact .nil _ _
  · exact .aside (.logDated _ _)

/-- **A registration whose mailbox refused ends by acts.** -/
theorem endRegistration (hs : Sound ⟨some (.hub id), none, ended, late, may⟩ e)
    (hh : e.hubs[id]? = some hub) {source : Address} (hm : may id source) {box : MailboxId}
    (hbox : hub.mailbox? source = some box) :
    Acts ⟨some (.hub id), none, ended, late, may⟩ e ⟨none, none, ended, late, may⟩
      (e.endRegistration id hub source box) := by
  let left := Hub.leave source hub.registry
  let change : Hub → Hub := fun hub => { hub with registry := left, running := !left.isEmpty }
  let closed := e.closeMail box PingFault.registrationClosed.code
  let parted := closed.updateHub id change
  have hr : hub.registry ≠ [] := by
    intro hempty
    simp [Hub.mailbox?, hempty] at hbox
  have hfatal := hs.works_of_registered (by simp) hh hr
  have hrun := hs.running_of_busy rfl hh
  have hlists : e.Lists id source box := ⟨hub, hh, Hub.mem_of_mailbox? hbox⟩
  have hclose : Act ⟨some (.hub id), none, ended, late, may⟩ e
      ⟨some (.hub id), none, ended, late, may⟩ closed := by
    refine .closeMail (by simp) fun other address h => .inl ?_
    obtain ⟨rfl, rfl⟩ := hs.listed.once _ _ _ _ _ hlists h
    exact hm
  have hh' : closed.hubs[id]? = some hub := by rw [Engine.hubs_closeMail, hh]
  have hfatal' : parted.fatalOf hub.socket = e.fatalOf hub.socket := by
    have hsockets : parted.sockets = e.sockets := Engine.sockets_closeMail _ _
    rw [Engine.fatalOf, Engine.fatalOf, hsockets]
  have hframe : ∀ address, ¬ may id address →
      (change hub).mailbox? address = hub.mailbox? address := by
    intro address hno
    refine Hub.lookup_leave_of_ne ?_ hub.registry
    rintro rfl
    exact hno hm
  have hentries : (change hub).registry ⊆ hub.registry := List.filter_subset_self _
  have hsub : ∀ address other, (change hub).mailbox? address = some other →
      hub.mailbox? address = some other := fun _ _ => Hub.lookup_of_lookup_leave
  have hparted : parted.hubs[id]? = some (change hub) := by
    rw [Engine.hubs_updateHub hh', if_pos rfl]
  have hsettled : parted.Settled (.hub id) := by
    refine Engine.settled_hub hparted ?_
    rw [show (change hub).socket = hub.socket from rfl, hfatal', hfatal]
    simp [change]
  have hfail : (closed.fatalOf hub.socket).isError → (change hub).running → hub.running :=
    fun _ _ => hrun
  have hlog : Aside parted (parted.logAbout source .info "delivery failed, registration removed") :=
    .logAbout _ _ _
  unfold Engine.endRegistration
  refine .cons hclose ?_
  simp only []
  split
  · next hleft =>
    have hleft : left.isEmpty = true := hleft
    have hact : Act ⟨some (.hub id), none, ended, late, may⟩ closed
        ⟨none, some (.hub id), ended, late, may⟩ parted :=
      .hub hh' rfl hentries hsub hframe hfail (.inl rfl) <| by
        simp only [change, hrun, hleft]
        exact .clears
    have hsettle : Act ⟨none, some (.hub id), ended, late, may⟩ parted
        ⟨none, none, ended, late, may⟩ parted := .settle rfl hsettled
    exact .cons hact (.cons hsettle ((Acts.aside hlog).trans (.aside (.logDated _ _))))
  · next hleft =>
    have hleft : left.isEmpty = false := by simpa using hleft
    have hact : Act ⟨some (.hub id), none, ended, late, may⟩ closed
        ⟨some (.hub id), some (.hub id), ended, late, may⟩ parted :=
      .hub hh' rfl hentries hsub hframe hfail (.inl rfl) <| by
        simp only [change, hrun, hleft]
        exact .keeps _ _
    have hsettle : Act ⟨some (.hub id), some (.hub id), ended, late, may⟩ parted
        ⟨some (.hub id), none, ended, late, may⟩ parted := .settle rfl hsettled
    rw [← hlog.hubs] at hparted
    exact .cons hact (.cons hsettle ((Acts.aside hlog).trans (receiveForHub hparted rfl)))

end Acts

/-! ## 2. Sockets -/

namespace Engine

theorem fatalOf_post (task : Task) (socket : SocketId) :
    (e.post task).fatalOf socket = e.fatalOf socket := rfl

theorem fatalOf_endReceive (socket : SocketId) (code : ErrorCode) (other : SocketId) :
    (e.endReceive socket code).fatalOf other = e.fatalOf other := by
  unfold endReceive
  split
  · rw [fatalOf_post, fatalOf_updateSocket (by intro record; rfl)]
  · rfl

/-- Closing a socket leaves hubs and mailboxes alone. -/
theorem closeSocket_elsewhere (socket : SocketId) :
    (e.closeSocket socket).hubs = e.hubs ∧ (e.closeSocket socket).mailboxes = e.mailboxes := by
  have hended : ∀ e : Engine, (e.endReceive socket .aborted).hubs = e.hubs ∧
      (e.endReceive socket .aborted).mailboxes = e.mailboxes := by
    intro e
    unfold endReceive
    split <;> exact ⟨rfl, rfl⟩
  unfold closeSocket
  split
  · exact ⟨rfl, rfl⟩
  · next record _ =>
    have hcancel : ∀ e : Engine, Aside e (e.cancelLimiter record.limiter) := fun e =>
      .cancelLimiter record.limiter
    refine ⟨(hended _).1.trans ((hcancel _).hubs.trans ?_),
      (hended _).2.trans ((hcancel _).mailboxes.trans ?_)⟩
    · split <;> rfl
    · split <;> rfl

theorem hubs_closeSocket (socket : SocketId) : (e.closeSocket socket).hubs = e.hubs :=
  (closeSocket_elsewhere socket).1

/-- A socket that is closed has failed. -/
theorem isError_fatalOf_closeSocket (socket : SocketId) :
    ((e.closeSocket socket).fatalOf socket).isError = true := by
  unfold closeSocket
  split
  · next hnone => simp [fatalOf, hnone]
  · next record hsocket =>
    simp only []
    rw [fatalOf_updateSocket (by intro record; rfl), fatalOf_endReceive,
      (Aside.cancelLimiter _).receives.fatalOf]
    split
    · next hfailed => simpa [fatalOf, hsocket] using hfailed
    · rw [fatalOf_fail ErrorCode.isError_aborted]
      simp

end Engine

namespace Acts

/-- **A socket fails by acts.**  A hub on it has no registrations, or is about to lose them. -/
theorem failSocket {socket : SocketId} {code : ErrorCode} (hcode : code.isError)
    (hubs : ∀ (id : HubId) (hub : Hub), e.hubs[id]? = some hub → hub.socket = socket →
      hub.registry = [] ∨ hand.unsettled = some (.hub id)) :
    Acts hand e hand (e.failSocket socket code) := by
  unfold Engine.failSocket
  split
  · exact .nil _ _
  · next hworks =>
    exact .cons (.fail hcode (by simpa using hworks) hubs) (.aside (.logDated _ _))

/-- **A socket is closed by acts.** -/
theorem closeSocket {socket : SocketId}
    (hubs : ∀ (id : HubId) (hub : Hub), e.hubs[id]? = some hub → hub.socket = socket →
      hub.registry = [] ∨ hand.unsettled = some (.hub id)) :
    Acts hand e hand (e.closeSocket socket) := by
  unfold Engine.closeSocket
  split
  · exact .nil _ _
  · next record hsocket =>
    have hfail : Acts hand e hand (if record.fatal.isError then e
        else e.updateSocket socket fun record => { record with fatal := .aborted }) := by
      split
      · exact .nil _ _
      · next hworks =>
        refine .one (.fail rfl ?_ hubs)
        simpa [Engine.fatalOf, hsocket] using hworks
    exact hfail.trans ((Acts.aside (.cancelLimiter _)).trans
      (.cons (.endReceive _ _ _) (.one (.shut _ _ _))))

/-- **A hub is closed by acts.** -/
theorem closeHub (hs : Sound ⟨none, none, ended, late, may⟩ e) (id : HubId)
    (hm : ∀ address, may id address) :
    Acts ⟨none, none, ended, late, may⟩ e ⟨none, none, ended, late, may⟩ (e.closeHub id) := by
  unfold Engine.closeHub
  split
  · exact .nil _ _
  · next hub hh =>
    let closed := e.closeRegistrations id hub .aborted
    have hclose : Acts ⟨none, none, ended, late, may⟩ e
        ⟨none, some (.hub id), ended, late, may⟩ closed :=
      closeRegistrations hs.listed hh rfl (.inl rfl) rfl fun address h => absurd (hm address) h
    have hsocket : Acts ⟨none, some (.hub id), ended, late, may⟩ closed
        ⟨none, some (.hub id), ended, late, may⟩ (closed.closeSocket hub.socket) := by
      refine closeSocket fun other hub' hhub' hsame => .inr ?_
      have hown : closed.port? (.hub id) = some (.socket hub.socket) := by
        have hh' := (Engine.hubs_closeRegistrations hh hub .aborted id).trans (if_pos rfl)
        simp only [Engine.port?, closed, hh', Option.map_some]
      have hother : closed.port? (.hub other) = some (.socket hub.socket) := by
        simp only [Engine.port?, hhub', Option.map_some, hsame]
      rw [(hclose.sound hs).wired.unique _ _ _ hown hother]
    have hh' : (closed.closeSocket hub.socket).hubs[id]? = some { hub with registry := [] } := by
      rw [Engine.hubs_closeSocket, Engine.hubs_closeRegistrations hh, if_pos rfl]
    exact hclose.trans (hsocket.trans (.one (.settle rfl
      (Engine.settled_hub_of_empty hh' rfl (.inl (Engine.isError_fatalOf_closeSocket hub.socket))))))

end Acts

end IcmpEcho
