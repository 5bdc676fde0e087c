/-
# Registering

A registration is a fresh mailbox, entered in the registry of its hub (`Moved.enterBox`) before
the hub is started, and given to its pinger last.  A mailbox that was registered for the same
address before is closed.  So registering is about one address at one hub (`Moved.register`), and
opening the service about the hubs that it makes (`Moved.openService`).
-/
import IcmpEcho.Proofs.Opening

namespace IcmpEcho

variable {e e' e'' : Engine}

/-! ## 1. Registering -/

theorem Hub.enter_ne_nil (address : Address) (box : MailboxId) :
    ∀ registry : List (Address × MailboxId), Hub.enter address box registry ≠ []
  | [] => by simp [enter]
  | head :: rest => by
    simp only [enter]
    split
    · simp
    · split <;> simp

theorem Hub.mem_enter {address : Address} {box : MailboxId} {entry : Address × MailboxId} :
    ∀ {registry : List (Address × MailboxId)}, entry ∈ Hub.enter address box registry →
      entry = (address, box) ∨ entry ∈ registry
  | [], h => .inl (List.mem_singleton.1 h)
  | head :: rest, h => by
    simp only [enter] at h
    split at h
    · exact (List.mem_cons.1 h).imp_right (List.mem_cons_of_mem _)
    · split at h
      · exact List.mem_cons.1 h
      · rcases List.mem_cons.1 h with rfl | hrest
        · exact .inr List.mem_cons_self
        · exact (mem_enter hrest).imp_right (List.mem_cons_of_mem _)

namespace Engine

/-- The registration of one address at one hub. -/
def At (id : HubId) (address : Address) (hub : HubId) (other : Address) : Prop :=
  hub = id ∧ other = address

/-- The engine with a mailbox entered in the registry of a hub. -/
def enterBox (e : Engine) (id : HubId) (destination : Address) (box : MailboxId) : Engine :=
  e.updateHub id fun hub => { hub with registry := Hub.enter destination box hub.registry }

theorem mailboxes_receive (socket : SocketId) (client : ReceiveClient) (room : Nat) :
    (e.receive socket client room).mailboxes = e.mailboxes := by
  unfold receive
  split
  · rfl
  · split
    · rfl
    · split
      · rfl
      · rfl

variable {id : HubId} {hub : Hub} {box : MailboxId} {destination : Address}

/-- A hub starts, or has nothing registered any more since its socket has failed. -/
theorem startHub_cases (hh : e.hubs[id]? = some hub) :
    ((e.fatalOf hub.socket).isError = true ∧
        ∀ address, (e.startHub id).registered? id address = none) ∨
      ((e.fatalOf hub.socket).isError = false ∧ (e.startHub id).mailboxes = e.mailboxes ∧
        ∀ address, (e.startHub id).registered? id address = e.registered? id address) := by
  unfold startHub
  simp only [hh]
  split
  · next hfatal =>
    refine .inl ⟨hfatal, fun address => ?_⟩
    rw [registered?, hubs_closeRegistrations hh, if_pos rfl]
    rfl
  · next hfatal =>
    have hfatal : (e.fatalOf hub.socket).isError = false := by simpa using hfatal
    split
    · exact .inr ⟨hfatal, rfl, fun _ => rfl⟩
    · let started := e.updateHub id fun hub => { hub with running := true }
      have hlog : Aside started (started.logDated .all "reply dispatcher started") := .logDated _ _
      refine .inr ⟨hfatal, ?_, fun address => ?_⟩
      · rw [receiveForHub, mailboxes_receive, hlog.mailboxes]
        rfl
      · rw [receiveForHub, registered?_eq (SameParts.receive _ _ _).hubs, registered?_eq hlog.hubs,
          registered?_updateHub hh, if_pos rfl, registered?, hh]
        rfl

theorem registered?_enterBox (hh : e.hubs[id]? = some hub) (other : HubId) (address : Address) :
    (e.enterBox id destination box).registered? other address
      = if other = id ∧ address = destination then some box else e.registered? other address := by
  rw [enterBox, registered?_updateHub hh]
  by_cases hother : other = id
  · subst hother
    by_cases haddress : address = destination
    · subst haddress
      simp [Hub.mailbox?, Hub.lookup_enter_self]
    · simp [haddress, Hub.mailbox?, Hub.lookup_enter_of_ne haddress, registered?, hh]
  · simp [hother]

theorem lists_enterBox (hh : e.hubs[id]? = some hub) {other : HubId} {address : Address}
    {box' : MailboxId} (h : (e.enterBox id destination box).Lists other address box') :
    (other = id ∧ address = destination ∧ box' = box) ∨ e.Lists other address box' := by
  obtain ⟨hub', hhub', hmem⟩ := h
  rw [enterBox, hubs_updateHub hh] at hhub'
  split at hhub'
  · next heq =>
    subst heq
    obtain rfl := Option.some.inj hhub'
    rcases Hub.mem_enter hmem with hnew | hold
    · obtain ⟨rfl, rfl⟩ := Prod.mk.inj hnew
      exact .inl ⟨rfl, rfl, rfl⟩
    · exact .inr ⟨hub, hh, hold⟩
  · exact .inr ⟨hub', hhub', hmem⟩

end Engine

/-- A mailbox of nobody is entered in a registry. -/
theorem Listed.enterBox (hl : Listed e) {id : HubId} {hub : Hub} (hh : e.hubs[id]? = some hub)
    (destination : Address) {box : MailboxId} (hb : box < e.mailboxes.size)
    (hfree : ∀ id address, ¬ e.Lists id address box) : Listed (e.enterBox id destination box) where
  known other address box' h := by
    rcases Engine.lists_enterBox hh h with ⟨-, -, rfl⟩ | hold
    · exact hb
    · exact hl.known other address box' hold
  once other address other' address' box' h h' := by
    rcases Engine.lists_enterBox hh h with ⟨rfl, rfl, rfl⟩ | hold <;>
      rcases Engine.lists_enterBox hh h' with ⟨rfl, rfl, heq⟩ | hold'
    · exact ⟨rfl, rfl⟩
    · exact absurd hold' (hfree _ _)
    · exact absurd (heq ▸ hold) (hfree _ _)
    · exact hl.once _ _ _ _ _ hold hold'

section Registering

variable {id : HubId} {hub : Hub}

/-- **A fresh mailbox is entered in the registry of a hub.** -/
theorem Moved.enterBox (hs : Sound {} e) (hh : e.hubs[id]? = some hub) (destination : Address) :
    let boxed := (e.addMailbox 100).1
    let entered := boxed.enterBox id destination e.mailboxes.size
    Sound { unsettled := some (.hub id), may := Engine.At id destination } entered ∧
      SamePorts boxed entered ∧ Onward e entered ∧
      Still (Engine.At id destination) e entered := by
  intro boxed entered
  have hgrows : Grows e boxed := .pushBox
  have hboxed := hgrows.sound hs
  have hh' : boxed.hubs[id]? = some hub := hh
  have hfree : ∀ other address, ¬ boxed.Lists other address e.mailboxes.size := fun other address hl =>
    Nat.lt_irrefl _ (hs.listed.known other address _ hl)
  have hb : e.mailboxes.size < boxed.mailboxes.size := by simp [boxed, Engine.addMailbox]
  have hlisted : Listed entered := hboxed.listed.enterBox hh' destination hb hfree
  have hports : SamePorts boxed entered := .updateHub hh' rfl
  have honward : Onward boxed entered := {
    Onward.refl boxed with
    fits := fun client port => (hports.fits client port).2
    hubs := fun other hub' hhub' => by
      rw [show entered.hubs[other]? = _ from Engine.hubs_updateHub hh' _ other]
      by_cases hother : other = id
      · subst hother
        obtain rfl := Option.some.inj (hh'.symm.trans hhub')
        exact ⟨_, if_pos rfl, rfl, fun _ hrun => hrun⟩
      · exact ⟨hub', by rwa [if_neg hother], rfl, fun _ hrun => hrun⟩ }
  have hsound : Sound { unsettled := some (.hub id) } entered :=
    hboxed.updateHub hh' rfl hlisted (.inl rfl) (.keeps _ _)
  have hstill : Still (Engine.At id destination) e boxed := hgrows.still hs.wired
  refine ⟨hsound.withMay _, hports, (Onward.of_grows hgrows).trans honward hs.wired, {
    hstill with
    mailed := fun hm =>
      have hm' := hstill.mailed hm
      ⟨hm'.boxes, hm'.sockets, fun task ht => (hm'.tasks task ht).congr rfl⟩
    inbox := fun box => (Engine.inbox_congr hports rfl rfl).trans (hstill.inbox box)
    registered := fun other address box hold hr => ?_
    frame := fun other address hno => ?_
    shut := fun other address box hold hr hshut => ?_ }⟩
  · rw [Engine.registered?_enterBox hh'] at hr
    split at hr
    · obtain rfl := Option.some.inj hr
      exact absurd hold (Nat.lt_irrefl _)
    · exact hr
  · rw [Engine.registered?_enterBox hh',
      if_neg (show ¬ (other = id ∧ address = destination) from hno)]
    rfl
  · rw [Engine.registered?_enterBox hh'] at hr
    split at hr
    · obtain rfl := Option.some.inj hr
      exact absurd hold (Nat.lt_irrefl _)
    · exact hstill.shut other address box hold hr hshut

theorem Engine.enterRegistration_eq (destination : Address) (box : MailboxId) :
    e.enterRegistration id hub destination box
      = match hub.mailbox? destination with
        | none => e.enterBox id destination box
        | some replaced =>
          ((e.enterBox id destination box).closeMail replaced
            PingFault.registrationClosed.code).logAbout destination .warn
              "registration replaced by a new pinger" := rfl

/-- The mailbox that a registration replaces is closed. -/
theorem Acts.enterRegistration (hl : Listed e) (hh : e.hubs[id]? = some hub) (destination : Address)
    (box : MailboxId) :
    Acts { unsettled := some (.hub id), may := Engine.At id destination }
      (e.enterBox id destination box)
      { unsettled := some (.hub id), may := Engine.At id destination }
      (e.enterRegistration id hub destination box) := by
  rw [Engine.enterRegistration_eq]
  split
  · exact .nil _ _
  · next replaced hreplaced =>
    refine .cons (.closeMail (by simp) fun other address h => .inl ?_) (.aside (.logAbout _ _ _))
    have hlists : e.Lists id destination replaced := ⟨hub, hh, Hub.mem_of_mailbox? hreplaced⟩
    rcases Engine.lists_enterBox hh h with ⟨rfl, rfl, -⟩ | hold
    · exact ⟨rfl, rfl⟩
    · obtain ⟨rfl, rfl⟩ := hl.once _ _ _ _ _ hold hlists
      exact ⟨rfl, rfl⟩

namespace Engine

/-- A registration that is entered leaves all mailboxes but the replaced one alone. -/
theorem enterRegistration_spec (hh : e.hubs[id]? = some hub) (destination : Address)
    {box : MailboxId} (hfree : ∀ id address, ¬ e.Lists id address box) :
    let next := e.enterRegistration id hub destination box
    next.hubs = (e.enterBox id destination box).hubs ∧ next.mailboxes[box]? = e.mailboxes[box]? ∧
      ∀ socket, next.fatalOf socket = e.fatalOf socket := by
  simp only [enterRegistration_eq]
  split
  · exact ⟨rfl, rfl, fun _ => rfl⟩
  · next replaced hreplaced =>
    let entered := e.enterBox id destination box
    let closed := entered.closeMail replaced PingFault.registrationClosed.code
    have hlog : Aside closed (closed.logAbout destination .warn
        "registration replaced by a new pinger") := .logAbout _ _ _
    have hne : box ≠ replaced := by
      rintro rfl
      exact hfree id destination ⟨hub, hh, Hub.mem_of_mailbox? hreplaced⟩
    refine ⟨hlog.hubs.trans (hubs_closeMail _ _), ?_, fun socket => ?_⟩
    · rw [hlog.mailboxes, mailboxes_closeMail_of_ne _ hne]
      rfl
    · rw [hlog.receives.fatalOf, fatalOf, sockets_closeMail]
      rfl

end Engine

/-! ## 2. A registration that is started -/

namespace Engine

/-- The engine with a fresh mailbox entered in the registry of a hub. -/
def withRegistration (e : Engine) (id : HubId) (hub : Hub) (destination : Address) : Engine :=
  (e.addMailbox 100).1.enterRegistration id hub destination e.mailboxes.size

/-- The engine with a fresh mailbox registered at a hub that has been started. -/
def startRegistration (e : Engine) (id : HubId) (hub : Hub) (destination : Address) : Engine :=
  (e.withRegistration id hub destination).startHub id

/-- What is refused changes nothing; otherwise the pinger is made last. -/
theorem register_cases (e : Engine) (id : HubId) (destination : Address) :
    (∃ failure, e.register id destination = (e, .error failure)) ∨
      ∃ hub, e.hubs[id]? = some hub ∧ e.register id destination
        = (((e.startRegistration id hub destination).addPinger destination hub.socket
            (some e.mailboxes.size)).1,
          .ok (e.startRegistration id hub destination).pingers.size) := by
  unfold register
  split
  · exact .inl ⟨_, rfl⟩
  · next hub hh =>
    split
    · exact .inl ⟨_, rfl⟩
    · split
      · exact .inl ⟨_, rfl⟩
      · exact .inr ⟨hub, hh, rfl⟩

theorem not_lists_size (hl : Listed e) (other : HubId) (address : Address) :
    ¬ e.Lists other address e.mailboxes.size := fun h =>
  Nat.lt_irrefl _ (hl.known other address _ h)

/-- The hub and its socket, and the fresh mailbox, when it is entered. -/
theorem withRegistration_spec (hs : Sound {} e) (hh : e.hubs[id]? = some hub)
    (destination : Address) :
    let entered := e.withRegistration id hub destination
    entered.hubs[id]? = some { hub with
        registry := Hub.enter destination e.mailboxes.size hub.registry } ∧
      entered.mailboxes[e.mailboxes.size]? = some {} ∧
      ∀ socket, entered.fatalOf socket = e.fatalOf socket := by
  have hh' : (e.addMailbox 100).1.hubs[id]? = some hub := hh
  obtain ⟨hhubs, hopen, hfatal⟩ := enterRegistration_spec (e := (e.addMailbox 100).1) hh' destination
    (fun other address hl => not_lists_size hs.listed other address hl)
  refine ⟨?_, hopen.trans Array.getElem?_push_size, fun socket => hfatal socket⟩
  rw [withRegistration, hhubs, enterBox, hubs_updateHub hh', if_pos rfl]

/-- On a socket that works the fresh mailbox is registered, and open; on one that has failed
nothing is registered. -/
theorem startRegistration_cases (hs : Sound {} e) (hh : e.hubs[id]? = some hub)
    (destination : Address) :
    let started := e.startRegistration id hub destination
    ((e.fatalOf hub.socket).isError = true ∧
        ∀ address, started.registered? id address = none) ∨
      ((e.fatalOf hub.socket).isError = false ∧
        started.registered? id destination = some e.mailboxes.size ∧
        ¬ started.Shut e.mailboxes.size) := by
  obtain ⟨hhub, hopen, hfatal⟩ := withRegistration_spec hs hh destination
  rcases startHub_cases hhub with ⟨hfailed, hnone⟩ | ⟨hworks, hboxes, hsame⟩
  · exact .inl ⟨(hfatal hub.socket) ▸ hfailed, hnone⟩
  · refine .inr ⟨(hfatal hub.socket) ▸ hworks, ?_, ?_⟩
    · rw [startRegistration, hsame, registered?, hhub, Option.bind_some, Hub.mailbox?,
        Hub.lookup_enter_self]
    · rintro ⟨value, hvalue, hclosed⟩
      rw [startRegistration, hboxes, hopen] at hvalue
      obtain rfl := Option.some.inj hvalue
      cases hclosed

end Engine

/-- What is registered may have ended at this address only, and by acts. -/
theorem Acts.startRegistration (hs : Sound {} e) (hh : e.hubs[id]? = some hub)
    (destination : Address) :
    Acts { unsettled := some (.hub id), may := Engine.At id destination }
      ((e.addMailbox 100).1.enterBox id destination e.mailboxes.size)
      { may := Engine.At id destination } (e.startRegistration id hub destination) := by
  have hh' : (e.addMailbox 100).1.hubs[id]? = some hub := hh
  have hlisted : Listed (e.addMailbox 100).1 := ((Grows.pushBox (e := e)).sound hs).listed
  obtain ⟨hentered, -⟩ := Moved.enterBox hs hh destination
  have hrow := Acts.enterRegistration hlisted hh' destination e.mailboxes.size
  obtain ⟨hhub, -, hfatal⟩ := Engine.withRegistration_spec hs hh destination
  refine hrow.trans (Acts.startHub (hrow.sound hentered) hhub (Hub.enter_ne_nil _ _ _)
    fun hfailed address hno => ?_)
  -- on a failed socket nothing else was registered
  have hsettled := hs.settled (.hub id) (by simp) hub hh
  have hfailed : (e.fatalOf hub.socket).isError = true := (hfatal hub.socket) ▸ hfailed
  rw [if_pos hfailed] at hsettled
  have hne : address ≠ destination := fun heq => hno ⟨rfl, heq⟩
  simp [Hub.mailbox?, hsettled, Hub.lookup_enter_of_ne hne]

/-- **A registration is started.**  Its mailbox exists and belongs to nobody yet. -/
theorem Moved.startRegistration (hs : Sound {} e) (hh : e.hubs[id]? = some hub)
    (destination : Address) :
    let started := e.startRegistration id hub destination
    Moved e started (Engine.At id destination) ∧ started.hasPort (.box e.mailboxes.size) ∧
      ∀ other, ¬ started.Fits other (.box e.mailboxes.size) := by
  intro started
  obtain ⟨hentered, hports, honward, hstill⟩ := Moved.enterBox hs hh destination
  have hall := Acts.startRegistration hs hh destination
  have hsteady := hall.steady hentered
  have hstill := hstill.trans (hall.still hentered)
  -- the new registration is open, or all of them have ended
  have hfresh : ∀ other address box, started.registered? other address = some box →
      e.mailboxes.size ≤ box ∨ Engine.At id destination other address → ¬ started.Shut box := by
    intro other address box hr hcase
    by_cases hat : Engine.At id destination other address
    · obtain ⟨rfl, rfl⟩ := hat
      rcases Engine.startRegistration_cases hs hh address with ⟨-, hnone⟩ | ⟨-, hsome, hopen⟩
      · cases (hnone address).symm.trans hr
      · obtain rfl := Option.some.inj (hsome.symm.trans hr)
        exact hopen
    · rw [hstill.frame other address hat] at hr
      have hlt := hs.listed.known _ _ _ (Engine.lists_of_registered? hr)
      rcases hcase with hnew | hat'
      · exact absurd hlt (Nat.not_lt.2 hnew)
      · exact absurd hat' hat
  refine ⟨{
    sound := (hall.sound hentered).withMay _
    onward := honward.trans (.of_steady hsteady) hs.wired
    kept := fun id hk => Went.kept_of_steady hsteady hk
    released := fun id hid => by rwa [hsteady.released] at hid
    targets := fun id hid => .inl (by rwa [hsteady.targets] at hid)
    still := hstill
    attended := fun ha => hstill.attended ha hfresh }, ?_, fun other hf => ?_⟩
  · show e.mailboxes.size < started.mailboxes.size
    rw [hsteady.ports.boxCount, hports.boxCount]
    simp [Engine.addMailbox]
  · -- nobody fits the mailbox, since nobody did when it was made
    rw [hsteady.ports.fits, hports.fits] at hf
    cases other with
    | raw tag => exact hf
    | hub id => exact Nat.lt_irrefl _ (hs.wired.valid (.hub id) (.box _) hf)
    | pinger id => exact Nat.lt_irrefl _ (hs.wired.valid (.pinger id) (.box _) hf)

/-- **Registering.**  The fresh mailbox belongs to nobody until its pinger is made. -/
theorem Moved.register (hs : Sound {} e) (id : HubId) (destination : Address) :
    Moved e (e.register id destination).1 (Engine.At id destination) ∧
      ∀ pinger, (e.register id destination).2 = .ok pinger →
        Engine.Made e (e.register id destination).1 pinger := by
  rcases e.register_cases id destination with ⟨failure, hregister⟩ | ⟨hub, hh, hregister⟩
  · rw [hregister]
    exact ⟨.refl hs, by simp⟩
  · rw [hregister]
    obtain ⟨hmoved, hbox, hfree⟩ := startRegistration hs hh destination
    let started := e.startRegistration id hub destination
    have hpushed : Grows started
        (started.addPinger destination hub.socket (some e.mailboxes.size)).1 :=
      .pushPinger (fun id => .inl rfl) ⟨rfl, rfl, rfl⟩ hbox hfree
    refine ⟨hmoved.trans (of_grows hmoved.sound hpushed).any hs, fun pinger hpinger => ?_⟩
    obtain rfl := Except.ok.inj hpinger
    exact ⟨hmoved.onward.pingerCount, ⟨_, Array.getElem?_push_size, rfl⟩,
      fun ht => Nat.lt_irrefl _ (hmoved.sound.target_lt ht)⟩

/-- **On a socket that works a new pinger gets a fresh mailbox**, which is registered for its
destination. -/
theorem Engine.registered?_register (hs : Sound {} e) {destination : Address}
    (hh : e.hubs[id]? = some hub) (hworks : (e.fatalOf hub.socket).isError = false)
    {pinger : PingerId} (hok : (e.register id destination).2 = .ok pinger) :
    let next := (e.register id destination).1
    next.registered? id destination = some e.mailboxes.size ∧
      next.Fits (.pinger pinger) (.box e.mailboxes.size) := by
  rcases e.register_cases id destination with ⟨failure, hregister⟩ | ⟨hub', hh', hregister⟩
  · rw [hregister] at hok
    cases hok
  · obtain rfl := Option.some.inj (hh.symm.trans hh')
    rw [hregister] at hok ⊢
    obtain rfl := Except.ok.inj hok
    rcases startRegistration_cases hs hh destination with ⟨hfailed, -⟩ | ⟨-, hsome, -⟩
    · rw [hworks] at hfailed
      cases hfailed
    · refine ⟨hsome, ?_⟩
      show Engine.port? _ (.pinger _) = some (.box e.mailboxes.size)
      simp [Engine.port?, Engine.addPinger, Pinger.port]

end Registering

/-! ## 3. Opening the service -/

namespace Engine

/-- Every pinger that was released exists. -/
def Remembers (e : Engine) : Prop := ∀ id ∈ e.released, id < e.pingers.size

theorem Remembers.went (hr : e.Remembers) (h : Went e e') : e'.Remembers := fun id hid =>
  Nat.lt_of_lt_of_le (hr id (h.released id hid)) h.onward.pingerCount

theorem Made.kept {id : PingerId} (hm : Made e e' id) (hr : e.Remembers) (h : Went e e') :
    e'.Kept id :=
  ⟨hm.alive, fun hid => Nat.lt_irrefl _ (Nat.lt_of_lt_of_le (hr id (h.released id hid)) hm.fresh)⟩

end Engine

/-- **A pinger's options are set by acts.** -/
theorem Acts.configure {id : PingerId} {pinger : Pinger} {change : Pinger → Pinger}
    (hs : Sound {} e) (hp : e.pingers[id]? = some pinger) (hg : pinger.gone = false)
    (alike : Pinger.Alike pinger (change pinger))
    (receiving : (change pinger).receiving = pinger.receiving) :
    Acts {} e {} (e.updatePinger id change) := by
  have hact : Act {} e { unsettled := some (.pinger id) } (e.updatePinger id change) :=
    .pinger hp hg alike (.inl rfl) (by rw [receiving]; exact .keeps _ _)
  have hp' : (e.updatePinger id change).pingers[id]? = some (change pinger) := by
    rw [Engine.pingers_updatePinger hp, if_pos rfl]
  refine .cons hact (.one (.settle rfl (Engine.settled_pinger hp' fun hcalls => ?_)))
  rw [alike.calls] at hcalls
  rw [receiving]
  exact hs.settled (.pinger id) (by simp) pinger hp hg hcalls

/-- The hubs that the service uses are numbered from `first` on. -/
def Service.Since (first : HubId) (service : Service) : Prop :=
  ∀ hub, service.hubV4 = some hub ∨ service.hubV6 = some hub → first ≤ hub

/-- The registrations of the hubs from `first` on. -/
def Engine.From (first hub : HubId) (_ : Address) : Prop := first ≤ hub

namespace Moved

variable {first : HubId}

/-- A hub that is opened is the last one. -/
theorem openHub_number (settings : SocketSettings) {hub : HubId}
    (h : (e.openHub settings).2 = .ok hub) : hub = e.hubs.size := by
  obtain ⟨record, -, haside, -⟩ := e.openSocket_grows settings
  unfold Engine.openHub at h
  split at h
  · cases h
  · next opened socket hopen =>
    rw [hopen] at haside
    obtain rfl := Except.ok.inj h
    rw [show opened.hubs = e.hubs from haside.hubs]

theorem hubFor (hs : Sound {} e) {service : Service} (hfirst : first ≤ e.hubs.size)
    (hsince : service.Since first) (family : Family) :
    Moved e (e.hubFor service family).1 ∧
      ∀ service' hub, (e.hubFor service family).2 = .ok (service', hub) →
        service'.targets = service.targets ∧ service'.Since first ∧ first ≤ hub := by
  unfold Engine.hubFor
  simp only []
  split
  · next known hknown =>
    refine ⟨.refl hs, fun service' hub h => ?_⟩
    obtain ⟨rfl, rfl⟩ := Prod.mk.inj (Except.ok.inj h)
    refine ⟨rfl, hsince, hsince _ ?_⟩
    cases family with
    | v4 => exact .inl hknown
    | v6 => exact .inr hknown
  · split
    · exact ⟨.refl hs, by simp⟩
    · next settings hsettings =>
      have hopened := openHub hs settings
      split
      · next opened failure hopen =>
        rw [hopen] at hopened
        exact ⟨hopened, by simp⟩
      · next opened hub hopen =>
        have hnumber := openHub_number settings (by rw [hopen])
        rw [hopen] at hopened
        refine ⟨hopened, fun service' hub' h => ?_⟩
        obtain ⟨rfl, rfl⟩ := Prod.mk.inj (Except.ok.inj h)
        have hle : first ≤ hub := hnumber ▸ hfirst
        cases family with
        | v4 =>
          refine ⟨rfl, fun other hother => ?_, hle⟩
          rcases hother with h4 | h6
          · obtain rfl := Option.some.inj h4
            exact hle
          · exact hsince other (.inr h6)
        | v6 =>
          refine ⟨rfl, fun other hother => ?_, hle⟩
          rcases hother with h4 | h6
          · exact hsince other (.inl h4)
          · obtain rfl := Option.some.inj h6
            exact hle

theorem pingerFor (hs : Sound {} e) {service : Service} (hfirst : first ≤ e.hubs.size)
    (hsince : service.Since first) (address : Address) :
    Moved e (e.pingerFor service address).1 (Engine.From first) ∧
      ∀ service' id, (e.pingerFor service address).2 = .ok (service', id) →
        service'.targets = service.targets ∧ service'.Since first ∧
          Engine.Made e (e.pingerFor service address).1 id := by
  unfold Engine.pingerFor
  split
  · obtain ⟨hhub, hservice⟩ := hubFor hs hfirst hsince address.family
    split
    · next next failure hfor =>
      rw [hfor] at hhub
      exact ⟨hhub.any, by simp⟩
    · next next service' hub hfor =>
      rw [hfor] at hhub hservice
      obtain ⟨htargets, hsince', hle⟩ := hservice service' hub rfl
      obtain ⟨hregister, hmade⟩ := register hhub.sound hub address
      have hmay : ∀ id other, Engine.At hub address id other → Engine.From first id other := by
        rintro id other ⟨rfl, -⟩
        exact hle
      split
      · next last failure hreg =>
        rw [hreg] at hregister
        exact ⟨hhub.any.trans (hregister.mono hmay) hs, by simp⟩
      · next last pinger hreg =>
        rw [hreg] at hregister hmade
        refine ⟨hhub.any.trans (hregister.mono hmay) hs, fun service'' id h => ?_⟩
        obtain ⟨rfl, rfl⟩ := Prod.mk.inj (Except.ok.inj h)
        have hid := hmade pinger rfl
        exact ⟨htargets, hsince',
          { hid with fresh := Nat.le_trans hhub.onward.pingerCount hid.fresh }⟩
  · split
    · exact ⟨.refl hs, by simp⟩
    · next settings hsettings =>
      obtain ⟨hcreate, hmade⟩ := createPinger hs address settings
      split
      · next last failure hcre =>
        rw [hcre] at hcreate
        exact ⟨hcreate.any, by simp⟩
      · next last pinger hcre =>
        rw [hcre] at hcreate hmade
        refine ⟨hcreate.any, fun service' id h => ?_⟩
        obtain ⟨rfl, rfl⟩ := Prod.mk.inj (Except.ok.inj h)
        exact ⟨rfl, hsince, hmade pinger rfl⟩

/-- **A target gets a pinger that is new and kept.** -/
theorem addTarget (hs : Sound {} e) (hr : e.Remembers) {service : Service}
    (hfirst : first ≤ e.hubs.size) (hsince : service.Since first) (name : String) :
    Moved e (e.addTarget service name).1 (Engine.From first) ∧
      ∀ service', (e.addTarget service name).2 = .ok service' → service'.Since first ∧
        ∀ target ∈ service'.targets.toList, target ∈ service.targets.toList ∨
          (e.pingers.size ≤ target.pinger ∧ (e.addTarget service name).1.Kept target.pinger) := by
  unfold Engine.addTarget
  split
  · exact ⟨.refl hs, by simp⟩
  · next address haddress =>
    obtain ⟨hpinger, hmade⟩ := pingerFor hs hfirst hsince address
    split
    · next next failure hfor =>
      rw [hfor] at hpinger
      exact ⟨hpinger, by simp⟩
    · next next service' id hfor =>
      rw [hfor] at hpinger hmade
      obtain ⟨htargets, hsince', hid⟩ := hmade service' id rfl
      obtain ⟨pinger, hp, hg⟩ := hid.alive
      have hconfigure : Acts {} next {}
          (next.updatePinger id (Pinger.configure service'.config.ping)) :=
        .configure hpinger.sound hp hg ⟨rfl, rfl, rfl, rfl, rfl⟩ rfl
      have hmoved : ∀ message, Moved next
          ((next.updatePinger id (Pinger.configure service'.config.ping)).logAbout address .info
            message) := fun message =>
        of_acts hpinger.sound (hconfigure.trans (.aside (.logAbout _ _ _)))
      refine ⟨hpinger.trans (hmoved _).any hs, fun service'' h => ?_⟩
      obtain rfl := Except.ok.inj h
      refine ⟨hsince', fun target htarget => ?_⟩
      rw [Array.toList_push, htargets] at htarget
      rcases List.mem_append.1 htarget with hold | hnew
      · exact .inl hold
      · obtain rfl := List.mem_singleton.1 hnew
        exact .inr ⟨hid.fresh, (hmoved _).kept id (hid.kept hr hpinger.toWent)⟩

theorem addTargets :
    ∀ (names : List String) {e : Engine} (_ : Sound {} e) (_ : e.Remembers) {service : Service}
      (_ : first ≤ e.hubs.size) (_ : service.Since first),
      Moved e (e.addTargets service names).1 (Engine.From first) ∧
        ∀ service', (e.addTargets service names).2 = .ok service' →
          ∀ target ∈ service'.targets.toList, target ∈ service.targets.toList ∨
            (e.pingers.size ≤ target.pinger ∧ (e.addTargets service names).1.Kept target.pinger)
  | [], e, hs, _, service, _, _ => by
    refine ⟨.refl hs, fun service' h target htarget => ?_⟩
    cases h
    exact .inl htarget
  | name :: names, e, hs, hr, service, hfirst, hsince => by
    obtain ⟨hhead, hmade⟩ := addTarget hs hr hfirst hsince name
    unfold Engine.addTargets
    split
    · next next failure hadd =>
      rw [hadd] at hhead
      exact ⟨hhead, by simp⟩
    · next next service' hadd =>
      rw [hadd] at hhead hmade
      obtain ⟨hsince', hnew⟩ := hmade service' rfl
      obtain ⟨hrest, hmade'⟩ := addTargets names hhead.sound (hr.went hhead.toWent)
        (Nat.le_trans hfirst hhead.onward.hubCount) hsince'
      refine ⟨hhead.trans hrest hs, fun service'' h target htarget => ?_⟩
      rcases hmade' service'' h target htarget with hold | ⟨hfresh, hkept⟩
      · rcases hnew target hold with holder | ⟨hfresh, hkept⟩
        · exact .inl holder
        · exact .inr ⟨hfresh, hrest.kept _ hkept⟩
      · exact .inr ⟨Nat.le_trans hhead.onward.pingerCount hfresh, hkept⟩

/-- **Opening the service** is about its own hubs only. -/
theorem openService (hs : Sound {} e) (hr : e.Remembers) (config : Config) :
    Moved e (e.openService config).1 (Engine.From e.hubs.size) := by
  have hlevel : Aside e { e with logLevel := config.logLevel } := { Aside.refl e with }
  have hleveled : Moved e { e with logLevel := config.logLevel } (Engine.From e.hubs.size) :=
    (of_aside hs hlevel).any
  unfold Engine.openService
  simp only []
  split
  · exact hleveled
  · have hnone : Service.Since e.hubs.size { config } := by
      rintro hub (h | h)
      · cases h
      · cases h
    obtain ⟨hadded, hmade⟩ := addTargets config.targets hleveled.sound (hr.went hleveled.toWent)
      (Nat.le_refl _) hnone
    split
    · next next failure hadd =>
      rw [hadd] at hadded
      exact hleveled.trans hadded hs
    · next next service hadd =>
      rw [hadd] at hadded hmade
      have hnew : ∀ id ∈ Engine.targetPingers { next with service := some service },
          e.pingers.size ≤ id ∧ next.Kept id := by
        intro id hid
        obtain ⟨target, htarget, rfl⟩ := List.mem_map.1 hid
        exact (hmade service rfl target htarget).resolve_left (by simp)
      have hsound : Sound {} { next with service := some service } :=
        { hadded.sound with
          wired := { hadded.sound.wired with }
          counted := hadded.sound.counted.same ⟨rfl, rfl, rfl, rfl, fun _ => rfl⟩
          settled := fun client hclient =>
            (hadded.sound.settled client hclient).congr rfl rfl fun _ => rfl
          ledger := { hadded.sound.ledger with }
          armed := { hadded.sound.armed with }
          targets := fun id hid => (hnew id hid).2
          listed := hadded.sound.listed.same rfl rfl }
      have hmoved := hleveled.trans hadded hs
      have hports : SamePorts next { next with service := some service } :=
        ⟨fun client => by cases client <;> rfl, rfl, rfl⟩
      have hstill : Still (Engine.From e.hubs.size) next { next with service := some service } := {
        Still.refl next with
        mailed := fun hm => ⟨hm.boxes, hm.sockets, fun task ht => (hm.tasks task ht).congr rfl⟩
        inbox := fun box => Engine.inbox_congr hports rfl rfl }
      exact {
        sound := hsound
        onward := { hmoved.onward with }
        kept := hmoved.kept
        released := hmoved.released
        targets := fun id hid => .inr (hnew id hid).1
        still := hmoved.still.trans hstill
        attended := hmoved.attended }

end Moved

end IcmpEcho
