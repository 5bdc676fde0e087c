/-
# What one task does to the inboxes

A task can hand a letter out to a pinger (`Engine.letter?`), or it brings a datagram to a hub,
which offers it to the mailbox that is registered for its source (`Engine.offer?`).  **A task
takes the first letter off one inbox, or puts a last letter into one, or changes none**
(`Handled.inbox`).

A datagram from an address ends at most the registration of that address, and only when the mailbox
refuses it; it leaves every other mailbox as it is (`Engine.mailboxes_hubReceived_of_ne`).
-/
import IcmpEcho.Proofs.Releasing

namespace IcmpEcho

variable {e e' : Engine} {box : MailboxId} {id : HubId} {hub : Hub}

/-! ## 1. Offers -/

namespace Engine

/-- The mailbox would refuse a letter: it is closed, or it is full and nobody waits. -/
def refuses (e : Engine) (box : MailboxId) : Bool :=
  match e.mailboxes[box]? with
  | none => true
  | some value =>
    value.isClosed || (value.receiver.isNone && decide (value.capacity ≤ value.queue.length))

/-- The letter that a task offers to a mailbox. -/
def offer? (e : Engine) (box : MailboxId) : Task → Option Letter
  | .received _ (.hub id) code source data =>
    if code.isError = false ∧ e.registered? id source = some box then
      some { time := e.now, packet := data }
    else none
  | _ => none

/-- The letter that a task puts into a mailbox. -/
def taken? (e : Engine) (box : MailboxId) (task : Task) : Option Letter :=
  if e.refuses box then none else e.offer? box task

theorem offerMail_accepted (box : MailboxId) (letter : Letter) :
    (e.offerMail box letter).2 = !e.refuses box := by
  unfold offerMail
  split
  · next hnone => simp [refuses, hnone]
  · next old hold =>
    rcases old.offer_cases letter with
      ⟨hrefused, ho⟩ | ⟨hopen, reader, hr, ho⟩ | ⟨hopen, hr, hroom, ho⟩ <;> simp only [ho]
    · rcases hrefused with hclosed | ⟨hr, hfull⟩
      · simp [refuses, hold, hclosed]
      · simp [refuses, hold, hr, hfull]
    · simp [refuses, hold, hopen, hr]
    · simp [refuses, hold, hopen, hr, hroom]

@[simp] theorem hubs_offerMail (box : MailboxId) (letter : Letter) :
    (e.offerMail box letter).1.hubs = e.hubs := by
  unfold offerMail
  split
  · rfl
  · simp only []
    split <;> rfl

/-- **A letter that is offered comes last in the inbox**, unless it is refused. -/
theorem inbox_offerMail (hw : Wired e) (hm : Mailed e) (box : MailboxId) (letter : Letter)
    (other : MailboxId) :
    (e.offerMail box letter).1.inbox other
      = e.inbox other ++ if other = box ∧ e.refuses box = false then [letter] else [] := by
  have haccepted := offerMail_accepted (e := e) box letter
  unfold offerMail at haccepted ⊢
  split at haccepted
  · next hnone => simp [refuses, hnone]
  · next old hold =>
    simp only [] at haccepted ⊢
    rcases old.offer_cases letter with
      ⟨-, ho⟩ | ⟨-, reader, hr, ho⟩ | ⟨-, -, -, ho⟩ <;> simp only [ho] at haccepted ⊢
    · -- refused
      have hrefuses : e.refuses box = true := by simpa using haccepted.symm
      rw [inbox_setMailbox hold]
      by_cases hother : other = box
      · subst hother
        simp [hrefuses, inbox, queued_eq hold]
      · simp [hother]
    · -- handed to the reader that waits; nothing is queued then
      have hrefuses : e.refuses box = false := by simpa using haccepted.symm
      have hempty : old.queue = [] := (hm.boxes box old hold).waits (by simp [hr])
      have hport : e.port? reader.client = some (.box box) :=
        (hw.waits (.box box) reader.client (by rw [waiter?_box hold, hr, Option.map_some])).port?_box
      have hports : SamePorts e (e.setMailbox box { old with receiver := none }) :=
        (SameParts.setMailbox e box _).ports
      rw [inbox_post, letter?_congr hports, queued_setMailbox hold]
      by_cases hother : other = box
      · subst hother
        simp [letter?, hport, hrefuses, inbox, queued_eq hold, hempty, setMailbox]
      · have hne : box ≠ other := fun h => hother h.symm
        simp [letter?, hport, hne, hother, inbox, setMailbox]
    · -- queued
      have hrefuses : e.refuses box = false := by simpa using haccepted.symm
      rw [inbox_setMailbox hold]
      by_cases hother : other = box
      · subst hother
        simp [hrefuses, inbox, queued_eq hold]
      · simp [hother]

/-- A mailbox that was closed by an offer was closed before. -/
theorem shut_offerMail {letter : Letter} {other : MailboxId}
    (h : (e.offerMail box letter).1.Shut other) : e.Shut other := by
  unfold offerMail at h
  split at h
  · exact h
  · next old hold =>
    rcases old.offer_cases letter with
      ⟨-, ho⟩ | ⟨-, reader, hr, ho⟩ | ⟨-, -, -, ho⟩ <;> simp only [ho] at h
    all_goals
      rcases shut_setMailbox hold h with h | ⟨rfl, hclosed⟩
      · exact h
      · exact ⟨old, hold, hclosed⟩

theorem mailboxes_offerMail_of_ne (letter : Letter) {other : MailboxId} (h : other ≠ box) :
    (e.offerMail box letter).1.mailboxes[other]? = e.mailboxes[other]? := by
  unfold offerMail
  split
  · rfl
  · simp only []
    split
    · exact mailboxes_setMailbox_of_ne _ h
    · exact mailboxes_setMailbox_of_ne _ h
    · exact mailboxes_setMailbox_of_ne _ h

theorem refuses_of_shut (h : e.Shut box) : e.refuses box = true := by
  obtain ⟨value, hvalue, hclosed⟩ := h
  simp [refuses, hvalue, hclosed]

end Engine

theorem Mailed.offerMail (hm : Mailed e) (box : MailboxId) (letter : Letter) :
    Mailed (e.offerMail box letter).1 := by
  unfold Engine.offerMail
  split
  · exact hm
  · next old hold =>
    have horderly := hm.boxes box old hold
    rcases old.offer_cases letter with
      ⟨-, ho⟩ | ⟨-, reader, hr, ho⟩ | ⟨-, hr, -, ho⟩ <;> simp only [ho]
    · exact hm.setMailbox hold horderly
    · have htaken : Mailed (e.setMailbox box { old with receiver := none }) :=
        hm.setMailbox hold ⟨by simp, horderly.capacity⟩
      exact htaken.post trivial
    · exact hm.setMailbox hold ⟨by simp [hr], horderly.capacity⟩

/-! ## 2. What a hub does with a datagram -/

namespace Engine

/-- What a task offers is put into an inbox, unless it is refused. -/
theorem inbox_offered (hw : Wired e) (hm : Mailed e) (task : Task) (box : MailboxId) :
    (e.offered task).inbox box = e.inbox box ++ (e.taken? box task).toList := by
  unfold offered
  split
  · next socket id code source data =>
    split
    · next hcode => simp [taken?, offer?, hcode]
    · next hcode =>
      have hcode : code.isError = false := by simpa using hcode
      unfold hubOffer
      split
      · next hnone =>
        have hnone : e.registered? id source = none := hnone
        simp [taken?, offer?, hnone]
      · next registered hsome =>
        have hsome : e.registered? id source = some registered := hsome
        rw [inbox_offerMail hw hm]
        by_cases hbox : box = registered
        · subst hbox
          cases hrefuses : e.refuses box <;> simp [taken?, offer?, hcode, hsome, hrefuses]
        · have hne : registered ≠ box := fun h => hbox h.symm
          simp [taken?, offer?, hcode, hsome, hbox, hne]
  · next hother =>
    have hnone : e.offer? box task = none := by
      unfold offer?
      split
      · next socket id code source data => exact absurd rfl (hother socket id code source data)
      · rfl
    simp [taken?, hnone]

/-- An offer registers nothing and closes nothing. -/
theorem offered_spec (hm : Mailed e) (task : Task) :
    Mailed (e.offered task) ∧ (e.offered task).hubs = e.hubs ∧
      ∀ other, (e.offered task).Shut other → e.Shut other := by
  unfold offered
  split
  · split
    · exact ⟨hm, rfl, fun _ h => h⟩
    · unfold hubOffer
      split
      · exact ⟨hm, rfl, fun _ h => h⟩
      · exact ⟨hm.offerMail _ _, hubs_offerMail _ _, fun _ => shut_offerMail⟩
  · exact ⟨hm, rfl, fun _ h => h⟩

theorem mailboxes_receiveForHub (id : HubId) (hub : Hub) :
    (e.receiveForHub id hub).mailboxes = e.mailboxes := mailboxes_receive _ _ _

theorem hubs_receiveForHub (id : HubId) (hub : Hub) : (e.receiveForHub id hub).hubs = e.hubs :=
  (SameParts.receive _ _ _).hubs

/-- What is done when a mailbox has refused: its registration ends, and it is closed. -/
theorem endRegistration_spec (hh : e.hubs[id]? = some hub) (source : Address) (box : MailboxId) :
    (e.endRegistration id hub source box).registered? id source = none ∧
      ∀ other, other ≠ box →
        (e.endRegistration id hub source box).mailboxes[other]? = e.mailboxes[other]? := by
  let left := Hub.leave source hub.registry
  let closed := e.closeMail box PingFault.registrationClosed.code
  let parted := closed.updateHub id fun hub =>
    { hub with registry := left, running := !left.isEmpty }
  let logged := parted.logAbout source .info "delivery failed, registration removed"
  have hlog : Aside parted logged := .logAbout _ _ _
  have hh' : closed.hubs[id]? = some hub := by rw [hubs_closeMail, hh]
  have hgone : logged.registered? id source = none := by
    rw [registered?_eq hlog.hubs, registered?_updateHub hh', if_pos rfl]
    exact Hub.lookup_leave_self source hub.registry
  have hothers : ∀ other, other ≠ box → logged.mailboxes[other]? = e.mailboxes[other]? := by
    intro other hne
    rw [hlog.mailboxes]
    exact mailboxes_closeMail_of_ne _ hne
  unfold endRegistration
  simp only []
  split
  · have hstopped : Aside logged
        (logged.logDated .all "reply dispatcher stopped: no registrations left") := .logDated _ _
    refine ⟨(registered?_eq hstopped.hubs _ _).trans hgone, fun other hne => ?_⟩
    rw [hstopped.mailboxes]
    exact hothers other hne
  · refine ⟨(registered?_eq (hubs_receiveForHub _ _) _ _).trans hgone, fun other hne => ?_⟩
    rw [mailboxes_receiveForHub]
    exact hothers other hne

variable {code : ErrorCode} {source : Address}

/-- **A datagram leaves every mailbox alone that is not registered for its source.** -/
theorem mailboxes_hubReceived_of_ne (hcode : code.isError = false) (data : Bytes) {other : MailboxId}
    (h : e.registered? id source ≠ some other) :
    (e.hubReceived id code source data).mailboxes[other]? = e.mailboxes[other]? := by
  unfold hubReceived
  split
  · rfl
  · next hub hh =>
    rw [if_neg (by simp [hcode])]
    rw [registered?, hh, Option.bind_some] at h
    split
    · rw [mailboxes_receiveForHub]
    · next box hbox =>
      have hne : other ≠ box := by
        rintro rfl
        exact h hbox
      have hoffered := mailboxes_offerMail_of_ne (e := e) { time := e.now, packet := data } hne
      have hhubs := hubs_offerMail (e := e) box { time := e.now, packet := data }
      split
      · next offered hoffer =>
        rw [hoffer] at hoffered
        rw [mailboxes_receiveForHub, hoffered]
      · next offered hoffer =>
        rw [hoffer] at hoffered hhubs
        have hh' : offered.hubs[id]? = some hub := by
          rw [show offered.hubs = e.hubs from hhubs, hh]
        rw [(endRegistration_spec hh' source box).2 other hne, hoffered]

/-- **What becomes of the registration of the source**: it goes on when its mailbox takes the
datagram, and ends when it refuses. -/
theorem registered?_hubReceived (hcode : code.isError = false) (data : Bytes)
    (hbox : e.registered? id source = some box) :
    (e.refuses box = true ∧ (e.hubReceived id code source data).registered? id source = none) ∨
      (e.refuses box = false ∧
        (e.hubReceived id code source data).registered? id source = some box ∧
        ((e.hubReceived id code source data).Shut box → e.Shut box)) := by
  obtain ⟨hub, hh, hmailbox⟩ := Option.bind_eq_some_iff.1 hbox
  let letter : Letter := { time := e.now, packet := data }
  have haccepted := offerMail_accepted (e := e) box letter
  have hhubs := hubs_offerMail (e := e) box letter
  unfold hubReceived
  simp only [hh]
  rw [if_neg (by simp [hcode])]
  simp only [hmailbox]
  split
  · next offered hoffer =>
    rw [hoffer] at haccepted hhubs
    refine .inr ⟨by simpa using haccepted.symm, ?_, ?_⟩
    · rw [registered?_eq ((hubs_receiveForHub _ _).trans hhubs), hbox]
    · rintro ⟨value, hvalue, hclosed⟩
      rw [mailboxes_receiveForHub] at hvalue
      have hshut : (e.offerMail box letter).1.Shut box :=
        ⟨value, by rw [hoffer]; exact hvalue, hclosed⟩
      exact shut_offerMail hshut
  · next offered hoffer =>
    rw [hoffer] at haccepted hhubs
    have hh' : offered.hubs[id]? = some hub := by
      rw [show offered.hubs = e.hubs from hhubs, hh]
    exact .inl ⟨by simpa using haccepted.symm, (endRegistration_spec hh' source box).1⟩

/-- **A receive that failed leaves nothing registered.** -/
theorem registered?_hubReceived_of_error (hcode : code.isError) (source : Address) (data : Bytes)
    (address : Address) : (e.hubReceived id code source data).registered? id address = none := by
  unfold hubReceived
  split
  · next hnone => rw [registered?, hnone, Option.bind_none]
  · next hub hh =>
    rw [if_pos hcode]
    let stopped := e.updateHub id fun hub => { hub with running := false }
    have hh' : stopped.hubs[id]? = some { hub with running := false } := by
      rw [hubs_updateHub hh, if_pos rfl]
    have hclosed : (stopped.closeRegistrations id hub code).registered? id address = none := by
      rw [registered?, hubs_closeRegistrations hh', if_pos rfl]
      rfl
    unfold failHub
    simp only []
    split
    · exact hclosed
    · exact (registered?_eq (Aside.logDated _ _).hubs _ _).trans hclosed

end Engine

/-! ## 3. Handing out -/

/-- **A task that brings a letter is the only one of its mailbox.** -/
theorem Sound.letter?_unique (hs : Sound {} e) {front back : List Task} {task : Task}
    (hr : e.ready = front ++ task :: back) {letter : Letter} (hl : e.letter? box task = some letter) :
    ∀ other ∈ front ++ back, e.letter? box other = none := by
  obtain ⟨reader, code, rfl, hport, -⟩ := Engine.letter?_eq_some hl
  have hsingle := hs.counted.single reader.client (.box box) hport
  have hposted : e.posted reader.client = (front ++ back).countP
      (fun other => other.listener? = some reader.client) + 1 := by
    simp only [Engine.posted, hr, List.countP_append, List.countP_cons, Task.listener?, decide_true,
      if_true]
    omega
  have hzero : (front ++ back).countP (fun other => other.listener? = some reader.client) = 0 := by
    simp only [Engine.outstanding] at hsingle
    omega
  intro other hother
  cases hletter : e.letter? box other with
  | none => rfl
  | some letter' =>
    obtain ⟨reader', code', rfl, hport', -⟩ := Engine.letter?_eq_some hletter
    have hclient := hs.wired.unique _ _ _ hport' hport
    have hno := List.countP_eq_zero.1 hzero _ hother
    simp [Task.listener?, hclient] at hno

/-- **What a task hands out is the first letter of its inbox.** -/
theorem Sound.inbox_consume (hs : Sound {} e) {front back : List Task} {task : Task}
    (hr : e.ready = front ++ task :: back) (box : MailboxId) :
    (e.letter? box task).toList ++ Engine.inbox { e with ready := front ++ back } box
      = e.inbox box := by
  have hports : SamePorts e { e with ready := front ++ back } :=
    ⟨fun client => by cases client <;> rfl, rfl, rfl⟩
  have hinbox : Engine.inbox { e with ready := front ++ back } box
      = (front ++ back).filterMap (e.letter? box) ++ e.queued box := by
    rw [Engine.inbox, Engine.letter?_congr hports]
    rfl
  rw [hinbox, Engine.inbox, hr]
  cases hletter : e.letter? box task with
  | none => simp [List.filterMap_append, hletter]
  | some letter =>
    have hnone := hs.letter?_unique hr hletter
    have hfront : front.filterMap (e.letter? box) = [] :=
      List.filterMap_eq_nil_iff.2 fun other ho => hnone other (List.mem_append_left _ ho)
    simp [List.filterMap_append, hletter, hfront]

/-! ## 4. One task -/

/-- `e'` comes from `e` by performing a task. -/
structure Handled (task : Task) (e e' : Engine) : Prop extends Went e e' where
  mailed : Mailed e'
  attended : e.Attended → e'.Attended
  inbox : ∀ box, (e.letter? box task).toList ++ e'.inbox box
    = e.inbox box ++ (e.taken? box task).toList
  registered : ∀ id address box, e'.registered? id address = some box →
    e.registered? id address = some box
  frame : ∀ id address, ¬ task.may id address → e'.registered? id address = e.registered? id address
  /-- A mailbox that takes a datagram stays registered, one that refuses it does not. -/
  offered : ∀ socket id code source data box, task = .received socket (.hub id) code source data →
    code.isError = false → e.registered? id source = some box →
    (e.refuses box = true ∧ e'.registered? id source = none) ∨
      (e.refuses box = false ∧ e'.registered? id source = some box)
  boxes : e.mailboxes.size ≤ e'.mailboxes.size

/-- Nothing is registered that may have ended, unless a mailbox took a datagram. -/
theorem Engine.Taken.registered?_of_may {task : Task} (ht : e.Taken task) {address : Address}
    (hmay : task.may id address) (hr : (e.perform task).registered? id address = some box) :
    ∃ socket code data, task = .received socket (.hub id) code address data ∧
      code.isError = false := by
  unfold Task.may at hmay
  split at hmay
  · next socket id' code source data =>
    obtain ⟨rfl, haddress⟩ := hmay
    cases hcode : code.isError with
    | false =>
      rw [haddress hcode]
      exact ⟨socket, code, data, rfl, hcode⟩
    | true =>
      simp only [perform, socketReceived, hcode, receiveEnded] at hr
      rw [if_neg (by simp), registered?_hubReceived_of_error hcode] at hr
      cases hr
  · next id' code =>
    obtain rfl := hmay
    simp only [perform, receiveEnded] at hr
    rw [registered?_hubReceived_of_error ht.proper.1] at hr
    cases hr
  · exact hmay.elim

/-- **Any ready task is handled.** -/
theorem Sound.handle (hs : Sound {} e) (hm : Mailed e) {front back : List Task} {task : Task}
    (hr : e.ready = front ++ task :: back) :
    Handled task e ({ e with ready := front ++ back }.perform task) := by
  let rest : Engine := { e with ready := front ++ back }
  obtain ⟨hsound, hsteady⟩ := hs.perform hr
  obtain ⟨htaken, hknown⟩ := hs.consume hr
  have hpasses := Engine.passes_offered htaken.wired task
  have hoffered := htaken.passes hpasses
  have hstill : Still task.may (rest.offered task) (rest.perform task) :=
    (Acts.perform htaken hknown).still hoffered
  have hrest : Mailed rest := ⟨hm.boxes, hm.sockets, fun other ho =>
    (hm.tasks other ((sublist_of_taken hr).subset ho)).congr rfl⟩
  obtain ⟨hmoffered, hhubs, hshut⟩ := Engine.offered_spec hrest task
  have hboxes : (rest.offered task).mailboxes.size = e.mailboxes.size := hpasses.same.boxCount
  have hregistered : ∀ id address, (rest.offered task).registered? id address
      = e.registered? id address := Engine.registered?_eq hhubs
  have hknownBox : ∀ {id address box}, (rest.perform task).registered? id address = some box →
      box < e.mailboxes.size := fun h => by
    have hlt := hsound.listed.known _ _ _ (Engine.lists_of_registered? h)
    rwa [hsteady.ports.boxCount] at hlt
  have hkeeps : ∀ id address box, (rest.perform task).registered? id address = some box →
      e.registered? id address = some box := fun id address box h => by
    rw [← hregistered]
    exact hstill.registered id address box (by rw [hboxes]; exact hknownBox h) h
  have hdatagram : ∀ socket id code source data box,
      task = .received socket (.hub id) code source data → code.isError = false →
      e.registered? id source = some box →
      (e.refuses box = true ∧ (rest.perform task).registered? id source = none) ∨
        (e.refuses box = false ∧ (rest.perform task).registered? id source = some box ∧
          ((rest.perform task).Shut box → e.Shut box)) := by
    rintro socket id code source data box rfl hcode hbox
    have hperform : rest.perform (.received socket (.hub id) code source data)
        = rest.hubReceived id code source data := by
      simp [Engine.perform, Engine.socketReceived, Engine.receiveEnded, hcode]
    rw [hperform]
    exact Engine.registered?_hubReceived (e := rest) hcode data hbox
  exact {
    toWent := .of_steady hsound hsteady
    mailed := hstill.mailed hmoffered
    inbox := fun box => by
      have hput : rest.inbox box ++ (e.taken? box task).toList = (rest.offered task).inbox box :=
        (Engine.inbox_offered htaken.wired hrest task box).symm
      rw [hstill.inbox, ← hput, ← List.append_assoc, hs.inbox_consume hr]
    registered := hkeeps
    frame := fun id address hno => (hstill.frame id address hno).trans (hregistered id address)
    offered := fun socket id code source data box htask hcode hbox =>
      (hdatagram socket id code source data box htask hcode hbox).imp_right fun h => ⟨h.1, h.2.1⟩
    boxes := Nat.le_of_eq hsteady.ports.boxCount.symm
    attended := fun ha => by
      have haoffered : (rest.offered task).Attended := by
        intro id address box hr hclosed
        rw [hregistered] at hr
        obtain ⟨other, pinger, hp, horphan⟩ := ha id address box hr (hshut box hclosed)
        exact ⟨other, pinger, by rwa [hpasses.same.pingers], horphan⟩
      refine hstill.attended haoffered fun id address box hr hcase hclosed => ?_
      rcases hcase with hnew | hmay
      · rw [hboxes] at hnew
        exact absurd (hknownBox hr) (Nat.not_lt.2 hnew)
      · -- the mailbox took the datagram, so it is open
        obtain ⟨socket, code, data, htask, hcode⟩ := hknown.registered?_of_may hmay hr
        rcases hdatagram socket id code address data box htask hcode (hkeeps _ _ _ hr) with
          ⟨-, hnone⟩ | ⟨htakes, -, hopen⟩
        · rw [hnone] at hr
          cases hr
        · rw [Engine.refuses_of_shut (hopen hclosed)] at htakes
          cases htakes }

/-- Sweeping afterwards changes no inbox and ends no registration. -/
theorem Handled.sweep {task : Task} (h : Handled task e e') (hs : Sound {} e) :
    Handled task e e'.sweep := by
  have hswept := Moved.sweep h.sound
  have hsame : ∀ id address, e'.sweep.registered? id address = e'.registered? id address :=
    fun id address => hswept.still.frame id address fun hno => hno
  exact {
    toWent := h.toWent.trans hswept.toWent hs
    mailed := hswept.still.mailed h.mailed
    attended := fun ha => hswept.attended (h.attended ha)
    inbox := fun box => by rw [hswept.still.inbox, h.inbox]
    registered := fun id address box hr => h.registered id address box (by rwa [← hsame])
    frame := fun id address hno => (hsame id address).trans (h.frame id address hno)
    offered := fun socket id code source data box htask hcode hbox => by
      rw [hsame]
      exact h.offered socket id code source data box htask hcode hbox
    boxes := Nat.le_trans h.boxes hswept.still.boxes }

end IcmpEcho
