/-
# What a registration hands out

A registration (`Registration`) is a mailbox that a hub has for an address.  It is listed from the
deed that made it on, without a gap, until a deed ends it, and never again after that.

* What it *hears*: the datagrams from its address that the hub handles (`Registration.heard?`).
* What it *hands out*: the letters that tasks bring from its mailbox to its pinger
  (`Registration.handed?`).

**What was handed out, followed by what is in the inbox, is what was heard**
(`Registration.Story`): in that order, each datagram once, but for the one whose refusal ended the
registration.  So a full mailbox or a lost pinger costs the datagram that finds it, and never an
earlier one.

One deed is looked at first (section 4), then a run, by induction (section 6).
-/
import IcmpEcho.Proofs.Runs

namespace IcmpEcho

/-! ## 1. Registrations -/

/-- The mailbox that a hub has for an address. -/
structure Registration where
  hub : HubId
  address : Address
  box : MailboxId

namespace Engine

/-- As many letters as a mailbox holds are queued, and nobody waits. -/
def Full (e : Engine) (box : MailboxId) : Prop :=
  ∃ value, e.mailboxes[box]? = some value ∧ value.receiver = none ∧ 100 ≤ value.queue.length

end Engine

namespace Session

/-- The registration is listed by its hub. -/
def Has (s : Session) (r : Registration) : Prop :=
  s.engine.registered? r.hub r.address = some r.box

/-- No hub lists the mailbox. -/
def Unlisted (s : Session) (box : MailboxId) : Prop :=
  ∀ id address, s.engine.registered? id address ≠ some box

/-- The name whose object a step can let go. -/
def Step.letsGo? : Step → Option String
  | .openSocket name _ | .openHub name _ | .create name _ _ | .register name _ _ | .drop name
  | .close name => some name
  | _ => none

/-- How a deed ends a registration. -/
inductive Ends (s : Session) (r : Registration) : Deed → Prop
  /-- A new pinger is registered for the same address. -/
  | replaced {name via : String} (hvia : s.handle? via = some (.hub r.hub)) :
    Ends s r (.step (.register name via r.address))
  /-- A datagram is refused, since the mailbox is full or its pinger is gone. -/
  | refused {socket : SocketId} {code : ErrorCode} {data : Bytes} (hcode : code.isError = false)
    (why : s.engine.Full r.box ∨ s.engine.Orphan r.box) :
    Ends s r (.task (.received socket (.hub r.hub) code r.address data))
  /-- The hub is closed, or let go. -/
  | closed {step : Step} {name : String} (hstep : step.letsGo? = some name)
    (hname : s.handle? name = some (.hub r.hub)) : Ends s r (.step step)
  /-- The hub's receive fails. -/
  | failed {socket : SocketId} {code : ErrorCode} {source : Address} {data : Bytes}
    (hcode : code.isError) : Ends s r (.task (.received socket (.hub r.hub) code source data))
  /-- The hub's receive could not be started. -/
  | deaf {code : ErrorCode} (hcode : code.isError) : Ends s r (.task (.noReceive (.hub r.hub) code))

end Session

namespace Registration

open Session

/-- The datagram from the address of the registration that its hub handles. -/
def heard? (r : Registration) (entry : Session × Deed) : Option Letter :=
  match entry.2 with
  | .task (.received _ (.hub id) code source data) =>
    if id = r.hub ∧ source = r.address ∧ code.isError = false then
      some { time := entry.1.engine.now, packet := data }
    else none
  | _ => none

/-- The letter that is handed out to the pinger of the registration. -/
def handed? (r : Registration) (entry : Session × Deed) : Option Letter :=
  match entry.2 with
  | .task due => entry.1.engine.letter? r.box due
  | _ => none

/-- **What becomes of a registration**, and of the letters that were in its inbox at first. -/
inductive Story (r : Registration) (first : List Letter) :
    List (Session × Deed) → Session → Prop
  /-- It is listed all the time. -/
  | lasts {past : List (Session × Deed)} {s : Session} (listed : ∀ entry ∈ past, entry.1.Has r)
    (last : s.Has r)
    (letters : first ++ past.filterMap r.heard?
      = past.filterMap r.handed? ++ s.engine.inbox r.box) :
    Story r first past s
  /-- One deed ends it. -/
  | ended {past after : List (Session × Deed)} {t s : Session} {deed : Deed}
    (listed : ∀ entry ∈ past, entry.1.Has r) (last : t.Has r) (cause : Ends t r deed)
    (gone : ∀ entry ∈ after, entry.1.Unlisted r.box) (left : s.Unlisted r.box)
    (letters : first ++ past.filterMap r.heard?
      = (past ++ (t, deed) :: after).filterMap r.handed? ++ s.engine.inbox r.box) :
    Story r first (past ++ (t, deed) :: after) s

/-- What a registration hears is the whole of what its hub was brought, with the time of the
handling. -/
theorem heard?_eq_some {r : Registration} {entry : Session × Deed} {letter : Letter}
    (h : r.heard? entry = some letter) :
    ∃ socket code data, entry.2 = .task (.received socket (.hub r.hub) code r.address data) ∧
      code.isError = false ∧ letter = { time := entry.1.engine.now, packet := data } := by
  obtain ⟨s, deed⟩ := entry
  unfold heard? at h
  split at h
  · next socket id code source data hdeed =>
    split at h
    · next hmatch =>
      obtain ⟨rfl, rfl, hcode⟩ := hmatch
      exact ⟨socket, code, data, hdeed, hcode, (Option.some.inj h).symm⟩
    · cases h
  · cases h

end Registration

theorem filterMap_cons_toList {α β : Type} (f : α → Option β) (a : α) (l : List α) :
    (a :: l).filterMap f = (f a).toList ++ l.filterMap f := by
  rw [List.filterMap_cons]
  cases f a <;> rfl

namespace Registration.Story

variable {r : Registration} {first first' : List Letter} {past : List (Session × Session.Deed)}
  {s : Session} {entry : Session × Session.Deed}

/-- A deed more, before the others. -/
theorem cons (h : r.Story first' past s) (hhas : entry.1.Has r)
    (hletters : (r.handed? entry).toList ++ first' = first ++ (r.heard? entry).toList) :
    r.Story first (entry :: past) s := by
  have hlisted : ∀ {past : List (Session × Session.Deed)}, (∀ other ∈ past, other.1.Has r) →
      ∀ other ∈ entry :: past, other.1.Has r := by
    intro past hpast other hother
    rcases List.mem_cons.1 hother with rfl | hother
    · exact hhas
    · exact hpast other hother
  cases h with
  | lasts listed last letters =>
    refine .lasts (hlisted listed) last ?_
    rw [filterMap_cons_toList, filterMap_cons_toList, ← List.append_assoc, ← hletters,
      List.append_assoc, letters, List.append_assoc]
  | ended listed last cause gone left letters =>
    refine .ended (hlisted listed) last cause gone left ?_
    rw [List.cons_append, filterMap_cons_toList, filterMap_cons_toList, ← List.append_assoc,
      ← hletters, List.append_assoc, letters, List.append_assoc]

end Registration.Story

variable {e : Engine} {box : MailboxId} {id : HubId} {hub : Hub}

/-! ## 2. Mailboxes -/

/-- Nothing is in the inbox of a mailbox that does not exist. -/
theorem Sound.inbox_eq_nil (hs : Sound {} e) (h : e.mailboxes.size ≤ box) : e.inbox box = [] := by
  have hqueued : e.queued box = [] := by
    simp [Engine.queued, Array.getElem?_eq_none h]
  have hhanded : ∀ task ∈ e.ready, e.letter? box task = none := by
    intro task _
    cases hletter : e.letter? box task with
    | none => rfl
    | some letter =>
      obtain ⟨reader, code, -, hport, -⟩ := Engine.letter?_eq_some hletter
      exact absurd (hs.wired.valid reader.client (.box box) hport) (Nat.not_lt.2 h)
  rw [Engine.inbox, hqueued, List.filterMap_eq_nil_iff.2 hhanded, List.append_nil]

/-- A mailbox that is registered exists. -/
theorem Sound.registered_lt (hs : Sound {} e) {address : Address}
    (h : e.registered? id address = some box) : box < e.mailboxes.size :=
  hs.listed.known _ _ _ (Engine.lists_of_registered? h)

/-- A mailbox that refuses what is registered for it is full, or its pinger is gone. -/
theorem Engine.full_or_orphan (hm : Mailed e) (ha : e.Attended) {address : Address}
    (hr : e.registered? id address = some box) (hb : box < e.mailboxes.size)
    (h : e.refuses box = true) : e.Full box ∨ e.Orphan box := by
  have hvalue : e.mailboxes[box]? = some e.mailboxes[box] := Array.getElem?_eq_getElem hb
  simp only [Engine.refuses, hvalue, Bool.or_eq_true, Bool.and_eq_true, decide_eq_true_eq] at h
  rcases h with hclosed | ⟨hwaits, hfull⟩
  · exact .inr (ha id address box hr ⟨_, hvalue, hclosed⟩)
  · rw [(hm.boxes box _ hvalue).capacity] at hfull
    exact .inl ⟨_, hvalue, Option.isNone_iff_eq_none.1 hwaits, hfull⟩

/-! ## 3. Elsewhere -/

/-- All registrations and inboxes are the same but those of one address at one hub. -/
structure Elsewhere (id : HubId) (address : Address) (e e' : Engine) : Prop where
  registered : ∀ other address', ¬ (other = id ∧ address' = address) →
    e'.registered? other address' = e.registered? other address'
  mailboxes : ∀ box, e.registered? id address ≠ some box → e'.mailboxes[box]? = e.mailboxes[box]?
  inbox : ∀ box, e.registered? id address ≠ some box → e'.inbox box = e.inbox box

/-- **A datagram is about the registration of its source**, and about no other. -/
theorem Sound.elsewhere (hs : Sound {} e) (hm : Mailed e) {front back : List Task} {socket : SocketId}
    {code : ErrorCode} {source : Address} {data : Bytes}
    (hr : e.ready = front ++ .received socket (.hub id) code source data :: back)
    (hcode : code.isError = false) :
    Elsewhere id source e
      ({ e with ready := front ++ back }.perform (.received socket (.hub id) code source data)) where
  registered other address' hne := (hs.handle hm hr).frame other address' fun hmay =>
    hne ⟨hmay.1, hmay.2 hcode⟩
  mailboxes box hbox := by
    have hperform : ∀ e : Engine, e.perform (.received socket (.hub id) code source data)
        = e.hubReceived id code source data := fun e => by
      simp [Engine.perform, Engine.socketReceived, Engine.receiveEnded, hcode]
    rw [hperform]
    exact Engine.mailboxes_hubReceived_of_ne (e := { e with ready := front ++ back }) hcode data hbox
  inbox box hbox := by
    have hinbox := (hs.handle hm hr).inbox box
    have hnone : e.offer? box (.received socket (.hub id) code source data) = none := by
      simp [Engine.offer?, hbox]
    rw [Engine.taken?, hnone, ite_self] at hinbox
    simpa [Engine.letter?] using hinbox

/-- **A pinger that goes ends no registration**, and closes no mailbox but its own. -/
theorem Engine.removePinger_elsewhere {id : PingerId} {pinger : Pinger}
    (hp : e.pingers[id]? = some pinger) :
    (∀ hub address, (e.removePinger id).registered? hub address = e.registered? hub address) ∧
      ∀ box, pinger.mailbox ≠ some box → (e.removePinger id).mailboxes[box]? = e.mailboxes[box]? := by
  unfold removePinger
  simp only [hp]
  split
  · next own hown =>
    refine ⟨fun hub address => registered?_eq (hubs_closeMail _ _) hub address, fun box hne => ?_⟩
    have hother : box ≠ own := by
      rintro rfl
      exact hne hown
    rw [mailboxes_closeMail_of_ne _ hother]
    rfl
  · obtain ⟨hhubs, hboxes⟩ := closeSocket_elsewhere
      (e := e.updatePinger id fun pinger => { pinger with gone := true }) pinger.socket
    refine ⟨fun hub address => registered?_eq hhubs hub address, fun box _ => ?_⟩
    rw [hboxes]
    rfl

namespace Session

variable {s s' s'' t : Session} {deed : Deed} {r : Registration} {past : List (Session × Deed)}

/-! ## 4. One deed -/

/-- A mailbox is registered in one place. -/
theorem Sound.unlisted_of_not_has (hs : s.Sound) (hhas : s.Has r)
    (hmono : ∀ id address, s'.engine.registered? id address = some r.box →
      s.engine.registered? id address = some r.box) (hnot : ¬ s'.Has r) : s'.Unlisted r.box := by
  intro id address hr
  obtain ⟨rfl, rfl⟩ := hs.engine.listed.once _ _ _ _ _
    (Engine.lists_of_registered? (hmono id address hr)) (Engine.lists_of_registered? hhas)
  exact hnot hr

/-- What is offered to the mailbox of a registration is what the registration hears. -/
theorem Sound.offer?_eq_heard? (hs : s.Sound) (hhas : s.Has r) (due : Task) :
    s.engine.offer? r.box due = r.heard? (s, .task due) := by
  unfold Engine.offer? Registration.heard?
  split
  · next socket id code source data =>
    have hiff : (code.isError = false ∧ s.engine.registered? id source = some r.box) ↔
        (id = r.hub ∧ source = r.address ∧ code.isError = false) := by
      constructor
      · rintro ⟨hcode, hr⟩
        obtain ⟨hid, hsource⟩ := hs.engine.listed.once _ _ _ _ _
          (Engine.lists_of_registered? hr) (Engine.lists_of_registered? hhas)
        exact ⟨hid, hsource, hcode⟩
      · rintro ⟨rfl, rfl, hcode⟩
        exact ⟨hcode, hhas⟩
    simp only [hiff]
  · next hother =>
    split
    · next socket id code source data heq =>
      exact absurd (Deed.task.inj heq) (hother socket id code source data)
    · rfl

theorem offer?_of_unlisted (hno : s.Unlisted box) (due : Task) : s.engine.offer? box due = none := by
  unfold Engine.offer?
  split
  · exact if_neg fun h => hno _ _ h.2
  · rfl

namespace Does

theorem boxes (h : Does s deed s') (hs : s.Sound) :
    s.engine.mailboxes.size ≤ s'.engine.mailboxes.size := by
  rcases h.handled_or_moves hs with ⟨due, -, hhandled, -⟩ | ⟨-, hmoves⟩
  · exact hhandled.boxes
  · exact hmoves.still.boxes

/-- A mailbox that exists is not registered anew. -/
theorem registered (h : Does s deed s') (hs : s.Sound) (hb : box < s.engine.mailboxes.size)
    {address : Address} (hr : s'.engine.registered? id address = some box) :
    s.engine.registered? id address = some box := by
  rcases h.handled_or_moves hs with ⟨due, -, hhandled, -⟩ | ⟨-, hmoves⟩
  · exact hhandled.registered _ _ _ hr
  · exact hmoves.still.registered _ _ _ hb hr

/-- Only the registrations that a deed is about change. -/
theorem frame (h : Does s deed s') (hs : s.Sound) {address : Address}
    (hno : ¬ deed.may s id address) :
    s'.engine.registered? id address = s.engine.registered? id address := by
  rcases h.handled_or_moves hs with ⟨due, rfl, hhandled, -⟩ | ⟨-, hmoves⟩
  · exact hhandled.frame _ _ hno
  · exact hmoves.still.frame _ _ hno

/-- A mailbox that no hub lists is never listed again. -/
theorem unlisted (h : Does s deed s') (hs : s.Sound) (hb : box < s.engine.mailboxes.size)
    (hno : s.Unlisted box) : s'.Unlisted box :=
  fun id address hr => hno id address (h.registered hs hb hr)

/-- What ends a registration ends it for good. -/
theorem unlisted_of_ended (h : Does s deed s') (hs : s.Sound) (hhas : s.Has r) (hnot : ¬ s'.Has r) :
    s'.Unlisted r.box :=
  hs.unlisted_of_not_has hhas
    (fun _ _ => h.registered hs (hs.engine.registered_lt hhas)) hnot

/-- A datagram that is heard ends the registration exactly if the mailbox refuses it. -/
theorem refuses_eq (h : Does s deed s') (hs : s.Sound) (hhas : s.Has r) {letter : Letter}
    (hheard : r.heard? (s, deed) = some letter) :
    s.engine.refuses r.box = true ∧ ¬ s'.Has r ∨ s.engine.refuses r.box = false ∧ s'.Has r := by
  obtain ⟨socket, code, data, htask, hcode, -⟩ := Registration.heard?_eq_some hheard
  obtain rfl : deed = .task (.received socket (.hub r.hub) code r.address data) := htask
  rcases (h.handled hs).1.offered socket r.hub code r.address data r.box rfl hcode hhas with
    ⟨hrefuses, hnone⟩ | ⟨htakes, hgoes⟩
  · refine .inl ⟨hrefuses, fun hhas' => ?_⟩
    rw [Has, hnone] at hhas'
    cases hhas'
  · exact .inr ⟨htakes, hgoes⟩

/-- **What a deed does to the inbox of a registration.** -/
theorem letters (h : Does s deed s') (hs : s.Sound) (hhas : s.Has r) :
    (r.handed? (s, deed)).toList ++ s'.engine.inbox r.box = s.engine.inbox r.box ++
      (if s.engine.refuses r.box then none else r.heard? (s, deed)).toList := by
  rcases h.handled_or_moves hs with ⟨due, rfl, hhandled, -⟩ | ⟨htask, hmoves⟩
  · rw [← hs.offer?_eq_heard? hhas]
    exact hhandled.inbox r.box
  · have hnone : r.handed? (s, deed) = none ∧ r.heard? (s, deed) = none := by
      cases deed with
      | task due => exact absurd rfl (htask due)
      | _ => exact ⟨rfl, rfl⟩
    simp [hnone, hmoves.still.inbox]

/-- **A registration that goes on takes what it hears.** -/
theorem letters_of_has (h : Does s deed s') (hs : s.Sound) (hhas : s.Has r) (hhas' : s'.Has r) :
    (r.handed? (s, deed)).toList ++ s'.engine.inbox r.box
      = s.engine.inbox r.box ++ (r.heard? (s, deed)).toList := by
  have hletters := h.letters hs hhas
  cases hheard : r.heard? (s, deed) with
  | none => simpa [hheard] using hletters
  | some letter =>
    rcases h.refuses_eq hs hhas hheard with ⟨-, hnot⟩ | ⟨htakes, -⟩
    · exact absurd hhas' hnot
    · simpa [hheard, htakes] using hletters

/-- **A deed that ends a registration puts nothing into its inbox.** -/
theorem letters_of_ended (h : Does s deed s') (hs : s.Sound) (hhas : s.Has r) (hnot : ¬ s'.Has r) :
    (r.handed? (s, deed)).toList ++ s'.engine.inbox r.box = s.engine.inbox r.box := by
  have hletters := h.letters hs hhas
  cases hheard : r.heard? (s, deed) with
  | none => simpa [hheard] using hletters
  | some letter =>
    rcases h.refuses_eq hs hhas hheard with ⟨hrefuses, -⟩ | ⟨-, hhas'⟩
    · simpa [hrefuses] using hletters
    · exact absurd hhas' hnot

/-- **A mailbox that no hub lists gets nothing.** -/
theorem letters_of_unlisted (h : Does s deed s') (hs : s.Sound) (hno : s.Unlisted r.box) :
    (r.handed? (s, deed)).toList ++ s'.engine.inbox r.box = s.engine.inbox r.box := by
  rcases h.handled_or_moves hs with ⟨due, rfl, hhandled, -⟩ | ⟨htask, hmoves⟩
  · have hinbox := hhandled.inbox r.box
    rw [Engine.taken?, offer?_of_unlisted hno, ite_self, Option.toList_none, List.append_nil]
      at hinbox
    exact hinbox
  · have hnone : r.handed? (s, deed) = none := by
      cases deed with
      | task due => exact absurd rfl (htask due)
      | _ => rfl
    simp [hnone, hmoves.still.inbox]

end Does

/-! ## 5. Endings -/

/-- What may end a registration of a hub among the steps. -/
theorem Ends.of_step {step : Step} (hmay : step.may s r.hub r.address) : Ends s r (.step step) := by
  cases step with
  | openSocket name settings => exact .closed rfl hmay
  | openHub name settings => exact .closed rfl hmay
  | create name destination settings => exact .closed rfl hmay
  | drop name => exact .closed rfl hmay
  | close name => exact .closed rfl hmay
  | register name via destination =>
    rcases hmay with hname | ⟨hvia, rfl⟩
    · exact .closed rfl hname
    · exact .replaced hvia
  | _ => exact hmay.elim

/-- **A registration ends in these ways only.** -/
theorem Does.ends (h : Does s deed s') (hs : s.Sound) (hhas : s.Has r) (hnot : ¬ s'.Has r) :
    Ends s r deed := by
  have hmay : deed.may s r.hub r.address := by
    by_contra hno
    exact hnot ((h.frame hs hno).trans hhas)
  cases deed with
  | step step => exact .of_step hmay
  | openService config =>
    -- the hubs of the service are new
    obtain ⟨hub, hh, -⟩ := Option.bind_eq_some_iff.1 hhas
    exact absurd (Array.getElem?_eq_some_iff.1 hh).1 (Nat.not_lt.2 hmay)
  | task due =>
    have hproper : s.engine.Proper due := by
      cases h with
      | task hready => exact hs.engine.wired.tasks due (by rw [hready]; simp)
    change due.may r.hub r.address at hmay
    unfold Task.may at hmay
    split at hmay
    · next socket id code source data =>
      obtain ⟨rfl, haddress⟩ := hmay
      cases hcode : code.isError with
      | true => exact .failed hcode
      | false =>
        obtain rfl := haddress hcode
        have hheard : r.heard? (s, .task (.received socket (.hub r.hub) code r.address data))
            = some { time := s.engine.now, packet := data } := by
          simp [Registration.heard?, hcode]
        rcases h.refuses_eq hs hhas hheard with ⟨hrefuses, -⟩ | ⟨-, hhas'⟩
        · exact .refused hcode (Engine.full_or_orphan hs.mailed hs.attended hhas
            (hs.engine.registered_lt hhas) hrefuses)
        · exact absurd hhas' hnot
    · next id code =>
      obtain rfl := hmay
      exact .deaf hproper.1
    · exact hmay.elim
  | _ => exact hmay.elim

/-! ## 6. Runs -/

namespace Run

/-- What is not listed stays so along a run, and what its inbox loses is handed out. -/
theorem unlisted (h : Run s past s') (hs : s.Sound) (hb : r.box < s.engine.mailboxes.size)
    (hno : s.Unlisted r.box) :
    (∀ entry ∈ past, entry.1.Unlisted r.box) ∧ s'.Unlisted r.box ∧
      s.engine.inbox r.box = past.filterMap r.handed? ++ s'.engine.inbox r.box := by
  induction h with
  | nil s => exact ⟨by simp, hno, by simp⟩
  | cons head rest ih =>
    obtain ⟨hpast, hlast, hletters⟩ := ih (head.leads hs).sound
      (Nat.lt_of_lt_of_le hb (head.boxes hs)) (head.unlisted hs hb hno)
    refine ⟨fun entry hentry => ?_, hlast, ?_⟩
    · rcases List.mem_cons.1 hentry with rfl | hentry
      · exact hno
      · exact hpast entry hentry
    · rw [filterMap_cons_toList, List.append_assoc, ← hletters]
      exact (head.letters_of_unlisted hs hno).symm

/-- **What becomes of a registration along a run.** -/
theorem story (h : Run s past s') (hs : s.Sound) (hhas : s.Has r) :
    r.Story (s.engine.inbox r.box) past s' := by
  induction h with
  | nil s => exact .lasts (by simp) hhas (by simp)
  | @cons s t s' deed past head rest ih =>
    have ht := (head.leads hs).sound
    by_cases hhas' : t.Has r
    · exact (ih ht hhas').cons hhas (head.letters_of_has hs hhas hhas')
    · have hb := Nat.lt_of_lt_of_le (hs.engine.registered_lt hhas) (head.boxes hs)
      obtain ⟨hpast, hlast, hletters⟩ :=
        rest.unlisted ht hb (head.unlisted_of_ended hs hhas hhas')
      show r.Story _ ([] ++ (s, deed) :: past) s'
      refine .ended (by simp) hhas (head.ends hs hhas hhas') hpast hlast ?_
      rw [List.nil_append, filterMap_cons_toList, List.append_assoc, ← hletters]
      simpa using (head.letters_of_ended hs hhas hhas').symm

end Run

/-! ## 7. Beginnings -/

@[simp] theorem handle?_drop (s : Session) (name : String) : (s.drop name).handle? name = none := by
  unfold Session.drop
  split
  · assumption
  · simpa [handle?, List.lookup_eq_none_iff] using fun _ _ _ hne => Ne.symm hne

theorem handle?_hold (s : Session) (name : String) (e : Engine) (handle : Handle) :
    (s.hold name (e, .ok handle)).1.handle? name = some handle := by
  have hnone := handle?_drop { s with engine := e } name
  rw [handle?] at hnone
  simp [Session.hold, handle?, List.lookup_append, hnone]

/-- **A pinger is registered** with a hub whose socket works.  Its mailbox is a new one. -/
theorem Sound.registers (hs : s.Sound) {name via : String} {destination : Address}
    (hvia : s.handle? via = some (.hub id)) (hh : s.engine.hubs[id]? = some hub)
    (hworks : (s.engine.fatalOf hub.socket).isError = false)
    (hname : s.handle? name ≠ some (.hub id))
    (hok : (s.perform (.register name via destination)).2 = none) :
    let next := (s.perform (.register name via destination)).1
    next.Has ⟨id, destination, s.engine.mailboxes.size⟩ ∧
      ∃ pinger, next.handle? name = some (.pinger pinger) ∧
        next.engine.Fits (.pinger pinger) (.box s.engine.mailboxes.size) := by
  have hregister : s.register via destination = s.engine.register id destination := by
    simp [Session.register, hvia]
  have hmoved := (Moved.register hs.engine id destination).1
  have hbox : ∀ pinger, (s.engine.register id destination).2 = .ok pinger → _ := fun _ =>
    Engine.registered?_register hs.engine hh hworks
  simp only [Session.perform, hregister] at hok ⊢
  rcases hmade : s.engine.register id destination with ⟨e, failure | pinger⟩
  · rw [hmade] at hok
    cases hok
  · rw [hmade] at hmoved hbox
    obtain ⟨hlisted, hreads⟩ := hbox pinger rfl
    -- the name's old object is dropped last, and is not the hub
    have hdrops := (hs.moved hmoved).drop name
    refine ⟨?_, pinger, handle?_hold s name e (.pinger pinger), hdrops.onward.fits _ _ hreads⟩
    exact (hdrops.still.frame id destination hname).trans hlisted

/-- A mailbox that a deed makes has nothing in its inbox. -/
theorem Does.inbox_of_new (h : Does s deed s') (hs : s.Sound) (hb : s.engine.mailboxes.size ≤ box) :
    s'.engine.inbox box = [] := by
  have hempty := hs.engine.inbox_eq_nil hb
  rcases h.handled_or_moves hs with ⟨due, rfl, hhandled, -⟩ | ⟨-, hmoves⟩
  · have hno : s.Unlisted box := fun id address hr =>
      Nat.not_lt.2 hb (hs.engine.registered_lt hr)
    have hinbox := hhandled.inbox box
    rw [Engine.taken?, offer?_of_unlisted hno, ite_self, hempty] at hinbox
    exact (List.append_eq_nil_iff.1 hinbox).2
  · rw [hmoves.still.inbox, hempty]

/-- Along a run everything happens to a session in which the invariant holds. -/
theorem Run.of_mem (h : Run s past s') (hs : s.Sound) :
    ∀ entry ∈ past, entry.1.Sound ∧ ∃ next, Does entry.1 entry.2 next := by
  induction h with
  | nil s => simp
  | cons head rest ih =>
    intro entry hentry
    rcases List.mem_cons.1 hentry with rfl | hentry
    · exact ⟨hs, _, head⟩
    · exact ih (head.leads hs).sound entry hentry

/-- **What is heard came in**, from that address, and is cut to the room of the hub. -/
theorem Does.came (h : Does s deed s') (hs : s.Sound) {letter : Letter}
    (hheard : r.heard? (s, deed) = some letter) :
    letter.time = s.engine.now ∧ s.engine.Came r.address letter.packet := by
  obtain ⟨socket, code, data, htask, hcode, rfl⟩ := Registration.heard?_eq_some hheard
  obtain rfl : deed = .task (.received socket (.hub r.hub) code r.address data) := htask
  have hhonest : s.engine.Honest (.received socket (.hub r.hub) code r.address data) := by
    cases h with
    | task hready => exact hs.mailed.tasks _ (by rw [hready]; simp)
  exact ⟨rfl, hhonest hcode⟩

/-! ## 8. All runs -/

/-- **Every registration hands out what it hears.**

Whoever registers with a hub that works has a registration then, with a mailbox of its own.  From
the deed that makes a registration on, whatever happens: what it has handed out, followed by its
inbox, is what it has heard, and it ends in the known ways only, for good.  What it hears came in
from its address, and has the time at which it was handled.  A datagram from elsewhere leaves it
alone, and so does a pinger with another mailbox that goes. -/
theorem registration_delivers (hr : Reachable s) (hd : Does s deed s') :
    (∀ name via destination id hub, deed = .step (.register name via destination) →
      s.handle? via = some (.hub id) → s.engine.hubs[id]? = some hub →
      (s.engine.fatalOf hub.socket).isError = false → s.handle? name ≠ some (.hub id) →
      (s.perform (.register name via destination)).2 = none →
      s'.Has ⟨id, destination, s.engine.mailboxes.size⟩ ∧
        ∃ pinger, s'.handle? name = some (.pinger pinger) ∧
          s'.engine.Fits (.pinger pinger) (.box s.engine.mailboxes.size)) ∧
    (∀ r : Registration, s'.Has r → s.engine.mailboxes.size ≤ r.box →
      ∀ past t, Run s' past t → r.Story [] past t ∧
        ∀ entry ∈ past, ∀ letter, r.heard? entry = some letter →
          letter.time = entry.1.engine.now ∧ entry.1.engine.Came r.address letter.packet) ∧
    (∀ front back socket id code source data,
      s'.engine.ready = front ++ .received socket (.hub id) code source data :: back →
      code.isError = false → IcmpEcho.Elsewhere id source s'.engine
        ({ s'.engine with ready := front ++ back }.perform
          (.received socket (.hub id) code source data))) ∧
    (∀ other pinger, s'.engine.pingers[other]? = some pinger →
      (∀ id address, (s'.engine.removePinger other).registered? id address
        = s'.engine.registered? id address) ∧
      ∀ box, pinger.mailbox ≠ some box →
        (s'.engine.removePinger other).mailboxes[box]? = s'.engine.mailboxes[box]?) := by
  have hs := hr.sound
  have hs' := (hd.leads hs).sound
  refine ⟨?_, fun r hhas hnew past t hrun => ⟨?_, fun entry hentry letter hheard => ?_⟩,
    fun front back socket id code source data hready hcode =>
      hs'.engine.elsewhere hs'.mailed hready hcode,
    fun other pinger hp => Engine.removePinger_elsewhere hp⟩
  · rintro name via destination id hub rfl hvia hh hworks hname hok
    cases hd with
    | step step hrun => exact hs.registers hvia hh hworks hname hok
  · rw [← hd.inbox_of_new hs hnew]
    exact hrun.story hs' hhas
  · obtain ⟨hsound, next, hdoes⟩ := hrun.of_mem hs' entry hentry
    exact hdoes.came hsound hheard

/-- A datagram from the address of a registration is in its inbox when it was handled. -/
theorem registration_delivers_of_one_datagram :
    let address : Address := .ofOctets 10 0 0 1
    let opened := ((fresh {} 1 none [] []).perform (.openHub "hub" { family := .v4 })).1
    let registered := (opened.perform (.register "pinger" "hub" address)).1
    let delivered := (registered.perform (.deliver address [1, 2, 3] 1 none)).1
    let task : Task := .received 0 (.hub 0) .success address [1, 2, 3]
    let handled : Session := { delivered with
      engine := ({ delivered.engine with ready := [] }.perform task).sweep }
    let r : Registration := ⟨0, address, 0⟩
    registered.Has r ∧
      r.Story [] [(registered, .step (.deliver address [1, 2, 3] 1 none)), (delivered, .task task)]
        handled ∧
      handled.engine.inbox 0 = [{ time := 0, packet := [1, 2, 3] }] := by
  intro address opened registered delivered task handled r
  have hr : Reachable opened := (Reachable.fresh _ _ _ _ _).perform _
  have hd : Does opened (.step (.register "pinger" "hub" address)) registered :=
    .step _ (by simp)
  have hready : delivered.engine.ready = [task] := by rfl
  have hrun : Run registered
      [(registered, .step (.deliver address [1, 2, 3] 1 none)), (delivered, .task task)] handled :=
    .cons (.step _ (by simp)) (.one (@Does.task delivered [] [] task hready))
  have hlaw := registration_delivers hr hd
  have hhas : registered.Has r :=
    (hlaw.1 "pinger" "hub" address 0 { socket := 0 } rfl (by rfl) (by rfl) (by rfl)
      (by decide +kernel) (by rfl)).1
  exact ⟨hhas, (hlaw.2.1 r hhas (by decide) _ _ hrun).1, by decide +kernel⟩

end Session

end IcmpEcho
