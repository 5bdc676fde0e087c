/-
# Mailboxes that are closed

A mailbox that is closed stays closed for the same reason, and nobody waits at it: whoever asks it
is told the reason at once.  So a reader that gets an error gets the reason for which its mailbox is
closed (`Reasoned`), whatever happens (`Session.Does.reasons`).
-/
import IcmpEcho.Proofs.RawReceives

namespace IcmpEcho

variable {e e' e'' : Engine} {hand hand' : Hand} {box : MailboxId}

/-! ## 1. The invariant -/

/-- **The invariant of closed mailboxes.** -/
structure Reasoned (e : Engine) : Prop where
  deaf : ∀ (box : MailboxId) (value : Mailbox Letter Reader), e.mailboxes[box]? = some value →
    value.isClosed → value.receiver = none
  mail : ∀ reader code letter, .mail reader code letter ∈ e.ready → code.isError →
    ∃ box value, e.Fits reader.client (.box box) ∧ e.mailboxes[box]? = some value ∧
      value.reason = code

/-- `e'` comes from `e`, and what is closed stays so for the same reason. -/
structure Reasons (e e' : Engine) : Prop where
  keeps : Reasoned e → Reasoned e'
  closed : ∀ (box : MailboxId) (value : Mailbox Letter Reader), e.mailboxes[box]? = some value →
    value.isClosed → ∃ value', e'.mailboxes[box]? = some value' ∧ value'.reason = value.reason

namespace Reasons

theorem refl (e : Engine) : Reasons e e := ⟨fun h => h, fun _ value hvalue _ => ⟨value, hvalue, rfl⟩⟩

theorem trans (h : Reasons e e') (h' : Reasons e' e'') : Reasons e e'' where
  keeps hr := h'.keeps (h.keeps hr)
  closed box value hvalue hc := by
    obtain ⟨value', hvalue', hreason⟩ := h.closed box value hvalue hc
    have hc' : value'.isClosed := by rwa [Mailbox.isClosed, hreason]
    obtain ⟨value'', hvalue'', hreason'⟩ := h'.closed box value' hvalue' hc'
    exact ⟨value'', hvalue'', hreason'.trans hreason⟩

theorem shut (h : Reasons e e') (hs : e.Shut box) : e'.Shut box := by
  obtain ⟨value, hvalue, hc⟩ := hs
  obtain ⟨value', hvalue', hreason⟩ := h.closed box value hvalue hc
  exact ⟨value', hvalue', by rwa [Mailbox.isClosed, hreason]⟩

theorem foldl {α : Type} {f : Engine → α → Engine} (hf : ∀ e a, Reasons e (f e a)) (l : List α)
    (e : Engine) : Reasons e (l.foldl f e) :=
  List.foldlRecOn l f (refl e) fun next h a _ => h.trans (hf next a)

/-! ## 2. Mailboxes -/

/-- Mailboxes stay as they are, and new ones are open; nobody gets mail. -/
theorem of_grown
    (boxes : ∀ (box : MailboxId) (value : Mailbox Letter Reader), e.mailboxes[box]? = some value →
      e'.mailboxes[box]? = some value)
    (fresh : ∀ (box : MailboxId) (value : Mailbox Letter Reader), e'.mailboxes[box]? = some value →
      e.mailboxes[box]? = some value ∨ value.isClosed = false)
    (fits : ∀ client box, e.Fits client (.box box) → e'.Fits client (.box box))
    (ready : ∀ reader code letter, .mail reader code letter ∈ e'.ready →
      .mail reader code letter ∈ e.ready) : Reasons e e' where
  keeps hr := {
    deaf := fun box value hvalue hc => by
      rcases fresh box value hvalue with hold | hopen
      · exact hr.deaf box value hold hc
      · rw [hopen] at hc
        cases hc
    mail := fun reader code letter ht hcode => by
      obtain ⟨box, value, hfits, hvalue, hreason⟩ :=
        hr.mail reader code letter (ready reader code letter ht) hcode
      exact ⟨box, value, fits _ _ hfits, boxes box value hvalue, hreason⟩ }
  closed box value hvalue _ := ⟨value, boxes box value hvalue, rfl⟩

theorem of_same (mailboxes : e'.mailboxes = e.mailboxes)
    (fits : ∀ client box, e.Fits client (.box box) → e'.Fits client (.box box))
    (ready : ∀ reader code letter, .mail reader code letter ∈ e'.ready →
      .mail reader code letter ∈ e.ready) : Reasons e e' :=
  of_grown (fun _ _ h => by rwa [mailboxes]) (fun _ _ h => .inl (by rwa [mailboxes] at h)) fits ready

theorem of_sameMail (h : SameMail e e') (ports : SamePorts e e') : Reasons e e' :=
  of_same h.mailboxes (fun client box => (ports.fits client (.box box)).2)
    fun _ _ _ ht => mem_of_filter_eq h.ready ht rfl

theorem of_aside (h : Aside e e') : Reasons e e' :=
  of_sameMail (.of_aside h) h.receives.ports

/-- A mailbox is put in place of one. -/
theorem setMailbox {old value : Mailbox Letter Reader} (hold : e.mailboxes[box]? = some old)
    (closed : old.isClosed → value.reason = old.reason)
    (deaf : (old.isClosed → old.receiver = none) → value.isClosed → value.receiver = none) :
    Reasons e (e.setMailbox box value) := by
  have hboxes : ∀ (other : MailboxId) (before : Mailbox Letter Reader),
      e.mailboxes[other]? = some before → before.isClosed →
      ∃ after, (e.setMailbox box value).mailboxes[other]? = some after ∧
        after.reason = before.reason := by
    intro other before hbefore hc
    rw [Engine.mailboxes_setMailbox hold]
    by_cases heq : other = box
    · subst heq
      obtain rfl := Option.some.inj (hold.symm.trans hbefore)
      exact ⟨value, if_pos rfl, closed hc⟩
    · exact ⟨before, by rwa [if_neg heq], rfl⟩
  have hports : SamePorts e (e.setMailbox box value) := (SameParts.setMailbox e box value).ports
  refine ⟨fun hr => ⟨fun other after hafter hc => ?_, fun reader code letter ht hcode => ?_⟩, hboxes⟩
  · rw [Engine.mailboxes_setMailbox hold] at hafter
    split at hafter
    · obtain rfl := Option.some.inj hafter
      exact deaf (hr.deaf box old hold) hc
    · exact hr.deaf other after hafter hc
  · obtain ⟨other, before, hfits, hbefore, hreason⟩ := hr.mail reader code letter ht hcode
    have hc : before.isClosed := by rwa [Mailbox.isClosed, hreason]
    obtain ⟨after, hafter, hsame⟩ := hboxes other before hbefore hc
    exact ⟨other, after, (hports.fits _ _).2 hfits, hafter, hsame.trans hreason⟩

theorem post {task : Task} (ht : ∀ reader code letter, task ≠ .mail reader code letter) :
    Reasons e (e.post task) := by
  refine of_same rfl (fun client box => ((SameParts.post e task).ports.fits _ _).2)
    fun reader code letter hmem => ?_
  rcases List.mem_append.1 hmem with hold | hnew
  · exact hold
  · exact absurd (List.mem_singleton.1 hnew).symm (ht _ _ _)

/-- A reader gets mail: an error only if it is the reason why its mailbox is closed. -/
theorem postMail {reader : Reader} {code : ErrorCode} {letter : Letter}
    (hcode : code.isError → ∃ box value, e.Fits reader.client (.box box) ∧
      e.mailboxes[box]? = some value ∧ value.reason = code) :
    Reasons e (e.post (.mail reader code letter)) where
  keeps hr := {
    deaf := hr.deaf
    mail := fun reader' code' letter' ht herror => by
      have hports : SamePorts e (e.post (.mail reader code letter)) := (SameParts.post e _).ports
      rcases List.mem_append.1 ht with hold | hnew
      · obtain ⟨box, value, hfits, hvalue⟩ := hr.mail reader' code' letter' hold herror
        exact ⟨box, value, (hports.fits _ _).2 hfits, hvalue⟩
      · obtain ⟨rfl, rfl, rfl⟩ := Task.mail.inj (List.mem_singleton.1 hnew)
        obtain ⟨box, value, hfits, hvalue⟩ := hcode herror
        exact ⟨box, value, (hports.fits _ _).2 hfits, hvalue⟩ }
  closed box value hvalue _ := ⟨value, hvalue, rfl⟩

theorem postLetter (reader : Reader) (letter : Letter) :
    Reasons e (e.post (.mail reader .success letter)) := postMail (by simp)

/-- A mailbox is put in place of one, and whoever reads there is told why it is closed. -/
theorem refuse {old value : Mailbox Letter Reader} (hold : e.mailboxes[box]? = some old)
    (closed : old.isClosed → value.reason = old.reason)
    (deaf : (old.isClosed → old.receiver = none) → value.isClosed → value.receiver = none)
    {reader : Reader} (hf : e.Fits reader.client (.box box)) :
    Reasons e ((e.setMailbox box value).post (.mail reader value.reason {})) := by
  have hports : SamePorts e (e.setMailbox box value) := (SameParts.setMailbox e box value).ports
  refine (setMailbox hold closed deaf).trans (postMail fun _ => ⟨box, value, ?_, ?_, rfl⟩)
  · exact (hports.fits _ _).2 hf
  · rw [Engine.mailboxes_setMailbox hold, if_pos rfl]

/-- **A reader asks a mailbox.** -/
theorem askMail {reader : Reader} (hf : e.Fits reader.client (.box box)) :
    Reasons e (e.askMail box reader) := by
  unfold Engine.askMail
  split
  · exact refl e
  · next old hold =>
    rcases old.receive_cases reader with
      ⟨letter, rest, -, hrec⟩ | ⟨-, hclosed, hrec⟩ | ⟨-, hopen, hrec⟩ <;> simp only [hrec]
    · have htaken : Reasons e (e.setMailbox box { old with queue := rest }) :=
        setMailbox hold (fun _ => rfl) fun h hc => h hc
      exact htaken.trans (postLetter _ _)
    · exact refuse hold (fun _ => rfl) (fun h hc => h hc) hf
    · refine setMailbox hold (fun _ => rfl) fun _ hc => ?_
      rw [show old.isClosed = true from hc] at hopen
      cases hopen

/-- **A mailbox is closed.** -/
theorem closeMail (hw : Wired e) (box : MailboxId) (reason : ErrorCode) :
    Reasons e (e.closeMail box reason) := by
  unfold Engine.closeMail
  split
  · exact refl e
  · next old hold =>
    rcases old.close_cases reason with ⟨-, hclose⟩ | ⟨hopen, hclose⟩ <;> simp only [hclose]
    · exact setMailbox hold (fun _ => rfl) fun h hc => h hc
    · have hopened : old.isClosed → reason = old.reason := fun hc => by
        rw [hopen] at hc
        cases hc
      split
      · next reader hreader =>
        refine @refuse e box old { old with reason, receiver := none } hold hopened
          (fun _ _ => rfl) reader (hw.waits (.box box) reader.client ?_)
        rw [Engine.waiter?_box hold, hreader, Option.map_some]
      · exact setMailbox hold hopened fun _ _ => rfl

theorem offerMail (box : MailboxId) (letter : Letter) : Reasons e (e.offerMail box letter).1 := by
  unfold Engine.offerMail
  split
  · exact refl e
  · next old hold =>
    rcases old.offer_cases letter with
      ⟨-, ho⟩ | ⟨-, reader, -, ho⟩ | ⟨-, -, -, ho⟩ <;> simp only [ho]
    · exact setMailbox hold (fun _ => rfl) fun h hc => h hc
    · have htaken : Reasons e (e.setMailbox box { old with receiver := none }) :=
        setMailbox hold (fun _ => rfl) fun _ _ => rfl
      exact htaken.trans (postLetter _ _)
    · exact setMailbox hold (fun _ => rfl) fun h hc => h hc

/-! ## 3. Acts -/

/-- What is written into a socket is nothing to mailboxes. -/
theorem updateSocket (socket : SocketId) (change : RawSocket → RawSocket) :
    Reasons e (e.updateSocket socket change) :=
  of_same rfl (fun client _ h => by cases client <;> exact h) fun _ _ _ h => h

theorem receive (socket : SocketId) (client : ReceiveClient) (room : Nat) :
    Reasons e (e.receive socket client room) := by
  unfold Engine.receive
  split
  · exact refl e
  · split
    · exact post (by simp)
    · split
      · exact (updateSocket _ _).trans (post (by simp [Engine.receipt]))
      · exact updateSocket _ _

theorem endReceive (socket : SocketId) (code : ErrorCode) : Reasons e (e.endReceive socket code) := by
  unfold Engine.endReceive
  split
  · exact (updateSocket _ _).trans (post (by simp))
  · exact refl e

theorem deliverTo (source : Address) (data : Bytes) (socket : SocketId) :
    Reasons e (e.deliverTo source data socket) := by
  unfold Engine.deliverTo
  split
  · exact refl e
  · split
    · exact refl e
    · split
      · exact (updateSocket _ _).trans (post (by simp [Engine.receipt]))
      · exact updateSocket _ _

theorem deliver (source : Address) (data : Bytes) : Reasons e (e.deliver source data) := by
  have hnoted : Reasons e { e with arrivals := (source, data) :: e.arrivals } :=
    of_same rfl (fun client _ h => by cases client <;> exact h) fun _ _ _ h => h
  exact hnoted.trans (foldl (fun _ _ => deliverTo _ _ _) _ _)

theorem failReceives (family : Family) (errno : Int) (only : Option SocketId) :
    Reasons e (e.failReceives family errno only) :=
  foldl (fun e k => by
    split
    · exact refl _
    · split
      · exact endReceive _ _
      · exact refl _) _ _

/-- **An act keeps what is closed.** -/
theorem act (h : Act hand e hand' e') (hs : Sound hand e) : Reasons e e' := by
  have hports := (h.steady hs).ports
  have hsame : e'.mailboxes = e.mailboxes → (∀ reader code letter,
      .mail reader code letter ∈ e'.ready → .mail reader code letter ∈ e.ready) → Reasons e e' :=
    fun hm hr => of_same hm (fun client box => (hports.fits client (.box box)).2) hr
  cases h with
  | aside h => exact of_aside h
  | shut socket => exact updateSocket _ _
  | fail hcode hf hubs => exact updateSocket _ _
  | receive hb fits hroom => exact receive _ _ _
  | askMail hb fits => exact askMail fits
  | endReceive socket => exact endReceive _ _
  | closeMail hr hbox => exact closeMail hs.wired _ _
  | hub hh socket entries registry frame fatal hu lends => exact hsame rfl fun _ _ _ h => h
  | pinger hp hg alike hu lends => exact hsame rfl fun _ _ _ h => h
  | sent id token timer =>
    refine of_sameMail ?_ hports
    unfold Engine.refreshSent
    split
    · exact ⟨rfl, rfl, rfl, rfl, rfl⟩
    · exact ⟨rfl, rfl, rfl, rfl, rfl⟩
  | enter hu hp hg hi hfree => exact hsame rfl fun _ _ _ h => h
  | refuse hp hf =>
    refine hsame rfl fun reader code letter ht => ?_
    rcases List.mem_append.1 ht with hold | hnew
    · exact hold
    · cases List.mem_singleton.1 hnew
  | take hp hcall => exact hsame rfl fun _ _ _ h => h
  | takeAll hp hg => exact hsame rfl fun _ _ _ h => h
  | disarm id token ht =>
    refine of_sameMail ?_ hports
    unfold Engine.cancelAlarm
    split
    · exact ⟨rfl, rfl, rfl, rfl, by simp [Task.listener?]⟩
    · exact ⟨rfl, rfl, rfl, rfl, rfl⟩
  | @tell number ended ping code result hh hping hseq =>
    cases hcaller : ping.caller with
    | scripted tag again =>
      rw [hcaller] at hports
      exact of_same rfl (fun client box => (hports.fits client (.box box)).2) fun _ _ _ h => h
    | target index =>
      let told : Engine := { e with
        endings := { ping := number, time := e.now, code, result } :: e.endings }
      have htold : Reasons e told :=
        of_same rfl (fun client _ h => by cases client <;> exact h) fun _ _ _ h => h
      exact htold.trans (of_aside (.targetAnswered index code result))
  | settle hu h => exact refl e
  | unsettle client hu => exact refl e
  | rest hb hl => exact refl e
  | punctual hl hno => exact refl e

/-- **A row of acts keeps what is closed.** -/
theorem acts (h : Acts hand e hand' e') (hs : Sound hand e) : Reasons e e' := by
  induction h with
  | nil => exact refl _
  | cons head rest ih => exact (act head hs).trans (ih (head.sound hs))

/-- **An item of the timeline keeps what is closed.** -/
theorem item (hw : Wired e) {front back : List (Time × Happening)} {time : Time}
    {item : Happening} (ht : e.timeline = front ++ (time, item) :: back) :
    Reasons e ({ e with timeline := front ++ back }.happen item) := by
  have htaken : Reasons e { e with timeline := front ++ back } :=
    of_same rfl (fun client _ h => by cases client <;> exact h) fun _ _ _ h => h
  cases item with
  | ring alarm => exact htaken.trans (post (by simp))
  | ready task =>
    have hcore : task.isCore = false :=
      hw.later time task (ht ▸ List.mem_append_right _ List.mem_cons_self)
    exact htaken.trans (of_aside (.post hcore))
  | deliver source data => exact htaken.trans (deliver _ _)
  | signal number =>
    simp only [Engine.happen]
    split
    · have hcalm : Reasons { e with timeline := front ++ back }
          { e with timeline := front ++ back, awaitsSignal := false } :=
        of_same rfl (fun client _ h => by cases client <;> exact h) fun _ _ _ h => h
      exact (htaken.trans hcalm).trans (post (by simp))
    · exact htaken

/-! ## 4. Done from outside -/

theorem closeSocket (socket : SocketId) : Reasons e (e.closeSocket socket) := by
  unfold Engine.closeSocket
  split
  · exact refl e
  · next record _ =>
    have hfailed : ∀ works : Bool, Reasons e (if works then e
        else e.updateSocket socket fun record => { record with fatal := .aborted }) := by
      intro works
      cases works with
      | true => exact refl e
      | false => exact updateSocket _ _
    exact (((hfailed record.fatal.isError).trans (of_aside (.cancelLimiter _))).trans
      (endReceive _ _)).trans (updateSocket _ _)

theorem removePinger (hw : Wired e) (id : PingerId) : Reasons e (e.removePinger id) := by
  unfold Engine.removePinger
  split
  · exact refl e
  · next pinger hp =>
    have hports : SamePorts e (e.updatePinger id fun pinger => { pinger with gone := true }) :=
      .updatePinger hp rfl
    have hgone : Reasons e (e.updatePinger id fun pinger => { pinger with gone := true }) :=
      of_same rfl (fun client box => (hports.fits client (.box box)).2) fun _ _ _ h => h
    have hleft : Wired (e.updatePinger id fun pinger => { pinger with gone := true }) :=
      hw.of_ports hports (fun port client hc => hw.waits port client hc) hw.tasks hw.later
    dsimp only
    split
    · exact hgone.trans (closeMail hleft _ _)
    · exact hgone.trans (closeSocket _)

theorem withReleased (released : List PingerId) : Reasons e { e with released } :=
  of_same rfl (fun client _ h => by cases client <;> exact h) fun _ _ _ h => h

theorem sweep (hw : Wired e) : Reasons e e.sweep := by
  -- removing a pinger keeps ports where they are
  have hremove : ∀ (ids : List PingerId) {e : Engine}, Wired e →
      Reasons e (ids.foldl Engine.removePinger e) := by
    intro ids
    induction ids with
    | nil => exact fun _ => refl _
    | cons id ids ih =>
      intro e hw
      exact (removePinger hw id).trans (ih (Heeds.removePinger hw id).wired)
  exact (withReleased _).trans (hremove _ { hw with })

end Reasons

end IcmpEcho
