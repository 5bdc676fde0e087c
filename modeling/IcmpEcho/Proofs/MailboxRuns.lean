/-
# A mailbox in use

A mailbox is offered messages, asked for them and closed, in any order; a receiver asks only when
no other one waits.  `Mailbox.turn` is one use of it, with what receivers are told by it: a message,
or the reason why there is none.  In an engine they are told by a ready task each
(`Engine.tend_eq`).

**Nothing is lost on the way** (`Run.keeps_its_word`).  What receivers were told and what is still
queued are, in order, the messages that were accepted; and the receivers that were told, with the
one that waits, are those that asked.  One use keeps both (`Spends`), so a whole run does.  A
receiver waits only at an open mailbox whose queue is empty, which is why a message that is handed
over overtakes none (`Kept`).
-/
import IcmpEcho.Engine.Mail

namespace IcmpEcho

namespace Mailbox

variable {μ ρ : Type}

/-! ## 1. One use of a mailbox -/

/-- What is done with a mailbox. -/
inductive Use (μ ρ : Type)
  | offer (message : μ)
  | ask (receiver : ρ)
  | close (reason : ErrorCode)

/-- The message of an offer that is accepted. -/
def accepts (box : Mailbox μ ρ) : Use μ ρ → List μ
  | .offer message => if (box.offer message).2.accepted then [message] else []
  | _ => []

/-- The receiver that asks. -/
def Use.asker? : Use μ ρ → Option ρ
  | .ask receiver => some receiver
  | _ => none

/-- The reason for closing. -/
def Use.reason? : Use μ ρ → Option ErrorCode
  | .close reason => some reason
  | _ => none

/-- A receiver asks only when none waits, and the reason for closing is an error. -/
def Allows (box : Mailbox μ ρ) : Use μ ρ → Prop
  | .offer _ => True
  | .ask _ => box.receiver = none
  | .close reason => reason.isError

/-- The mailbox after a use, and what receivers are told by it. -/
def turn (box : Mailbox μ ρ) : Use μ ρ → Mailbox μ ρ × List (ρ × Except ErrorCode μ)
  | .offer message =>
    match box.offer message with
    | (box, .handed receiver) => (box, [(receiver, .ok message)])
    | (box, _) => (box, [])
  | .ask receiver =>
    match box.receive receiver with
    | (box, .message message) => (box, [(receiver, .ok message)])
    | (box, .closed reason) => (box, [(receiver, .error reason)])
    | (box, .waits) => (box, [])
  | .close reason =>
    match box.close reason with
    | (box, some receiver) => (box, [(receiver, .error reason)])
    | (box, none) => (box, [])

/-- The messages among what receivers are told. -/
def messages (told : List (ρ × Except ErrorCode μ)) : List μ :=
  told.filterMap fun answer => answer.2.toOption

/-! ## 2. What one use keeps -/

/-- No more is queued than there is room for, and a receiver waits only while nothing is queued and
the mailbox is open. -/
structure Kept (capacity : Nat) (box : Mailbox μ ρ) : Prop where
  holds : box.capacity = capacity
  room : box.queue.length ≤ capacity
  waits : ∀ receiver, box.receiver = some receiver → box.queue = [] ∧ box.isClosed = false

/-- What is accepted and asked for is told, or still there. -/
structure Spends (box : Mailbox μ ρ) (accepted : List μ) (askers : List ρ)
    (reasons : List ErrorCode) (told : List (ρ × Except ErrorCode μ)) (box' : Mailbox μ ρ) :
    Prop where
  messages : box.queue ++ accepted = messages told ++ box'.queue
  receivers : box.receiver.toList ++ askers = told.map Prod.fst ++ box'.receiver.toList
  /-- The first reason is kept. -/
  reason : (if box.isClosed then some box.reason else reasons.head?)
    = if box'.isClosed then some box'.reason else none

theorem Kept.fresh (capacity : Nat) : Kept capacity ({ capacity } : Mailbox μ ρ) :=
  ⟨rfl, Nat.zero_le _, fun _ h => nomatch h⟩

theorem Spends.refl (box : Mailbox μ ρ) : Spends box [] [] [] [] box :=
  ⟨List.append_nil _, List.append_nil _, rfl⟩

variable {box box' box'' : Mailbox μ ρ} {capacity : Nat}

theorem Spends.trans {accepted accepted' : List μ} {askers askers' : List ρ}
    {reasons reasons' : List ErrorCode} {told told' : List (ρ × Except ErrorCode μ)}
    (h : Spends box accepted askers reasons told box')
    (h' : Spends box' accepted' askers' reasons' told' box'') :
    Spends box (accepted ++ accepted') (askers ++ askers') (reasons ++ reasons') (told ++ told')
      box'' where
  messages := by
    calc box.queue ++ (accepted ++ accepted')
        = Mailbox.messages told ++ (box'.queue ++ accepted') := by
          rw [← List.append_assoc, h.messages, List.append_assoc]
      _ = Mailbox.messages (told ++ told') ++ box''.queue := by
          rw [h'.messages, Mailbox.messages, Mailbox.messages, Mailbox.messages,
            List.filterMap_append, List.append_assoc]
  receivers := by
    rw [← List.append_assoc, h.receivers, List.append_assoc, h'.receivers, List.map_append,
      List.append_assoc]
  reason := by
    have hfirst := h.reason
    have hrest := h'.reason
    by_cases hclosed : box.isClosed
    · rw [if_pos hclosed] at hfirst ⊢
      split at hfirst
      · rw [if_pos ‹_›, ← hfirst] at hrest
        exact hrest
      · cases hfirst
    · rw [if_neg hclosed] at hfirst ⊢
      split at hfirst
      · next hclosed' =>
        rw [if_pos hclosed', ← hfirst] at hrest
        rw [List.head?_append, hfirst, Option.some_or, ← hfirst]
        exact hrest
      · next hopen' =>
        rw [if_neg hopen'] at hrest
        rw [List.head?_append, hfirst, Option.none_or]
        exact hrest

/-- **One use of a mailbox** loses nothing, and leaves it well kept. -/
theorem Kept.turn (h : Kept capacity box) (use : Use μ ρ) (allowed : box.Allows use) :
    Kept capacity (box.turn use).1 ∧
      Spends box (box.accepts use) use.asker?.toList use.reason?.toList (box.turn use).2
        (box.turn use).1 := by
  cases use with
  | offer message =>
    rcases box.offer_cases message with ⟨-, hoffer⟩ | ⟨hopen, receiver, hreceiver, hoffer⟩ |
      ⟨hopen, hnobody, hroom, hoffer⟩
    · simp only [Mailbox.turn, accepts, hoffer]
      exact ⟨h, .refl box⟩
    · obtain ⟨hempty, -⟩ := h.waits receiver hreceiver
      simp only [Mailbox.turn, accepts, hoffer]
      refine ⟨⟨h.holds, h.room, fun _ hnone => nomatch hnone⟩, ?_, ?_, ?_⟩
      · simp [hempty, messages, Offer.accepted, Except.toOption]
      · simp [hreceiver, Use.asker?]
      · have hopen' : ({ box with receiver := none } : Mailbox μ ρ).isClosed = false := hopen
        simp [hopen, hopen', Use.reason?]
    · simp only [Mailbox.turn, accepts, hoffer]
      refine ⟨⟨h.holds, ?_, fun receiver hreceiver => ?_⟩, ?_, ?_, ?_⟩
      · rw [h.holds] at hroom
        rw [List.length_append]
        exact hroom
      · cases hnobody.symm.trans hreceiver
      · simp [messages, Offer.accepted]
      · simp [Use.asker?]
      · have hopen' : isClosed { box with queue := box.queue ++ [message] } = false := hopen
        simp [hopen, hopen', Use.reason?]
  | ask receiver =>
    have hnobody : box.receiver = none := allowed
    rcases box.receive_cases receiver with ⟨message, rest, hqueue, hreceive⟩ |
      ⟨hempty, hclosed, hreceive⟩ | ⟨hempty, hopen, hreceive⟩
    · simp only [Mailbox.turn, accepts, hreceive]
      refine ⟨⟨h.holds, ?_, fun receiver hreceiver => ?_⟩, ?_, ?_, ?_⟩
      · have hroom := h.room
        rw [hqueue] at hroom
        exact Nat.le_of_succ_le hroom
      · cases hnobody.symm.trans hreceiver
      · simp [hqueue, messages, Except.toOption]
      · simp [hnobody, Use.asker?]
      · have hsame : isClosed { box with queue := rest } = box.isClosed := rfl
        simp [hsame, Use.reason?]
    · simp only [Mailbox.turn, accepts, hreceive]
      refine ⟨h, ?_, ?_, ?_⟩
      · simp [messages, Except.toOption]
      · simp [hnobody, Use.asker?]
      · simp [hclosed]
    · simp only [Mailbox.turn, accepts, hreceive]
      have hopen' : isClosed { box with receiver := some receiver } = false := hopen
      refine ⟨⟨h.holds, h.room, fun _ _ => ⟨hempty, hopen'⟩⟩, ?_, ?_, ?_⟩
      · simp [messages]
      · simp [hnobody, Use.asker?]
      · simp [hopen, hopen', Use.reason?]
  | close reason =>
    have herror : reason.isError = true := allowed
    rcases box.close_cases reason with ⟨hclosed, hclose⟩ | ⟨hopen, hclose⟩
    · simp only [Mailbox.turn, accepts, hclose]
      refine ⟨h, List.append_nil _, List.append_nil _, ?_⟩
      simp [hclosed]
    · have hclosed' : ({ box with reason, receiver := none } : Mailbox μ ρ).isClosed = true :=
        herror
      simp only [Mailbox.turn, accepts, hclose]
      cases hreceiver : box.receiver with
      | none =>
        refine ⟨⟨h.holds, h.room, fun _ hnone => nomatch hnone⟩, ?_, ?_, ?_⟩
        · simp [messages]
        · simp [hreceiver, Use.asker?]
        · simp [hopen, hclosed', Use.reason?]
      | some receiver =>
        refine ⟨⟨h.holds, h.room, fun _ hnone => nomatch hnone⟩, ?_, ?_, ?_⟩
        · simp [messages, Except.toOption]
        · simp [hreceiver, Use.asker?]
        · simp [hopen, hclosed', Use.reason?]

/-! ## 3. Runs -/

/-- One use after another; each is listed with the mailbox that it was made of. -/
inductive Run : Mailbox μ ρ → List (Mailbox μ ρ × Use μ ρ) → Mailbox μ ρ → Prop
  | nil (box : Mailbox μ ρ) : Run box [] box
  | cons {box box' : Mailbox μ ρ} {use : Use μ ρ} {past : List (Mailbox μ ρ × Use μ ρ)}
    (allowed : box.Allows use) (rest : Run (box.turn use).1 past box') :
    Run box ((box, use) :: past) box'

/-- The messages that were accepted in a run, in order. -/
def accepted (past : List (Mailbox μ ρ × Use μ ρ)) : List μ :=
  past.flatMap fun entry => entry.1.accepts entry.2

/-- The receivers that asked, in order. -/
def askers (past : List (Mailbox μ ρ × Use μ ρ)) : List ρ :=
  past.flatMap fun entry => entry.2.asker?.toList

/-- The reasons for which the mailbox was closed, and closed again. -/
def reasons (past : List (Mailbox μ ρ × Use μ ρ)) : List ErrorCode :=
  past.flatMap fun entry => entry.2.reason?.toList

/-- What receivers were told, in order. -/
def told (past : List (Mailbox μ ρ × Use μ ρ)) : List (ρ × Except ErrorCode μ) :=
  past.flatMap fun entry => (entry.1.turn entry.2).2

variable {past : List (Mailbox μ ρ × Use μ ρ)}

/-- **A whole run** loses nothing. -/
theorem Run.kept (h : Run box past box') (hkept : Kept capacity box) :
    Kept capacity box' ∧
      Spends box (accepted past) (askers past) (reasons past) (told past) box' := by
  induction h with
  | nil => exact ⟨hkept, .refl _⟩
  | cons allowed _ ih =>
    obtain ⟨hturned, hspends⟩ := hkept.turn _ allowed
    obtain ⟨hlast, hrest⟩ := ih hturned
    exact ⟨hlast, hspends.trans hrest⟩

/-- **When an offer is refused:** the mailbox is closed, or it is full and nobody waits. -/
theorem Kept.refused_iff (h : Kept capacity box) (message : μ) :
    (box.offer message).2.accepted = false ↔
      box.isClosed ∨ box.receiver = none ∧ box.queue.length = capacity := by
  have hroom := h.room
  have hholds := h.holds
  rcases box.offer_cases message with ⟨hrefused, hoffer⟩ | ⟨hopen, receiver, hreceiver, hoffer⟩ |
    ⟨hopen, hnobody, hroom', hoffer⟩
  · rw [hoffer]
    refine ⟨fun _ => hrefused.imp_right fun ⟨hnobody, hfull⟩ => ⟨hnobody, ?_⟩, fun _ => rfl⟩
    omega
  · simp [hoffer, Offer.accepted, hopen, hreceiver]
  · simp only [hoffer, Offer.accepted, hopen]
    simp
    omega

/-- An offer that is refused changes nothing, and nobody is told anything. -/
theorem turn_of_refused {message : μ} (h : (box.offer message).2.accepted = false) :
    box.turn (.offer message) = (box, []) := by
  rcases box.offer_cases message with ⟨-, hoffer⟩ | ⟨-, receiver, -, hoffer⟩ | ⟨-, -, -, hoffer⟩
  · simp only [turn, hoffer]
  · simp [hoffer, Offer.accepted] at h
  · simp [hoffer, Offer.accepted] at h

/-- A receiver that asks a closed mailbox is told the next message, or the reason. -/
theorem told_of_closed (h : box.isClosed) (receiver : ρ) :
    (box.turn (.ask receiver)).2
      = [(receiver, box.queue.head?.elim (.error box.reason) .ok)] := by
  rcases box.receive_cases receiver with ⟨message, rest, hqueue, hreceive⟩ |
    ⟨hempty, -, hreceive⟩ | ⟨-, hopen, -⟩
  · simp [turn, hreceive, hqueue]
  · simp [turn, hreceive, hempty]
  · rw [h] at hopen
    cases hopen

/-- A receiver that waits when the mailbox is closed is told the reason. -/
theorem Kept.told_of_waiting (h : Kept capacity box) {receiver : ρ}
    (hwaits : box.receiver = some receiver) (reason : ErrorCode) :
    (box.turn (.close reason)).2 = [(receiver, .error reason)] := by
  obtain ⟨-, hopen⟩ := h.waits receiver hwaits
  rcases box.close_cases reason with ⟨hclosed, -⟩ | ⟨-, hclose⟩
  · rw [hopen] at hclosed
    cases hclosed
  · simp only [Mailbox.turn, hclose, hwaits]

end Mailbox

/-! ## 4. The mailboxes of an engine -/

open Mailbox (Use)

/-- The task by which a receiver is told. -/
def Task.ofAnswer : Reader × Except ErrorCode Letter → Task
  | (reader, .ok letter) => .mail reader .success letter
  | (reader, .error reason) => .mail reader reason {}

/-- What an engine does with one of its mailboxes. -/
def Engine.tend (e : Engine) (id : MailboxId) : Use Letter Reader → Engine
  | .offer letter => (e.offerMail id letter).1
  | .ask reader => e.askMail id reader
  | .close reason => e.closeMail id reason

variable {e : Engine} {id : MailboxId} {box : Mailbox Letter Reader}

/-- **An engine uses its mailboxes as they are used here**, and tells receivers by ready tasks. -/
theorem Engine.tend_eq (h : e.mailboxes[id]? = some box) (use : Use Letter Reader) :
    e.tend id use
      = { e.setMailbox id (box.turn use).1 with
          ready := e.ready ++ (box.turn use).2.map Task.ofAnswer } := by
  cases use with
  | offer letter =>
    simp only [tend, offerMail, h, Mailbox.turn]
    rcases box.offer_cases letter with ⟨-, hoffer⟩ | ⟨-, receiver, -, hoffer⟩ | ⟨-, -, -, hoffer⟩
    · simp [hoffer, setMailbox]
    · simp [hoffer, setMailbox, post, Task.ofAnswer]
    · simp [hoffer, setMailbox]
  | ask reader =>
    simp only [tend, askMail, h, Mailbox.turn]
    rcases box.receive_cases reader with ⟨message, rest, -, hreceive⟩ | ⟨-, -, hreceive⟩ |
      ⟨-, -, hreceive⟩
    · simp [hreceive, setMailbox, post, Task.ofAnswer]
    · simp [hreceive, setMailbox, post, Task.ofAnswer]
    · simp [hreceive, setMailbox]
  | close reason =>
    simp only [tend, closeMail, h, Mailbox.turn]
    rcases box.close_cases reason with ⟨-, hclose⟩ | ⟨-, hclose⟩
    · simp [hclose, setMailbox]
    · cases hreceiver : box.receiver with
      | none => simp [hclose, hreceiver, setMailbox]
      | some receiver => simp [hclose, hreceiver, setMailbox, post, Task.ofAnswer]

/-- An engine says whether an offer was accepted. -/
theorem Engine.offerMail_snd (h : e.mailboxes[id]? = some box) (letter : Letter) :
    (e.offerMail id letter).2 = (box.offer letter).2.accepted := by
  simp only [offerMail, h]
  rcases box.offer_cases letter with ⟨-, hoffer⟩ | ⟨-, receiver, -, hoffer⟩ | ⟨-, -, -, hoffer⟩
  · simp [hoffer, Mailbox.Offer.accepted]
  · simp [hoffer, Mailbox.Offer.accepted]
  · simp [hoffer, Mailbox.Offer.accepted]

namespace Mailbox

/-- **What can be relied on** when a mailbox has been used. -/
structure Reliable (capacity : Nat) (past : List (Mailbox Letter Reader × Use Letter Reader))
    (box : Mailbox Letter Reader) : Prop where
  /-- What readers were told and what is queued are the letters that were accepted, in order. -/
  letters : messages (told past) ++ box.queue = accepted past
  /-- A reader that asked was told once, or is the one that waits. -/
  readers : (told past).map Prod.fst ++ box.receiver.toList = askers past
  room : box.queue.length ≤ capacity
  waits : ∀ reader, box.receiver = some reader → box.queue = [] ∧ box.isClosed = false
  refused : ∀ letter, (box.offer letter).2.accepted = false ↔
    box.isClosed ∨ box.receiver = none ∧ box.queue.length = capacity
  unchanged : ∀ letter, (box.offer letter).2.accepted = false →
    box.turn (.offer letter) = (box, [])
  /-- The first reason for closing is the one that is kept. -/
  reason : (reasons past).head? = if box.isClosed then some box.reason else none
  /-- Whoever asks after the closing gets the next letter, or else that reason. -/
  afterwards : ∀ first, (reasons past).head? = some first → ∀ reader,
    (box.turn (.ask reader)).2 = [(reader, box.queue.head?.elim (.error first) .ok)]
  /-- Whoever waits at the closing is told the reason for it. -/
  waiting : ∀ reader, box.receiver = some reader → ∀ reason,
    (box.turn (.close reason)).2 = [(reader, .error reason)]
  /-- In an engine a reader is told by a ready task, and nothing else is done. -/
  engine : ∀ (e : Engine) (id : MailboxId), e.mailboxes[id]? = some box →
    (∀ use, e.tend id use = { e.setMailbox id (box.turn use).1 with
      ready := e.ready ++ (box.turn use).2.map Task.ofAnswer }) ∧
    ∀ letter, (e.offerMail id letter).2 = (box.offer letter).2.accepted

/-- **A mailbox keeps its word:** however it is offered letters, asked for them and closed, none is
lost, doubled or overtaken, and every reader is told once. -/
theorem Run.keeps_its_word {capacity : Nat} {box : Mailbox Letter Reader}
    {past : List (Mailbox Letter Reader × Use Letter Reader)} (h : Run { capacity } past box) :
    Reliable capacity past box := by
  obtain ⟨hkept, hspends⟩ := h.kept (.fresh capacity)
  have hreason : (reasons past).head? = if box.isClosed then some box.reason else none :=
    hspends.reason
  exact {
    letters := hspends.messages.symm
    readers := hspends.receivers.symm
    room := hkept.room
    waits := hkept.waits
    refused := hkept.refused_iff
    unchanged := fun _ => turn_of_refused
    reason := hreason
    afterwards := by
      intro first hfirst reader
      rw [hreason] at hfirst
      split at hfirst
      · next hclosed =>
        rw [← Option.some.inj hfirst]
        exact told_of_closed hclosed reader
      · cases hfirst
    waiting := fun _ => hkept.told_of_waiting
    engine := fun _ _ hbox => ⟨Engine.tend_eq hbox, Engine.offerMail_snd hbox⟩ }

/-- What a run of some uses lists, and the mailbox after them. -/
def trail : Mailbox μ ρ → List (Use μ ρ) → List (Mailbox μ ρ × Use μ ρ) × Mailbox μ ρ
  | box, [] => ([], box)
  | box, use :: uses =>
    let (past, last) := trail (box.turn use).1 uses
    ((box, use) :: past, last)

/-- A mailbox for one letter.  The first letter goes to the reader that waits, the second one is
queued and the third one refused; it is closed twice, and then asked twice. -/
def closedWithOneLetter :
    List (Mailbox Letter Reader × Use Letter Reader) × Mailbox Letter Reader :=
  trail { capacity := 1 }
    [.ask (.pinger 0), .offer { time := 1 }, .offer { time := 2 }, .offer { time := 3 },
      .close PingFault.registrationClosed.code, .close .aborted, .ask (.pinger 1), .ask (.pinger 2)]

/-- The letter that was queued comes before the reason, and that is the first one. -/
theorem Run.keeps_its_word_of_closed :
    told closedWithOneLetter.1
        = [(.pinger 0, .ok { time := 1 }), (.pinger 1, .ok { time := 2 }),
          (.pinger 2, .error PingFault.registrationClosed.code)] ∧
      Reliable 1 closedWithOneLetter.1 closedWithOneLetter.2 := by
  have hrun : Run { capacity := 1 } closedWithOneLetter.1 closedWithOneLetter.2 :=
    .cons rfl <| .cons trivial <| .cons trivial <| .cons trivial <| .cons rfl <| .cons rfl <|
      .cons rfl <| .cons rfl <| .nil _
  exact ⟨rfl, hrun.keeps_its_word⟩

end Mailbox

end IcmpEcho
