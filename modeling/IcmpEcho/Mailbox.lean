/-
# A bounded mailbox

A mailbox carries messages from one side, which must never wait, to a receiver that takes them
one at a time.  An offer is refused when the mailbox is closed, or when nobody waits and the
queue is full.  What is queued is still handed out after the mailbox is closed; then a receiver
is told the reason.

A mailbox is closed by a reason that is an error, and the first such reason is kept.  An offer is
handed on, queued or refused, and when it is refused nothing changes (`offer_cases`).
-/
import IcmpEcho.ErrorCode

namespace IcmpEcho

/-- Messages on their way to a receiver. -/
structure Mailbox (μ ρ : Type) where
  capacity : Nat := 100
  queue : List μ := []
  /-- The receiver that waits for the next message. -/
  receiver : Option ρ := none
  /-- The reason why the mailbox is closed; no error while it is open. -/
  reason : ErrorCode := .success
  deriving Repr

namespace Mailbox

variable {μ ρ : Type}

/-- The mailbox takes no more messages. -/
def isClosed (box : Mailbox μ ρ) : Bool := box.reason.isError

/-- What becomes of a message that is offered. -/
inductive Offer (ρ : Type)
  | refused
  | queued
  /-- It goes to the receiver that waits. -/
  | handed (receiver : ρ)
  deriving DecidableEq, Repr

/-- The message was taken. -/
def Offer.accepted : Offer ρ → Bool
  | refused => false
  | queued => true
  | handed _ => true

/-- Offers a message. -/
def offer (box : Mailbox μ ρ) (message : μ) : Mailbox μ ρ × Offer ρ :=
  if box.isClosed then (box, .refused)
  else
    match box.receiver with
    | some receiver => ({ box with receiver := none }, .handed receiver)
    | none =>
      if box.capacity ≤ box.queue.length then (box, .refused)
      else ({ box with queue := box.queue ++ [message] }, .queued)

/-- An offer is refused, handed over or queued; only then does the mailbox change. -/
theorem offer_cases (box : Mailbox μ ρ) (message : μ) :
    (box.isClosed ∨ box.receiver = none ∧ box.capacity ≤ box.queue.length) ∧
        box.offer message = (box, .refused) ∨
      box.isClosed = false ∧ (∃ receiver, box.receiver = some receiver ∧
        box.offer message = ({ box with receiver := none }, .handed receiver)) ∨
      box.isClosed = false ∧ box.receiver = none ∧ box.queue.length < box.capacity ∧
        box.offer message = ({ box with queue := box.queue ++ [message] }, .queued) := by
  unfold offer
  split
  · next hc => exact .inl ⟨.inl hc, rfl⟩
  · next hc =>
    have hopen : box.isClosed = false := by simpa using hc
    split
    · next receiver hr => exact .inr (.inl ⟨hopen, receiver, hr, rfl⟩)
    · next hr =>
      split
      · next hfull => exact .inl ⟨.inr ⟨hr, hfull⟩, rfl⟩
      · next hroom => exact .inr (.inr ⟨hopen, hr, Nat.lt_of_not_le hroom, rfl⟩)

/-- What becomes of a receiver that asks. -/
inductive Receipt (μ : Type)
  /-- It gets this message. -/
  | message (message : μ)
  /-- The mailbox is closed and empty, for this reason. -/
  | closed (reason : ErrorCode)
  /-- It waits for the next message. -/
  | waits
  deriving DecidableEq, Repr

/-- Asks for the next message.  At most one receiver waits: a later one takes its place. -/
def receive (box : Mailbox μ ρ) (receiver : ρ) : Mailbox μ ρ × Receipt μ :=
  match box.queue with
  | message :: rest => ({ box with queue := rest }, .message message)
  | [] =>
    if box.isClosed then (box, .closed box.reason)
    else ({ box with receiver := some receiver }, .waits)

/-- A receiver gets the first message, or learns why there is none, or waits. -/
theorem receive_cases (box : Mailbox μ ρ) (receiver : ρ) :
    (∃ message rest, box.queue = message :: rest ∧
        box.receive receiver = ({ box with queue := rest }, .message message)) ∨
      box.queue = [] ∧ box.isClosed = true ∧
        box.receive receiver = (box, .closed box.reason) ∨
      box.queue = [] ∧ box.isClosed = false ∧
        box.receive receiver = ({ box with receiver := some receiver }, .waits) := by
  unfold receive
  split
  · next message rest hq => exact .inl ⟨message, rest, hq, rfl⟩
  · next hq =>
    split
    · next hc => exact .inr (.inl ⟨hq, hc, rfl⟩)
    · next hc => exact .inr (.inr ⟨hq, by simpa using hc, rfl⟩)

/-- Closes the mailbox; the receiver that waits has to be told the reason. -/
def close (box : Mailbox μ ρ) (reason : ErrorCode) : Mailbox μ ρ × Option ρ :=
  if box.isClosed then (box, none)
  else ({ box with reason, receiver := none }, box.receiver)

/-- Only the first closing changes a mailbox, and tells the receiver that waits. -/
theorem close_cases (box : Mailbox μ ρ) (reason : ErrorCode) :
    box.isClosed = true ∧ box.close reason = (box, none) ∨
      box.isClosed = false ∧
        box.close reason = ({ box with reason, receiver := none }, box.receiver) := by
  unfold close
  split
  · next hc => exact .inl ⟨hc, rfl⟩
  · next hc => exact .inr ⟨by simpa using hc, rfl⟩

end Mailbox

end IcmpEcho
