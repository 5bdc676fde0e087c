/-
# Mailboxes of an engine

What a mailbox hands out reaches its reader by a task.  A labelled reader only records what it
got and asks again.
-/
import IcmpEcho.Engine.Sockets

namespace IcmpEcho.Engine

/-- Makes a mailbox. -/
def addMailbox (engine : Engine) (capacity : Nat) : Engine × MailboxId :=
  ({ engine with mailboxes := engine.mailboxes.push { capacity } }, engine.mailboxes.size)

/-- Puts a mailbox in place of one. -/
def setMailbox (engine : Engine) (box : MailboxId) (value : Mailbox Letter Reader) : Engine :=
  { engine with mailboxes := engine.mailboxes.modify box fun _ => value }

/-- Offers a letter to a mailbox, and says whether it was taken. -/
def offerMail (engine : Engine) (box : MailboxId) (letter : Letter) : Engine × Bool :=
  match engine.mailboxes[box]? with
  | none => (engine, false)
  | some value =>
    let (value, offer) := value.offer letter
    let engine := engine.setMailbox box value
    match offer with
    | .handed reader => (engine.post (.mail reader .success letter), true)
    | .queued => (engine, true)
    | .refused => (engine, false)

/-- Asks a mailbox for its next letter. -/
def askMail (engine : Engine) (box : MailboxId) (reader : Reader) : Engine :=
  match engine.mailboxes[box]? with
  | none => engine
  | some value =>
    let (value, receipt) := value.receive reader
    let engine := engine.setMailbox box value
    match receipt with
    | .message letter => engine.post (.mail reader .success letter)
    | .closed reason => engine.post (.mail reader reason {})
    | .waits => engine

/-- Closes a mailbox. -/
def closeMail (engine : Engine) (box : MailboxId) (reason : ErrorCode) : Engine :=
  match engine.mailboxes[box]? with
  | none => engine
  | some value =>
    let (value, reader) := value.close reason
    let engine := engine.setMailbox box value
    match reader with
    | some reader => engine.post (.mail reader reason {})
    | none => engine

/-- A labelled reader got a letter, or learnt why it gets none; it asks `again` times more. -/
def answerReader (engine : Engine) (box : MailboxId) (label : String) (again : Nat)
    (code : ErrorCode) (letter : Letter) : Engine :=
  let engine := engine.record (.mail label code letter.time letter.packet)
  match again with
  | 0 => engine
  | again + 1 => engine.askMail box (.labelled box (label ++ "'") again)

end IcmpEcho.Engine
