/-
# Hubs: one socket shared by pingers

A hub reads every datagram that its socket receives, one receive at a time, and offers it to the
mailbox registered for its source address.  A mailbox that refuses an offer, full or abandoned,
loses its registration.  The receive loop starts with the first registration and stops when a
refused offer leaves none; the next registration starts it again.  Entering an address or taking it
away changes the mailbox of that address alone (`lookup_enter_of_ne`, `lookup_leave_of_ne`).

When the socket is closed or fails, every registered mailbox is closed with the reason.
-/
import IcmpEcho.Engine.Pinging

namespace IcmpEcho

/-! ## 1. The registry -/

namespace Hub

/-- The mailbox registered for an address. -/
def mailbox? (hub : Hub) (address : Address) : Option MailboxId := hub.registry.lookup address

/-- The registry with this mailbox for this address, in the order of addresses. -/
def enter (address : Address) (box : MailboxId) :
    List (Address × MailboxId) → List (Address × MailboxId)
  | [] => [(address, box)]
  | head :: rest =>
    if head.1 = address then (address, box) :: rest
    else if address.before head.1 then (address, box) :: head :: rest
    else head :: enter address box rest

/-- The registry without an address. -/
def leave (address : Address) (registry : List (Address × MailboxId)) :
    List (Address × MailboxId) :=
  registry.filter fun entry => entry.1 ≠ address

/-- **The address that is entered has the new mailbox.** -/
theorem lookup_enter_self (address : Address) (box : MailboxId) :
    ∀ registry : List (Address × MailboxId),
      (enter address box registry).lookup address = some box
  | [] => by simp [enter]
  | head :: rest => by
    simp only [enter]
    split
    · simp
    · next hne =>
      split
      · simp
      · have hb : (address == head.1) = false := by simpa using fun h => hne h.symm
        rw [List.lookup_cons, hb]
        exact lookup_enter_self address box rest

/-- **Every other address keeps its mailbox.** -/
theorem lookup_enter_of_ne {address other : Address} (h : other ≠ address) (box : MailboxId) :
    ∀ registry : List (Address × MailboxId),
      (enter address box registry).lookup other = registry.lookup other
  | [] => by
    have hb : (other == address) = false := by simpa using h
    simp [enter, List.lookup_cons, hb]
  | head :: rest => by
    have hb : (other == address) = false := by simpa using h
    simp only [enter]
    split
    · next heq =>
      obtain ⟨a, b⟩ := head
      obtain rfl : a = address := heq
      simp only [List.lookup_cons, hb]
    · split
      · rw [List.lookup_cons, hb]
      · rw [List.lookup_cons, List.lookup_cons, lookup_enter_of_ne h box rest]

/-- **The address that leaves has no mailbox.** -/
theorem lookup_leave_self (address : Address) :
    ∀ registry : List (Address × MailboxId), (leave address registry).lookup address = none
  | [] => rfl
  | (a, box) :: rest => by
    have ih := lookup_leave_self address rest
    by_cases h : a = address
    · simpa [leave, h] using ih
    · have hb : (address == a) = false := by simpa using fun e => h e.symm
      simpa [leave, h, List.lookup_cons, hb] using ih

/-- **When an address leaves, every other one keeps its mailbox.** -/
theorem lookup_leave_of_ne {address other : Address} (h : other ≠ address) :
    ∀ registry : List (Address × MailboxId),
      (leave address registry).lookup other = registry.lookup other
  | [] => rfl
  | (a, box) :: rest => by
    have ih := lookup_leave_of_ne h rest
    by_cases ha : a = address
    · have hb : (other == a) = false := by simpa [ha] using h
      rw [leave, List.filter_cons_of_neg (by simpa using ha), List.lookup_cons, hb]
      exact ih
    · rw [leave, List.filter_cons_of_pos (by simpa using ha), List.lookup_cons, List.lookup_cons]
      split
      · rfl
      · exact ih

end Hub

namespace Engine

/-- Changes one hub. -/
def updateHub (engine : Engine) (hub : HubId) (change : Hub → Hub) : Engine :=
  { engine with hubs := engine.hubs.modify hub change }

/-- Makes a hub with a socket of its own. -/
def openHub (engine : Engine) (settings : SocketSettings) : Engine × Except Failure HubId :=
  match engine.openSocket settings with
  | (engine, .error failure) => (engine, .error failure)
  | (engine, .ok socket) =>
    ({ engine with hubs := engine.hubs.push { socket } }, .ok engine.hubs.size)

/-! ## 2. The receive loop -/

/-- Starts the next receive of a hub. -/
def receiveForHub (engine : Engine) (id : HubId) (hub : Hub) : Engine :=
  engine.receive hub.socket (.hub id) Pinger.room

/-- Ends every registration and closes its mailbox with a reason. -/
def closeRegistrations (engine : Engine) (id : HubId) (hub : Hub) (reason : ErrorCode) : Engine :=
  hub.registry.foldl (fun engine entry => engine.closeMail entry.2 reason)
    (engine.updateHub id fun hub => { hub with registry := [] })

/-- Starts the receive loop of a hub that has registrations, unless it runs.  On a failed socket
every registration ends instead. -/
def startHub (engine : Engine) (id : HubId) : Engine :=
  match engine.hubs[id]? with
  | none => engine
  | some hub =>
    let fatal := engine.fatalOf hub.socket
    if fatal.isError then engine.closeRegistrations id hub fatal
    else if hub.running || hub.registry.isEmpty then engine
    else
      ((engine.updateHub id fun hub => { hub with running := true }).logDated .all
        "reply dispatcher started").receiveForHub id hub

/-- The receive of a hub failed: the loop stops and every registration ends. -/
def failHub (engine : Engine) (id : HubId) (hub : Hub) (code : ErrorCode) : Engine :=
  let engine :=
    (engine.updateHub id fun hub => { hub with running := false }).closeRegistrations id hub code
  if code = .aborted then engine
  else engine.logDated .error ("reply dispatcher stopped: " ++ code.message)

/-- A mailbox refused what came for it: its registration ends, and with the last one the loop. -/
def endRegistration (engine : Engine) (id : HubId) (hub : Hub) (source : Address)
    (box : MailboxId) : Engine :=
  let left := Hub.leave source hub.registry
  let engine :=
    (engine.closeMail box PingFault.registrationClosed.code).updateHub id fun hub =>
      { hub with registry := left, running := !left.isEmpty }
  let engine := engine.logAbout source .info "delivery failed, registration removed"
  if left.isEmpty then
    engine.logDated .all "reply dispatcher stopped: no registrations left"
  else engine.receiveForHub id hub

/-- The receive of a hub ended. -/
def hubReceived (engine : Engine) (id : HubId) (code : ErrorCode) (source : Address)
    (data : Bytes) : Engine :=
  match engine.hubs[id]? with
  | none => engine
  | some hub =>
    if code.isError then engine.failHub id hub code
    else
      match hub.mailbox? source with
      | none => engine.receiveForHub id hub
      | some box =>
        match engine.offerMail box { time := engine.now, packet := data } with
        | (engine, true) => engine.receiveForHub id hub
        | (engine, false) => engine.endRegistration id hub source box

/-! ## 3. Registering and closing -/

/-- Enters a fresh mailbox for a destination; an earlier one is closed. -/
def enterRegistration (engine : Engine) (id : HubId) (hub : Hub) (destination : Address)
    (box : MailboxId) : Engine :=
  let engine :=
    engine.updateHub id fun hub => { hub with registry := Hub.enter destination box hub.registry }
  match hub.mailbox? destination with
  | none => engine
  | some replaced =>
    (engine.closeMail replaced PingFault.registrationClosed.code).logAbout destination .warn
      "registration replaced by a new pinger"

/-- Makes a pinger for a destination that is registered with a hub. -/
def register (engine : Engine) (id : HubId) (destination : Address) :
    Engine × Except Failure PingerId :=
  match engine.hubs[id]? with
  | none => (engine, .error (.system .invalidArgument ""))
  | some hub =>
    match engine.sockets[hub.socket]? with
    | none => (engine, .error (.system .invalidArgument ""))
    | some socket =>
      if destination.family ≠ socket.family then
        (engine, .error (.system .familyNotSupported destination.toText))
      else
        let (engine, box) := engine.addMailbox 100
        let engine := (engine.enterRegistration id hub destination box).startHub id
        let (engine, pinger) := engine.addPinger destination hub.socket (some box)
        (engine, .ok pinger)

/-- Closes a hub for good. -/
def closeHub (engine : Engine) (id : HubId) : Engine :=
  match engine.hubs[id]? with
  | none => engine
  | some hub => (engine.closeRegistrations id hub .aborted).closeSocket hub.socket

end Engine

end IcmpEcho
