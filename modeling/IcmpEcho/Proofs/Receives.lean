/-
# What sockets and mailboxes do about receives

Each function on sockets and mailboxes starts a receive of its client (`Engine.receive`,
`Engine.askMail`) or passes one on (`Engine.endReceive`, `Engine.deliver`, `Engine.failReceives`,
`Engine.offerMail`, `Engine.closeMail`), in the sense of `Starts` and `Passes`.
-/
import IcmpEcho.Proofs.Ports

namespace IcmpEcho

namespace Engine

variable {e : Engine} {socket : SocketId} {box : MailboxId}

/-! ## 1. One socket, one mailbox -/

theorem waiter?_post (task : Task) (port : Port) : (e.post task).waiter? port = e.waiter? port := by
  cases port <;> rfl

theorem waiter?_updateSocket (change : RawSocket → RawSocket) (port : Port) :
    (e.updateSocket socket change).waiter? port
      = if port = .socket socket then
          ((e.sockets[socket]?.map change).bind RawSocket.receiver).map Prod.fst
        else e.waiter? port := by
  cases port with
  | box other => rw [if_neg (by simp)]; rfl
  | socket other =>
    simp only [waiter?, updateSocket, Array.getElem?_modify, Port.socket.injEq]
    by_cases h : socket = other
    · subst h; simp
    · simp [h, Ne.symm h]

theorem waiter?_setMailbox {old : Mailbox Letter Reader} (hold : e.mailboxes[box]? = some old)
    (value : Mailbox Letter Reader) (port : Port) :
    (e.setMailbox box value).waiter? port
      = if port = .box box then value.receiver.map Reader.client else e.waiter? port := by
  cases port with
  | socket other => rw [if_neg (by simp)]; rfl
  | box other =>
    simp only [waiter?, setMailbox, Array.getElem?_modify, Port.box.injEq]
    by_cases h : box = other
    · subst h; simp [hold]
    · simp [h, Ne.symm h]

theorem waiter?_socket {record : RawSocket} (h : e.sockets[socket]? = some record) :
    e.waiter? (.socket socket) = record.receiver.map Prod.fst := by
  simp only [waiter?, h, Option.bind_some]

theorem waiter?_box {value : Mailbox Letter Reader} (h : e.mailboxes[box]? = some value) :
    e.waiter? (.box box) = value.receiver.map Reader.client := by
  simp only [waiter?, h, Option.bind_some]

theorem fatalOf_updateSocket {change : RawSocket → RawSocket}
    (hf : ∀ record, (change record).fatal = record.fatal) (other : SocketId) :
    (e.updateSocket socket change).fatalOf other = e.fatalOf other := by
  simp only [fatalOf, updateSocket, Array.getElem?_modify]
  by_cases h : socket = other
  · subst h
    cases e.sockets[socket]? with
    | none => simp
    | some record => simp [hf]
  · simp [h]

end Engine

namespace SameParts

variable {e e' e'' : Engine}

theorem refl (e : Engine) : SameParts e e :=
  ⟨rfl, rfl, rfl, rfl, rfl, rfl, rfl, rfl, rfl, rfl, rfl, fun _ => rfl⟩

theorem trans (h : SameParts e e') (h' : SameParts e' e'') : SameParts e e'' where
  nextPing := h'.nextPing.trans h.nextPing
  pings := h'.pings.trans h.pings
  endings := h'.endings.trans h.endings
  pingers := h'.pingers.trans h.pingers
  hubs := h'.hubs.trans h.hubs
  released := h'.released.trans h.released
  targets := h'.targets.trans h.targets
  timeline := h'.timeline.trans h.timeline
  journal := h'.journal.trans h.journal
  socketCount := h'.socketCount.trans h.socketCount
  boxCount := h'.boxCount.trans h.boxCount
  fatal socket := (h'.fatal socket).trans (h.fatal socket)

theorem post (e : Engine) (task : Task) : SameParts e (e.post task) := { refl e with }

theorem updateSocket {socket : SocketId} {change : RawSocket → RawSocket}
    (hf : ∀ record, (change record).fatal = record.fatal) :
    SameParts e (e.updateSocket socket change) :=
  { refl e with
    socketCount := Array.size_modify
    fatal := Engine.fatalOf_updateSocket hf }

theorem setMailbox (e : Engine) (box : MailboxId) (value : Mailbox Letter Reader) :
    SameParts e (e.setMailbox box value) :=
  { refl e with boxCount := Array.size_modify }

theorem receive (socket : SocketId) (client : ReceiveClient) (room : Nat) :
    SameParts e (e.receive socket client room) := by
  unfold Engine.receive
  split
  · exact refl e
  · split
    · exact post e _
    · split
      · next datagram rest _ =>
        have hsame : SameParts e
            (e.updateSocket socket fun record => { record with backlog := rest }) :=
          .updateSocket fun _ => rfl
        exact hsame.trans (post _ _)
      · exact updateSocket fun _ => rfl

theorem askMail (box : MailboxId) (reader : Reader) : SameParts e (e.askMail box reader) := by
  unfold Engine.askMail
  split
  · exact refl e
  · simp only []
    split
    · exact (setMailbox e box _).trans (post _ _)
    · exact (setMailbox e box _).trans (post _ _)
    · exact setMailbox e box _

end SameParts

/-! ## 2. Sockets -/

section Sockets

variable {e : Engine} {socket : SocketId} {client : ReceiveClient}

/-- A change of a socket that is not about its receive is no start and no end. -/
theorem Passes.updateSocket {change : RawSocket → RawSocket}
    (hr : ∀ record, (change record).receiver = record.receiver)
    (hf : ∀ record, (change record).fatal = record.fatal) :
    Passes e (e.updateSocket socket change) := by
  refine .stays (.updateSocket hf) (fun port => ?_) rfl
  rw [Engine.waiter?_updateSocket]
  split
  · next hport =>
    subst hport
    cases hs : e.sockets[socket]? with
    | none => simp [Engine.waiter?, hs]
    | some record => simp [Engine.waiter?, hs, hr]
  · rfl

/-- What a socket's new receiver is seen as at the ports. -/
theorem waiter?_setReceiver {record : RawSocket} (hs : e.sockets[socket]? = some record)
    {change : RawSocket → RawSocket} (port : Port) :
    (e.updateSocket socket change).waiter? port
      = if port = .socket socket then (change record).receiver.map Prod.fst
        else e.waiter? port := by
  rw [Engine.waiter?_updateSocket, hs, Option.map_some, Option.bind_some]

/-- **A receive on a socket is started.** -/
theorem Starts.receive (hw : Wired e) (hf : e.Fits client (.socket socket)) (room : Nat) :
    Starts client e (e.receive socket client room) := by
  obtain ⟨record, hs⟩ : ∃ record, e.sockets[socket]? = some record :=
    ⟨_, Array.getElem?_eq_getElem (hw.hasPort_of_fits hf)⟩
  simp only [Engine.receive, hs]
  split
  · next hfatal =>
    exact .posts (.noReceive client record.fatal) (.post e _) rfl ⟨hfatal, socket, hf⟩
      (Engine.waiter?_post _) rfl
  · split
    · next datagram rest _ =>
      have hsame : SameParts e
          (e.updateSocket socket fun record => { record with backlog := rest }) :=
        .updateSocket fun _ => rfl
      refine .posts (Engine.receipt socket client room datagram) (hsame.trans (.post _ _)) rfl hf
        (fun port => ?_) rfl
      rw [Engine.waiter?_post, waiter?_setReceiver hs]
      split
      · next hport => rw [hport, Engine.waiter?_socket hs]
      · rfl
    · exact .waits _ (.updateSocket fun _ => rfl) hf (waiter?_setReceiver hs) rfl

/-- Taking the receiver off a socket and posting its end is passing on. -/
theorem Passes.serve (hw : Wired e) {record : RawSocket} (hs : e.sockets[socket]? = some record)
    {room : Nat} (hr : record.receiver = some (client, room)) {change : RawSocket → RawSocket}
    (hc : ∀ record, (change record).receiver = none)
    (hf : ∀ record, (change record).fatal = record.fatal) (code : ErrorCode) (source : Address)
    (data : Bytes) :
    Passes e ((e.updateSocket socket change).post
      (.received socket client code source data)) := by
  have hwas : e.waiter? (.socket socket) = some client := by
    rw [Engine.waiter?_socket hs, hr, Option.map_some]
  refine .posts (.socket socket) client (.received socket client code source data)
    ((SameParts.updateSocket hf).trans (.post _ _)) rfl
    (hw.waits _ _ hwas) hwas (fun port => ?_) rfl
  rw [Engine.waiter?_post, waiter?_setReceiver hs, hc, Option.map_none]

theorem Passes.endReceive (hw : Wired e) (socket : SocketId) (code : ErrorCode) :
    Passes e (e.endReceive socket code) := by
  unfold Engine.endReceive
  split
  · next client room _ hs =>
    exact Passes.serve hw hs rfl (by simp) (by simp) _ _ _
  · exact .stays (.refl e) (fun _ => rfl) rfl

theorem Passes.deliverTo (hw : Wired e) (source : Address) (data : Bytes) (socket : SocketId) :
    Passes e (e.deliverTo source data socket) := by
  unfold Engine.deliverTo
  split
  · exact .stays (.refl e) (fun _ => rfl) rfl
  · next record hs =>
    split
    · exact .stays (.refl e) (fun _ => rfl) rfl
    · split
      · next hr => exact Passes.serve hw hs hr (by simp) (by simp) _ _ _
      · exact Passes.updateSocket (fun _ => rfl) fun _ => rfl

end Sockets

/-! ## 3. Mailboxes -/

section Mailboxes

variable {e : Engine} {box : MailboxId}

/-- Changing a mailbox but not its receiver is no start and no end. -/
theorem Passes.setMailbox {old value : Mailbox Letter Reader}
    (hold : e.mailboxes[box]? = some old) (hr : value.receiver = old.receiver) :
    Passes e (e.setMailbox box value) := by
  refine .stays (.setMailbox e box value) (fun port => ?_) rfl
  rw [Engine.waiter?_setMailbox hold]
  split
  · next hport => rw [hport, Engine.waiter?_box hold, hr]
  · rfl

/-- Taking the receiver off a mailbox and posting its end is passing on. -/
theorem Passes.hand (hw : Wired e) {old value : Mailbox Letter Reader} {reader : Reader}
    (hold : e.mailboxes[box]? = some old) (hr : old.receiver = some reader)
    (hv : value.receiver = none) (code : ErrorCode) (letter : Letter) :
    Passes e ((e.setMailbox box value).post (.mail reader code letter)) := by
  have hwas : e.waiter? (.box box) = some reader.client := by
    rw [Engine.waiter?_box hold, hr, Option.map_some]
  refine .posts (.box box) reader.client (.mail reader code letter)
    ((SameParts.setMailbox e box value).trans (.post _ _)) rfl
      ⟨box, hw.waits _ _ hwas⟩ hwas (fun port => ?_) rfl
  rw [Engine.waiter?_post, Engine.waiter?_setMailbox hold, hv, Option.map_none]

theorem Passes.offerMail (hw : Wired e) (box : MailboxId) (letter : Letter) :
    Passes e (e.offerMail box letter).1 := by
  unfold Engine.offerMail
  split
  · exact .stays (.refl e) (fun _ => rfl) rfl
  · next old hold =>
    rcases old.offer_cases letter with
      ⟨-, ho⟩ | ⟨-, reader, hr, ho⟩ | ⟨-, -, -, ho⟩ <;> simp only [ho]
    · exact Passes.setMailbox hold rfl
    · exact Passes.hand hw hold hr rfl _ _
    · exact Passes.setMailbox hold rfl

theorem Passes.closeMail (hw : Wired e) (box : MailboxId) (reason : ErrorCode) :
    Passes e (e.closeMail box reason) := by
  unfold Engine.closeMail
  split
  · exact .stays (.refl e) (fun _ => rfl) rfl
  · next old hold =>
    rcases old.close_cases reason with ⟨-, hclose⟩ | ⟨-, hclose⟩ <;> simp only [hclose]
    · exact Passes.setMailbox hold rfl
    · cases hr : old.receiver with
      | none => exact Passes.setMailbox hold hr.symm
      | some reader => exact Passes.hand hw hold hr rfl _ _

/-- **A receive on a mailbox is started.** -/
theorem Starts.askMail (hw : Wired e) (reader : Reader)
    (hf : e.Fits reader.client (.box box)) : Starts reader.client e (e.askMail box reader) := by
  obtain ⟨old, hold⟩ : ∃ old, e.mailboxes[box]? = some old :=
    ⟨_, Array.getElem?_eq_getElem (hw.hasPort_of_fits hf)⟩
  have hposts : ∀ (value : Mailbox Letter Reader) (code : ErrorCode) (letter : Letter),
      value.receiver = old.receiver →
      Starts reader.client e ((e.setMailbox box value).post (.mail reader code letter)) := by
    intro value code letter hr
    refine .posts (.mail reader code letter) ((SameParts.setMailbox e box value).trans (.post _ _))
      rfl ⟨box, hf⟩ (fun port => ?_) rfl
    rw [Engine.waiter?_post, Engine.waiter?_setMailbox hold]
    split
    · next hport => rw [hport, Engine.waiter?_box hold, hr]
    · rfl
  rcases old.receive_cases reader with
    ⟨letter, rest, -, hrec⟩ | ⟨-, -, hrec⟩ | ⟨-, -, hrec⟩ <;> simp only [Engine.askMail, hold, hrec]
  · exact hposts _ _ _ rfl
  · exact hposts _ _ _ rfl
  · exact .waits (.box box) (.setMailbox e box _) hf (Engine.waiter?_setMailbox hold _) rfl

end Mailboxes

end IcmpEcho
