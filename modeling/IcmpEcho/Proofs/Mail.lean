/-
# Letters in mailboxes

What a hub puts into a mailbox is queued there, or a task brings it to the pinger.  Both together
are the *inbox* of the mailbox (`Engine.inbox`): the letters that were taken and not yet handed
out, in the order in which they will be.

* `Mailed`: nobody waits at a mailbox in which something is queued, and what a hub receives is
  what came in at its socket, cut to the room that the hub has for it.
* `Still may e e'`: no inbox changes, nothing is registered anew for a mailbox of `e`, and only the
  registrations in `may` end.

**Acts are still** (`Act.still`), and so is adding new parts (`Grows.still`).  So an inbox changes
in two ways only: a hub offers a letter (`Engine.inbox_offerMail`), and a letter is handed out
(`Engine.inbox_consume`).
-/
import IcmpEcho.Proofs.Growing

namespace IcmpEcho

variable {e e' e'' : Engine} {box : MailboxId} {may may' : HubId → Address → Prop}

/-! ## 1. Inboxes -/

namespace Engine

/-- The mailbox that is registered at a hub for an address. -/
def registered? (e : Engine) (id : HubId) (address : Address) : Option MailboxId :=
  e.hubs[id]?.bind fun hub => hub.mailbox? address

/-- The letter that a task brings from a mailbox to the pinger that reads it. -/
def letter? (e : Engine) (box : MailboxId) : Task → Option Letter
  | .mail reader code letter =>
    if e.port? reader.client = some (.box box) ∧ code.isError = false then some letter else none
  | _ => none

/-- The letters that are queued in a mailbox. -/
def queued (e : Engine) (box : MailboxId) : List Letter :=
  (e.mailboxes[box]?.map Mailbox.queue).getD []

/-- The letters that were put into a mailbox and are not handed out, the first to be handed out
first. -/
def inbox (e : Engine) (box : MailboxId) : List Letter :=
  e.ready.filterMap (e.letter? box) ++ e.queued box

/-- The mailbox takes nothing any more. -/
def Shut (e : Engine) (box : MailboxId) : Prop :=
  ∃ value, e.mailboxes[box]? = some value ∧ value.isClosed

/-- A hub may have received this: the beginning of a datagram that came in, or nothing from
nowhere when a receive was made to fail with error number 0. -/
def Came (e : Engine) (source : Address) (data : Bytes) : Prop :=
  (∃ whole, (source, whole) ∈ e.arrivals ∧ data = whole.take Pinger.room) ∨
    (source = .any ∧ data = [])

/-- What a task brings to a hub came in. -/
def Honest (e : Engine) : Task → Prop
  | .received _ (.hub _) code source data => code.isError = false → e.Came source data
  | _ => True

end Engine

/-- Nobody waits at a mailbox in which something is queued, and a mailbox holds 100 letters. -/
structure Mailbox.Orderly (value : Mailbox Letter Reader) : Prop where
  waits : value.receiver ≠ none → value.queue = []
  capacity : value.capacity = 100

/-- A socket keeps what came in, and a hub that waits there has room for the longest datagram. -/
structure RawSocket.Keeps (arrivals : List (Address × Bytes)) (record : RawSocket) : Prop where
  backlog : record.backlog ⊆ arrivals
  room : ∀ id room, record.receiver = some (.hub id, room) → room = Pinger.room

/-- **The invariant of mailboxes and of what comes to them.** -/
structure Mailed (e : Engine) : Prop where
  boxes : ∀ (box : MailboxId) (value : Mailbox Letter Reader), e.mailboxes[box]? = some value →
    value.Orderly
  sockets : ∀ (socket : SocketId) (record : RawSocket), e.sockets[socket]? = some record →
    record.Keeps e.arrivals
  tasks : ∀ task ∈ e.ready, e.Honest task

/-- `e'` comes from `e`, and no inbox changes.  Registrations in `may` can end, and the mailbox of
no other registration is closed while its pinger lives. -/
structure Still (may : HubId → Address → Prop) (e e' : Engine) : Prop where
  mailed : Mailed e → Mailed e'
  inbox : ∀ box, e'.inbox box = e.inbox box
  registered : ∀ id address box, box < e.mailboxes.size → e'.registered? id address = some box →
    e.registered? id address = some box
  frame : ∀ id address, ¬ may id address → e'.registered? id address = e.registered? id address
  shut : ∀ id address box, box < e.mailboxes.size → e'.registered? id address = some box →
    e'.Shut box → e.Shut box ∨ may id address ∨ e'.Orphan box
  orphan : ∀ box, e.Orphan box → e'.Orphan box
  boxes : e.mailboxes.size ≤ e'.mailboxes.size

namespace Engine

theorem registered?_eq (hubs : e'.hubs = e.hubs) (id : HubId) (address : Address) :
    e'.registered? id address = e.registered? id address := by
  rw [registered?, registered?, hubs]

theorem lists_of_registered? {id : HubId} {address : Address}
    (h : e.registered? id address = some box) : e.Lists id address box := by
  obtain ⟨hub, hh, hbox⟩ := Option.bind_eq_some_iff.1 h
  exact ⟨hub, hh, Hub.mem_of_mailbox? hbox⟩

theorem letter?_congr (h : SamePorts e e') (box : MailboxId) : e'.letter? box = e.letter? box := by
  funext task
  cases task <;> simp only [letter?, h.port?]

theorem letter?_of_not_listener {task : Task} (h : task.listener? = none) :
    e.letter? box task = none := by
  cases task with
  | mail reader code letter => cases h
  | _ => rfl

theorem registered?_updateHub {id : HubId} {hub : Hub} (hh : e.hubs[id]? = some hub)
    (change : Hub → Hub) (other : HubId) (address : Address) :
    (e.updateHub id change).registered? other address
      = if other = id then (change hub).mailbox? address else e.registered? other address := by
  rw [registered?, hubs_updateHub hh]
  split
  · rfl
  · rfl

/-- A letter is for the pinger that reads the mailbox. -/
theorem letter?_eq_some {task : Task} {letter : Letter} (h : e.letter? box task = some letter) :
    ∃ reader code, task = .mail reader code letter ∧ e.port? reader.client = some (.box box) ∧
      code.isError = false := by
  cases task with
  | mail reader code other =>
    simp only [letter?] at h
    split at h
    · next hport =>
      obtain rfl := Option.some.inj h
      exact ⟨reader, code, rfl, hport⟩
    · cases h
  | _ => cases h

/-- Where tasks and queues bring the same letters, the inbox is the same. -/
theorem inbox_congr (ports : SamePorts e e')
    (handed : e'.ready.filterMap (e.letter? box) = e.ready.filterMap (e.letter? box))
    (queued : e'.queued box = e.queued box) : e'.inbox box = e.inbox box := by
  rw [inbox, inbox, letter?_congr ports, handed, queued]

theorem honest_of_not_listener {task : Task} (h : task.listener? = none) : e.Honest task := by
  cases task <;> simp_all [Task.listener?, Honest]

theorem Honest.mono {task : Task} (h : e.Honest task) (arrivals : e.arrivals ⊆ e'.arrivals) :
    e'.Honest task := by
  unfold Honest at h ⊢
  split at h
  · intro hcode
    rcases h hcode with ⟨whole, hwhole, hdata⟩ | hnone
    · exact .inl ⟨whole, arrivals hwhole, hdata⟩
    · exact .inr hnone
  · trivial

theorem Honest.congr {task : Task} (h : e.Honest task) (arrivals : e'.arrivals = e.arrivals) :
    e'.Honest task := h.mono (arrivals ▸ fun _ hmem => hmem)

/-- The pinger that a port belongs to. -/
theorem Fits.port?_box {client : ReceiveClient} (hf : e.Fits client (.box box)) :
    e.port? client = some (.box box) := by
  cases client with
  | raw tag => exact hf.elim
  | pinger id => exact hf
  | hub id => exact hf

theorem mailboxes_setMailbox {old : Mailbox Letter Reader} (hold : e.mailboxes[box]? = some old)
    (value : Mailbox Letter Reader) (other : MailboxId) :
    (e.setMailbox box value).mailboxes[other]?
      = if other = box then some value else e.mailboxes[other]? := by
  simp only [setMailbox, Array.getElem?_modify]
  by_cases h : box = other
  · subst h; simp [hold]
  · simp [h, Ne.symm h]

end Engine

/-! ## 2. Keeping still -/

theorem Steady.orphan (h : Steady e e') (ho : e.Orphan box) : e'.Orphan box := by
  obtain ⟨id, pinger, hp, hbox, hg⟩ := ho
  obtain ⟨pinger', hp', hfollows⟩ := h.pingers id pinger hp
  exact ⟨id, pinger', hp', hfollows.mailbox.trans hbox, hfollows.gone.trans hg⟩

namespace Still

theorem refl (e : Engine) : Still may e e where
  mailed hm := hm
  inbox _ := rfl
  registered _ _ _ _ h := h
  frame _ _ _ := rfl
  shut _ _ _ _ _ h := .inl h
  orphan _ h := h
  boxes := Nat.le_refl _

theorem trans (h : Still may e e') (h' : Still may e' e'') : Still may e e'' where
  mailed hm := h'.mailed (h.mailed hm)
  inbox box := (h'.inbox box).trans (h.inbox box)
  registered id address box hb hr :=
    h.registered id address box hb
      (h'.registered id address box (Nat.lt_of_lt_of_le hb h.boxes) hr)
  frame id address hno := (h'.frame id address hno).trans (h.frame id address hno)
  shut id address box hb hr hshut := by
    have hb' := Nat.lt_of_lt_of_le hb h.boxes
    rcases h'.shut id address box hb' hr hshut with hold | hmay | horphan
    · rcases h.shut id address box hb (h'.registered id address box hb' hr) hold with
        hold | hmay | horphan
      · exact .inl hold
      · exact .inr (.inl hmay)
      · exact .inr (.inr (h'.orphan box horphan))
    · exact .inr (.inl hmay)
    · exact .inr (.inr horphan)
  orphan box ho := h'.orphan box (h.orphan box ho)
  boxes := Nat.le_trans h.boxes h'.boxes

/-- More registrations may end. -/
theorem mono (h : Still may e e') (hmay : ∀ id address, may id address → may' id address) :
    Still may' e e' :=
  { h with
    frame := fun id address hno => h.frame id address fun hm => hno (hmay id address hm)
    shut := fun id address box hb hr hshut =>
      (h.shut id address box hb hr hshut).imp_right fun h => h.imp_left (hmay id address) }

/-- What is steady and leaves the hubs alone is still, if it leaves the inboxes alone. -/
theorem of_steady (h : Steady e e') (hubs : e'.hubs = e.hubs) (mailed : Mailed e → Mailed e')
    (inbox : ∀ box, e'.inbox box = e.inbox box)
    (shut : ∀ id address box, e.registered? id address = some box → e'.Shut box →
      e.Shut box ∨ may id address ∨ e.Orphan box) : Still may e e' where
  mailed := mailed
  inbox := inbox
  registered id address box _ hr := by rwa [Engine.registered?_eq hubs] at hr
  frame id address _ := Engine.registered?_eq hubs id address
  shut id address box _ hr hshut := by
    rw [Engine.registered?_eq hubs] at hr
    exact (shut id address box hr hshut).imp_right fun h' => h'.imp_right h.orphan
  orphan _ := h.orphan
  boxes := Nat.le_of_eq h.ports.boxCount.symm

end Still

/-- Sockets, mailboxes, hubs and arrivals are the same, and the same receives have ended. -/
structure SameMail (e e' : Engine) : Prop where
  sockets : e'.sockets = e.sockets
  mailboxes : e'.mailboxes = e.mailboxes
  hubs : e'.hubs = e.hubs
  arrivals : e'.arrivals = e.arrivals
  ready : e'.ready.filter (fun task => task.listener?.isSome)
    = e.ready.filter (fun task => task.listener?.isSome)

theorem filterMap_eq_of_filter_eq {α β : Type} {f : α → Option β} {q : α → Bool} {l l' : List α}
    (h : l'.filter q = l.filter q) (hf : ∀ a, q a = false → f a = none) :
    l'.filterMap f = l.filterMap f := by
  have hfilter : ∀ l : List α, (l.filter q).filterMap f = l.filterMap f := fun l => by
    rw [List.filterMap_filter]
    refine List.filterMap_congr fun a _ => ?_
    cases hq : q a with
    | true => rfl
    | false => exact (hf a hq).symm
  rw [← hfilter l', h, hfilter]

namespace SameMail

theorem of_aside (h : Aside e e') : SameMail e e' where
  sockets := h.sockets
  mailboxes := h.mailboxes
  hubs := h.hubs
  arrivals := h.arrivals
  ready := filter_eq_of_filter_eq h.ready fun _ hl => by
    obtain ⟨client, hclient⟩ := Option.isSome_iff_exists.1 hl
    exact Task.isCore_of_listener hclient

theorem still (h : SameMail e e') (hs : Steady e e') : Still may e e' := by
  refine .of_steady hs h.hubs (fun hm => ⟨?_, ?_, ?_⟩) (fun box => ?_) fun id address box _ hshut => ?_
  · rw [h.mailboxes]
    exact hm.boxes
  · rw [h.sockets, h.arrivals]
    exact hm.sockets
  · intro task ht
    cases hl : task.listener? with
    | none => exact Engine.honest_of_not_listener hl
    | some client =>
      have hmem := mem_of_filter_eq h.ready ht (by simp [hl])
      exact (hm.tasks task hmem).congr h.arrivals
  · refine Engine.inbox_congr hs.ports (filterMap_eq_of_filter_eq h.ready fun task hl => ?_) ?_
    · have hlistener : task.listener?.isNone := Option.isSome_eq_false_iff.1 hl
      exact Engine.letter?_of_not_listener (Option.isNone_iff_eq_none.1 hlistener)
    · rw [Engine.queued, Engine.queued, h.mailboxes]
  · rw [Engine.Shut, h.mailboxes] at hshut
    exact .inl hshut

end SameMail

/-! ## 3. Sockets -/

namespace Mailed

variable {socket : SocketId} {change : RawSocket → RawSocket}

theorem updateSocket (hm : Mailed e)
    (hk : ∀ record, e.sockets[socket]? = some record → record.Keeps e.arrivals →
      (change record).Keeps e.arrivals) :
    Mailed (e.updateSocket socket change) where
  boxes := hm.boxes
  sockets other record hsocket := by
    simp only [Engine.updateSocket, Array.getElem?_modify] at hsocket
    split at hsocket
    · next heq =>
      subst heq
      obtain ⟨old, hold, rfl⟩ := Option.map_eq_some_iff.1 hsocket
      exact hk old hold (hm.sockets _ old hold)
    · exact hm.sockets other record hsocket
  tasks task ht := (hm.tasks task ht).congr rfl

theorem post (hm : Mailed e) {task : Task} (h : e.Honest task) : Mailed (e.post task) where
  boxes := hm.boxes
  sockets := hm.sockets
  tasks other ht := by
    rcases List.mem_append.1 ht with hold | hnew
    · exact (hm.tasks other hold).congr rfl
    · obtain rfl := List.mem_singleton.1 hnew
      exact h.congr rfl

theorem setMailbox (hm : Mailed e) {old value : Mailbox Letter Reader}
    (hold : e.mailboxes[box]? = some old) (hv : value.Orderly) : Mailed (e.setMailbox box value) where
  boxes other value' hvalue := by
    rw [Engine.mailboxes_setMailbox hold] at hvalue
    split at hvalue
    · obtain rfl := Option.some.inj hvalue
      exact hv
    · exact hm.boxes other value' hvalue
  sockets := hm.sockets
  tasks task ht := (hm.tasks task ht).congr rfl

end Mailed

theorem Engine.arrivals_deliverTo (source : Address) (data : Bytes) (socket : SocketId) :
    (e.deliverTo source data socket).arrivals = e.arrivals := by
  unfold Engine.deliverTo
  split
  · rfl
  · split
    · rfl
    · split
      · rfl
      · rfl

namespace Still

variable {socket : SocketId} {change : RawSocket → RawSocket}

/-- A task that brings no letter is posted. -/
theorem post {task : Task} (hl : ∀ box, e.letter? box task = none)
    (honest : Mailed e → e.Honest task) : Still may e (e.post task) := by
  have hsteady : Steady e (e.post task) := .of_sameParts (.post e task)
  refine .of_steady hsteady rfl (fun hm => hm.post (honest hm)) (fun box => ?_)
    fun _ _ _ _ hshut => .inl hshut
  exact Engine.inbox_congr hsteady.ports (by simp [Engine.post, hl]) rfl

theorem updateSocket (hs : Steady e (e.updateSocket socket change))
    (hk : ∀ record, e.sockets[socket]? = some record → record.Keeps e.arrivals →
      (change record).Keeps e.arrivals) :
    Still may e (e.updateSocket socket change) :=
  .of_steady hs rfl (fun hm => hm.updateSocket hk)
    (fun _ => Engine.inbox_congr hs.ports rfl rfl) fun _ _ _ _ hshut => .inl hshut

/-- A receive ends at a socket, with what the socket has kept. -/
theorem serve {record : RawSocket} (hsocket : e.sockets[socket]? = some record)
    (hf : ∀ record, (change record).fatal = record.fatal)
    (hk : ∀ record, e.sockets[socket]? = some record → record.Keeps e.arrivals →
      (change record).Keeps e.arrivals) {task : Task}
    (hl : ∀ box, e.letter? box task = none) (honest : record.Keeps e.arrivals → e.Honest task) :
    Still may e ((e.updateSocket socket change).post task) := by
  have hsteady : Steady e ((e.updateSocket socket change).post task) :=
    .of_sameParts ((SameParts.updateSocket hf).trans (.post _ _))
  refine .of_steady hsteady rfl (fun hm => ?_) (fun box => ?_) fun _ _ _ _ hshut => .inl hshut
  · exact (hm.updateSocket hk).post ((honest (hm.sockets socket record hsocket)).congr rfl)
  · exact Engine.inbox_congr hsteady.ports (by simp [Engine.post, Engine.updateSocket, hl]) rfl

/-- **A receive on a socket is started**; a hub has room for the longest datagram. -/
theorem receive (socket : SocketId) {client : ReceiveClient} {room : Nat}
    (hroom : ∀ id, client = .hub id → room = Pinger.room) :
    Still may e (e.receive socket client room) := by
  unfold Engine.receive
  split
  · exact refl e
  · next record hsocket =>
    split
    · exact post (fun _ => rfl) fun _ => trivial
    · split
      · next datagram rest hbacklog =>
        refine serve hsocket (by simp) (fun old hold hk => ?_) ?_ fun hk => ?_
        · obtain rfl := Option.some.inj (hsocket.symm.trans hold)
          exact ⟨fun _ hmem => hk.backlog (hbacklog ▸ List.mem_cons_of_mem _ hmem), hk.room⟩
        · exact fun _ => rfl
        · have hcame : datagram ∈ e.arrivals := hk.backlog (hbacklog ▸ List.mem_cons_self)
          cases client with
          | hub id =>
            rw [hroom id rfl]
            exact fun _ => .inl ⟨_, hcame, rfl⟩
          | _ => trivial
      · refine updateSocket (.of_sameParts (.updateSocket fun _ => rfl)) fun old _ hk =>
          ⟨hk.backlog, fun id room' h => ?_⟩
        obtain ⟨rfl, rfl⟩ := Prod.mk.inj (Option.some.inj h)
        exact hroom id rfl

/-- The receive that waits on a socket ends with an error, or brings nothing from nowhere. -/
theorem endReceive (socket : SocketId) (code : ErrorCode) : Still may e (e.endReceive socket code) := by
  unfold Engine.endReceive
  split
  · next client room hsocket =>
    refine serve hsocket (by simp) (fun old _ hk => ?_) ?_ fun _ => ?_
    · exact ⟨hk.backlog, by simp⟩
    · exact fun _ => rfl
    · cases client with
      | hub id => exact fun _ => .inr ⟨rfl, rfl⟩
      | _ => trivial
  · exact refl e

/-- **A datagram that is written down comes in at one socket.** -/
theorem deliverTo {source : Address} {data : Bytes} (hcame : (source, data) ∈ e.arrivals)
    (socket : SocketId) : Still may e (e.deliverTo source data socket) := by
  unfold Engine.deliverTo
  split
  · exact refl e
  · next record hsocket =>
    split
    · exact refl e
    · -- what the socket has then is what it had and the datagram
      have hall : record.Keeps e.arrivals → record.backlog ++ [(source, data)] ⊆ e.arrivals := by
        intro hk datagram hmem
        rcases List.mem_append.1 hmem with hold | hnew
        · exact hk.backlog hold
        · rwa [List.mem_singleton.1 hnew]
      split
      · next datagram rest client room hbacklog hreceiver =>
        rw [hbacklog] at hall
        refine serve hsocket (by simp) (fun old hold hk => ?_) ?_ fun hk => ?_
        · obtain rfl := Option.some.inj (hsocket.symm.trans hold)
          exact ⟨fun _ hmem => hall hk (List.mem_cons_of_mem _ hmem), by simp⟩
        · exact fun _ => rfl
        · cases client with
          | hub id =>
            rw [hk.room id room hreceiver]
            exact fun _ => .inl ⟨_, hall hk List.mem_cons_self, rfl⟩
          | _ => trivial
      · refine updateSocket (.of_sameParts (.updateSocket fun _ => rfl)) fun old hold hk => ?_
        obtain rfl := Option.some.inj (hsocket.symm.trans hold)
        exact ⟨hall hk, hk.room⟩

end Still

/-! ## 4. Mailboxes -/

namespace Engine

theorem queued_setMailbox {old : Mailbox Letter Reader} (hold : e.mailboxes[box]? = some old)
    (value : Mailbox Letter Reader) (other : MailboxId) :
    (e.setMailbox box value).queued other = if other = box then value.queue else e.queued other := by
  rw [queued, mailboxes_setMailbox hold]
  split
  · rfl
  · rfl

theorem queued_eq {old : Mailbox Letter Reader} (hold : e.mailboxes[box]? = some old) :
    e.queued box = old.queue := by
  rw [queued, hold, Option.map_some, Option.getD_some]

/-- A mailbox that is put in place of one may be closed, the others are as they were. -/
theorem shut_setMailbox {old value : Mailbox Letter Reader} (hold : e.mailboxes[box]? = some old)
    {other : MailboxId} (h : (e.setMailbox box value).Shut other) :
    e.Shut other ∨ (other = box ∧ value.isClosed) := by
  obtain ⟨value', hvalue, hclosed⟩ := h
  rw [mailboxes_setMailbox hold] at hvalue
  split at hvalue
  · next heq =>
    obtain rfl := Option.some.inj hvalue
    exact .inr ⟨heq, hclosed⟩
  · exact .inl ⟨value', hvalue, hclosed⟩

/-- An inbox when a mailbox is put in place of one. -/
theorem inbox_setMailbox {old : Mailbox Letter Reader} (hold : e.mailboxes[box]? = some old)
    (value : Mailbox Letter Reader) (other : MailboxId) :
    (e.setMailbox box value).inbox other
      = if other = box then e.ready.filterMap (e.letter? box) ++ value.queue else e.inbox other := by
  have hports : SamePorts e (e.setMailbox box value) := (SameParts.setMailbox e box value).ports
  rw [inbox, letter?_congr hports, queued_setMailbox hold]
  split
  · next heq => subst heq; rfl
  · rfl

/-- An inbox when a task is posted. -/
theorem inbox_post (task : Task) (box : MailboxId) :
    (e.post task).inbox box
      = e.ready.filterMap (e.letter? box) ++ (e.letter? box task).toList ++ e.queued box := by
  have hports : SamePorts e (e.post task) := (SameParts.post e task).ports
  have hone : [task].filterMap (e.letter? box) = (e.letter? box task).toList := by
    cases h : e.letter? box task <;> simp [h]
  rw [inbox, letter?_congr hports, post, List.filterMap_append, hone]
  rfl

end Engine

namespace Still

/-- A mailbox is put in place of one with the same letters. -/
theorem setMailbox {old value : Mailbox Letter Reader} (hold : e.mailboxes[box]? = some old)
    (orderly : old.Orderly → value.Orderly) (queue : value.queue = old.queue)
    (shut : value.isClosed → old.isClosed ∨
      ∀ id address, e.Lists id address box → may id address ∨ e.Orphan box) :
    Still may e (e.setMailbox box value) := by
  refine .of_steady (.of_sameParts (.setMailbox e box value)) rfl
    (fun hm => hm.setMailbox hold (orderly (hm.boxes box old hold))) (fun other => ?_)
    fun id address other hr hshut => ?_
  · rw [Engine.inbox_setMailbox hold]
    split
    · next heq =>
      subst heq
      rw [queue, Engine.inbox, Engine.queued_eq hold]
    · rfl
  · rcases Engine.shut_setMailbox hold hshut with h | ⟨rfl, hclosed⟩
    · exact .inl h
    · rcases shut hclosed with h | h
      · exact .inl ⟨old, hold, h⟩
      · exact .inr (h id address (Engine.lists_of_registered? hr))

/-- A reader that is told why it gets no letter gets none. -/
theorem postRefusal (reader : Reader) {code : ErrorCode} (hcode : code.isError) :
    Still may e (e.post (.mail reader code {})) := by
  have hnone : ∀ box, e.letter? box (.mail reader code {}) = none := by
    intro box
    simp [Engine.letter?, hcode]
  exact post hnone fun _ => trivial

/-- **A mailbox is closed.** -/
theorem closeMail {reason : ErrorCode} (hr : reason.isError)
    (hbox : ∀ id address, e.Lists id address box → may id address ∨ e.Orphan box) :
    Still may e (e.closeMail box reason) := by
  unfold Engine.closeMail
  split
  · exact refl e
  · next old hold =>
    rcases old.close_cases reason with ⟨-, hclose⟩ | ⟨-, hclose⟩ <;> simp only [hclose]
    · exact setMailbox hold (fun h => h) rfl .inl
    · have hclosed : Still may e (e.setMailbox box { old with reason, receiver := none }) :=
        setMailbox hold (fun h => ⟨by simp, h.capacity⟩) rfl fun _ => .inr hbox
      split
      · exact hclosed.trans (postRefusal _ hr)
      · exact hclosed

/-- **A reader asks a mailbox**: a letter that was queued is on its way then. -/
theorem askMail {reader : Reader} (hf : e.Fits reader.client (.box box)) :
    Still may e (e.askMail box reader) := by
  unfold Engine.askMail
  split
  · exact refl e
  · next old hold =>
    rcases old.receive_cases reader with
      ⟨letter, rest, hqueue, hrec⟩ | ⟨-, hclosed, hrec⟩ | ⟨hqueue, -, hrec⟩ <;> simp only [hrec]
    · let taken := e.setMailbox box { old with queue := rest }
      have hports : SamePorts e taken := (SameParts.setMailbox e box _).ports
      have hsteady : Steady e (taken.post (.mail reader .success letter)) :=
        .of_sameParts ((SameParts.setMailbox e box _).trans (.post _ _))
      refine .of_steady hsteady rfl (fun hm => ?_) (fun other => ?_) fun id address other _ hshut => ?_
      · have horderly := hm.boxes box old hold
        have hidle : old.receiver = none := by
          by_contra hwaits
          have hempty := horderly.waits hwaits
          rw [hqueue] at hempty
          cases hempty
        have htaken : Mailed taken :=
          hm.setMailbox hold ⟨fun h => absurd hidle h, horderly.capacity⟩
        exact htaken.post trivial
      · rw [Engine.inbox_post, Engine.letter?_congr hports, Engine.queued_setMailbox hold, Engine.inbox]
        split
        · next heq =>
          subst heq
          have hletter : e.letter? other (.mail reader .success letter) = some letter := by
            simp [Engine.letter?, hf.port?_box, ErrorCode.isError_success]
          rw [hletter, Engine.queued_eq hold, hqueue]
          simp [Engine.setMailbox]
        · next hne =>
          have hletter : e.letter? other (.mail reader .success letter) = none := by
            simp [Engine.letter?, hf.port?_box, Ne.symm hne]
          rw [hletter]
          simp [Engine.setMailbox]
      · rcases Engine.shut_setMailbox hold hshut with h | ⟨rfl, hclosed⟩
        · exact .inl h
        · exact .inl ⟨old, hold, hclosed⟩
    · have hsame : Still may e (e.setMailbox box old) := setMailbox hold (fun h => h) rfl .inl
      exact hsame.trans (postRefusal _ hclosed)
    · exact setMailbox hold (fun h => ⟨fun _ => hqueue, h.capacity⟩) rfl .inl

end Still

/-! ## 5. Acts -/

namespace Still

theorem of_aside (h : Aside e e') : Still may e e' := (SameMail.of_aside h).still (.of_aside h)

theorem tell (number : PingId) (caller : Caller) (code : ErrorCode) (result : PingResult) :
    Still may e (e.tell number caller code result) := by
  have hnote : ∀ (ending : Ending) (journal : List Event),
      Still may e { e with endings := ending :: e.endings, journal } := fun ending journal =>
    SameMail.still ⟨rfl, rfl, rfl, rfl, rfl⟩ (.note ending journal)
  cases caller with
  | target index => exact (hnote _ e.journal).trans (of_aside (.targetAnswered index code result))
  | scripted tag again => exact hnote _ _

/-- **A hub changes.**  It registers nothing anew, and loses only registrations that may end. -/
theorem updateHub {id : HubId} {hub : Hub} {change : Hub → Hub} (hs : Steady e (e.updateHub id change))
    (hh : e.hubs[id]? = some hub)
    (registry : ∀ address box, (change hub).mailbox? address = some box →
      hub.mailbox? address = some box)
    (frame : ∀ address, ¬ may id address → (change hub).mailbox? address = hub.mailbox? address) :
    Still may e (e.updateHub id change) where
  mailed hm := ⟨hm.boxes, hm.sockets, fun task ht => (hm.tasks task ht).congr rfl⟩
  inbox box := Engine.inbox_congr hs.ports rfl rfl
  registered other address box _ hr := by
    rw [Engine.registered?_updateHub hh] at hr
    split at hr
    · next heq =>
      subst heq
      rw [Engine.registered?, hh]
      exact registry address box hr
    · exact hr
  frame other address hno := by
    rw [Engine.registered?_updateHub hh]
    split
    · next heq =>
      subst heq
      rw [Engine.registered?, hh]
      exact frame address hno
    · rfl
  shut _ _ _ _ _ hshut := .inl hshut
  orphan _ := hs.orphan
  boxes := Nat.le_refl _

end Still

theorem Act.may_eq {hand hand' : Hand} (h : Act hand e hand' e') : hand'.may = hand.may := by
  cases h <;> rfl

/-- **An act is still.** -/
theorem Act.still {hand hand' : Hand} (h : Act hand e hand' e') (hs : Sound hand e) :
    Still hand.may e e' := by
  have hsteady := h.steady hs
  cases h with
  | aside h => exact .of_aside h
  | shut socket => exact .updateSocket hsteady fun record _ hk => ⟨by simp, hk.room⟩
  | fail hcode hf hubs => exact .updateSocket hsteady fun record _ hk => ⟨hk.backlog, hk.room⟩
  | receive hb fits hroom => exact .receive _ hroom
  | askMail hb fits => exact .askMail fits
  | endReceive socket => exact .endReceive _ _
  | closeMail hr hbox => exact .closeMail hr hbox
  | hub hh socket entries registry frame fatal hu lends => exact .updateHub hsteady hh registry frame
  | pinger hp hg alike hu lends => exact SameMail.still ⟨rfl, rfl, rfl, rfl, rfl⟩ hsteady
  | sent id token timer =>
    refine SameMail.still ?_ hsteady
    unfold Engine.refreshSent
    split
    · exact ⟨rfl, rfl, rfl, rfl, rfl⟩
    · exact ⟨rfl, rfl, rfl, rfl, rfl⟩
  | enter hu hp hg hi hfree => exact SameMail.still ⟨rfl, rfl, rfl, rfl, rfl⟩ hsteady
  | refuse hp hf =>
    refine SameMail.still ⟨rfl, rfl, rfl, rfl, ?_⟩ hsteady
    simp [Engine.refuse, Engine.post, Engine.noteAsked, Task.listener?]
  | take hp hcall => exact SameMail.still ⟨rfl, rfl, rfl, rfl, rfl⟩ hsteady
  | takeAll hp hg => exact SameMail.still ⟨rfl, rfl, rfl, rfl, rfl⟩ hsteady
  | disarm id token ht =>
    refine SameMail.still ?_ hsteady
    unfold Engine.cancelAlarm
    split
    · exact ⟨rfl, rfl, rfl, rfl, by simp [Task.listener?]⟩
    · exact ⟨rfl, rfl, rfl, rfl, rfl⟩
  | tell hh hping hseq => exact .tell _ _ _ _
  | settle hu h => exact .refl e
  | unsettle client hu => exact .refl e
  | rest hb hl => exact .refl e
  | punctual hl hno => exact .refl e

/-- **Acts are still.** -/
theorem Acts.still {hand hand' : Hand} (h : Acts hand e hand' e') (hs : Sound hand e) :
    Still hand.may e e' := by
  induction h with
  | nil => exact .refl _
  | cons head rest ih =>
    have hrest := ih (head.sound hs)
    rw [head.may_eq] at hrest
    exact (head.still hs).trans hrest

/-! ## 6. New parts -/

namespace Grows

/-- A new hub has nothing registered. -/
theorem registered? (h : Grows e e') (id : HubId) (address : Address) :
    e'.registered? id address = e.registered? id address := by
  rcases h.hub id with hsame | ⟨hnone, hub, hh, hempty, -⟩
  · rw [Engine.registered?, Engine.registered?, hsame]
  · simp [Engine.registered?, hnone, hh, Hub.mailbox?, hempty]

theorem queued (h : Grows e e') (box : MailboxId) : e'.queued box = e.queued box := by
  rcases h.box box with hsame | ⟨hnone, hnew⟩
  · rw [Engine.queued, Engine.queued, hsame]
  · simp [Engine.queued, hnone, hnew]

/-- A letter on its way is for a pinger that exists, and for its mailbox. -/
theorem letter? (h : Grows e e') (hw : Wired e) (box : MailboxId) {task : Task}
    (ht : task ∈ e.ready) : e'.letter? box task = e.letter? box task := by
  cases task with
  | mail reader code letter =>
    obtain ⟨own, hf⟩ := hw.tasks _ ht
    simp only [Engine.letter?, hf.port?_box, h.port? hf.port?_box]
  | _ => rfl

theorem still (h : Grows e e') (hw : Wired e) : Still may e e' where
  mailed hm := {
    boxes := fun box value hvalue => by
      rcases h.box box with hsame | ⟨-, hnew⟩
      · exact hm.boxes box value (by rwa [← hsame])
      · obtain rfl := Option.some.inj (hnew.symm.trans hvalue)
        exact ⟨fun _ => rfl, rfl⟩
    sockets := fun socket record hsocket => by
      rw [h.arrivals]
      rcases h.socket socket with hsame | ⟨-, record', hnew, hidle⟩
      · exact hm.sockets socket record (by rwa [← hsame])
      · obtain rfl := Option.some.inj (hnew.symm.trans hsocket)
        exact ⟨by simp [hidle.backlog], by simp [hidle.receiver]⟩
    tasks := fun task ht => (hm.tasks task (by rwa [← h.ready])).congr h.arrivals }
  inbox box := by
    rw [Engine.inbox, Engine.inbox, h.ready, h.queued]
    congr 1
    exact List.filterMap_congr fun task ht => h.letter? hw box ht
  registered id address box _ hr := by rwa [h.registered?] at hr
  frame id address _ := h.registered? id address
  shut id address box hb _ hshut := by
    rcases h.box box with hsame | ⟨hnone, -⟩
    · rw [Engine.Shut, hsame] at hshut
      exact .inl hshut
    · rw [Array.getElem?_eq_getElem hb] at hnone
      cases hnone
  orphan box ho := by
    obtain ⟨id, pinger, hp, hbox, hg⟩ := ho
    exact ⟨id, pinger, h.pinger_of_some hp, hbox, hg⟩
  boxes := h.boxCount

end Grows

/-! ## 7. Closed mailboxes -/

/-- A registered mailbox is closed only if its pinger is gone. -/
def Engine.Attended (e : Engine) : Prop :=
  ∀ id address box, e.registered? id address = some box → e.Shut box → e.Orphan box

/-- What is still keeps mailboxes attended, if new ones, and those of registrations that might have
ended, are open. -/
theorem Still.attended (h : Still may e e') (ha : e.Attended)
    (hopen : ∀ id address box, e'.registered? id address = some box →
      e.mailboxes.size ≤ box ∨ may id address → ¬ e'.Shut box) : e'.Attended := by
  intro id address box hr hshut
  by_cases hb : box < e.mailboxes.size
  · rcases h.shut id address box hb hr hshut with hold | hmay | horphan
    · exact h.orphan box (ha id address box (h.registered id address box hb hr) hold)
    · exact absurd hshut (hopen id address box hr (.inr hmay))
    · exact horphan
  · exact absurd hshut (hopen id address box hr (.inl (Nat.le_of_not_lt hb)))

/-- When no registration ends and no mailbox is new. -/
theorem Still.attended_of_none (h : Still (fun _ _ => False) e e') (ha : e.Attended)
    (hl : Listed e) : e'.Attended := by
  refine h.attended ha fun id address box hr hcase => ?_
  rw [h.frame id address fun hno => hno] at hr
  have hb := hl.known id address box (Engine.lists_of_registered? hr)
  rcases hcase with hnew | hno
  · exact absurd hb (Nat.not_lt.2 hnew)
  · exact hno.elim

end IcmpEcho
