/-
# Receives that somebody outside started

A raw receive waits on its socket, or its end is ready (`Engine.awaited`), until it is told.
Whatever else an engine does takes a receive that waits to the ready queue and does nothing more
about it (`Heeds`): hubs and pingers receive on sockets of their own, where no raw receive waits.
-/
import IcmpEcho.Proofs.Sends

namespace IcmpEcho

variable {e e' e'' : Engine} {hand hand' : Hand}

/-! ## 1. Counting -/

/-- The event is the end of a raw receive under a tag. -/
def Event.hears (tag : String) : Event → Bool
  | .received _ other _ _ _ => other = tag
  | _ => false

namespace Engine

/-- The raw receives under a tag that wait on a socket. -/
def rawWaiting (e : Engine) (tag : String) : Nat :=
  ∑ k ∈ Finset.range e.sockets.size, if e.waiter? (.socket k) = some (.raw tag) then 1 else 0

/-- The raw receives under a tag that wait or whose end is ready. -/
def awaited (e : Engine) (tag : String) : Nat := e.rawWaiting tag + e.posted (.raw tag)

/-- The count depends on who waits where, and on nothing else. -/
theorem rawWaiting_congr (hsize : e'.sockets.size = e.sockets.size)
    (hw : ∀ k, e'.waiter? (.socket k) = e.waiter? (.socket k)) (tag : String) :
    e'.rawWaiting tag = e.rawWaiting tag := by
  simp only [rawWaiting, hsize, hw]

/-- When another waits at one socket, only this one counts. -/
theorem rawWaiting_of_one {k : SocketId} (hk : k < e.sockets.size)
    (hsize : e'.sockets.size = e.sockets.size) {waiter : Option ReceiveClient}
    (hw : ∀ port, e'.waiter? port = if port = .socket k then waiter else e.waiter? port)
    (tag : String) :
    e'.rawWaiting tag + (if e.waiter? (.socket k) = some (.raw tag) then 1 else 0)
      = e.rawWaiting tag + if waiter = some (.raw tag) then 1 else 0 := by
  have hsum := sum_range_of_one hk
    (f := fun j => if e.waiter? (.socket j) = some (.raw tag) then 1 else 0)
    (g := fun j => if e'.waiter? (.socket j) = some (.raw tag) then 1 else 0)
    fun j hj => by simp only [hw, Port.socket.injEq, if_neg hj]
  simp only [hw (.socket k), if_true] at hsum
  simp only [rawWaiting, hsize]
  exact hsum

end Engine

/-! ## 2. Nothing is done about raw receives -/

/-- No raw receive is started or told. -/
structure Heeds (e e' : Engine) : Prop where
  wired : Wired e'
  awaited : ∀ tag, e'.awaited tag = e.awaited tag

namespace Heeds

/-- Nothing is done. -/
theorem refl (hw : Wired e) : Heeds e e := ⟨hw, fun _ => rfl⟩

theorem trans (h : Heeds e e') (h' : Heeds e' e'') : Heeds e e'' :=
  ⟨h'.wired, fun tag => (h'.awaited tag).trans (h.awaited tag)⟩

/-- The same receives wait, and the same are ready. -/
theorem of_same (hw : Wired e') (hsize : e'.sockets.size = e.sockets.size)
    (hwaiter : ∀ k, e'.waiter? (.socket k) = e.waiter? (.socket k))
    (hposted : ∀ tag, e'.posted (.raw tag) = e.posted (.raw tag)) : Heeds e e' := by
  refine ⟨hw, fun tag => ?_⟩
  rw [Engine.awaited, Engine.awaited, Engine.rawWaiting_congr hsize hwaiter, hposted]

/-- What is done aside leaves sockets and receives alone. -/
theorem of_aside (hw : Wired e) (h : Aside e e') : Heeds e e' :=
  of_same (hw.aside h) (by rw [h.sockets]) (fun _ => h.receives.waiter? _)
    fun _ => h.receives.posted _

/-- **A receive that passes on is not told.** -/
theorem of_passes (hw : Wired e) (h : Passes e e') : Heeds e e' := by
  refine ⟨hw.passes h, fun tag => ?_⟩
  cases h with
  | stays same waiter ready =>
    rw [Engine.awaited, Engine.awaited, Engine.posted_congr ready,
      Engine.rawWaiting_congr same.socketCount fun _ => waiter _]
  | posts port client task same listener proper was waiter ready =>
    have hfits := hw.waits port client was
    simp only [Engine.awaited]
    cases port with
    | box box =>
      -- no raw client waits at a mailbox
      have hne : task.listener? ≠ some (.raw tag) := by
        rw [listener]
        rintro heq
        obtain rfl := Option.some.inj heq
        exact hfits.elim
      rw [Engine.posted_append_of_ne ready hne,
        Engine.rawWaiting_congr same.socketCount fun k => (waiter _).trans (if_neg (by simp))]
    | socket k =>
      have hone := Engine.rawWaiting_of_one (hw.hasPort_of_fits hfits) same.socketCount waiter tag
      simp only [was, reduceCtorEq, if_false, Nat.add_zero, Option.some.injEq] at hone
      by_cases hclient : client = .raw tag
      · subst hclient
        rw [if_pos rfl] at hone
        rw [Engine.posted_append_self ready listener]
        omega
      · have hne : task.listener? ≠ some (.raw tag) := by simpa [listener] using hclient
        rw [if_neg hclient] at hone
        rw [Engine.posted_append_of_ne ready hne]
        omega

/-- **Hubs and pingers receive where no raw receive waits.** -/
theorem of_starts (hw : Wired e) {client : ReceiveClient} (hraw : ∀ tag, client ≠ .raw tag)
    (h : Starts client e e') : Heeds e e' := by
  refine ⟨hw.starts h, fun tag => ?_⟩
  simp only [Engine.awaited]
  cases h with
  | posts task same listener proper waiter ready =>
    have hne : task.listener? ≠ some (.raw tag) := by simpa [listener] using hraw tag
    rw [Engine.posted_append_of_ne ready hne,
      Engine.rawWaiting_congr same.socketCount fun _ => waiter _]
  | waits port same fits waiter ready =>
    rw [Engine.posted_congr ready]
    cases port with
    | box box =>
      rw [Engine.rawWaiting_congr same.socketCount fun k => (waiter _).trans (if_neg (by simp))]
    | socket k =>
      have hone := Engine.rawWaiting_of_one (hw.hasPort_of_fits fits) same.socketCount waiter tag
      -- a raw receive would fit only where no owner has its port
      have hown : e.waiter? (.socket k) ≠ some (.raw tag) := by
        intro hwaits
        have hport : e.port? client = some (.socket k) := by
          cases client with
          | raw other => exact absurd rfl (hraw other)
          | pinger id => exact fits
          | hub id => exact fits
        exact (hw.waits _ _ hwaits).2 client hport
      rw [if_neg hown, if_neg (by simpa using hraw tag)] at hone
      omega

/-- What is written into a socket is nothing to those who receive there. -/
theorem updateSocket (hw : Wired e) (socket : SocketId) {change : RawSocket → RawSocket}
    (hr : ∀ record, (change record).receiver = record.receiver) :
    Heeds e (e.updateSocket socket change) := by
  refine of_same (Calm.updateSocket hw socket hr).wired Array.size_modify (fun k => ?_) fun _ => rfl
  rw [Engine.waiter?_updateSocket]
  split
  · next h =>
    obtain rfl := Port.socket.inj h
    cases hs : e.sockets[k]? <;> simp [Engine.waiter?, hs, hr]
  · rfl

/-- At a mailbox no raw receive waits. -/
theorem closeMail (hw : Wired e) (box : MailboxId) (reason : ErrorCode) :
    Heeds e (e.closeMail box reason) := of_passes hw (.closeMail hw box reason)

/-- **A socket that is closed hands on the receive that waits there**; its end is ready then. -/
theorem closeSocket (hw : Wired e) (socket : SocketId) : Heeds e (e.closeSocket socket) := by
  unfold Engine.closeSocket
  split
  · exact refl hw
  · next record _ =>
    have hfail : ∀ works : Bool, Heeds e (if works then e
        else e.updateSocket socket fun record => { record with fatal := .aborted }) := by
      intro works
      cases works with
      | true => exact refl hw
      | false => exact updateSocket hw socket fun _ => rfl
    have hfailed := hfail record.fatal.isError
    have hcancelled := of_aside hfailed.wired (.cancelLimiter record.limiter)
    have hended := of_passes hcancelled.wired (.endReceive hcancelled.wired socket .aborted)
    exact ((hfailed.trans hcancelled).trans hended).trans
      (updateSocket hended.wired socket fun _ => rfl)

/-! ## 3. Acts -/

/-- **An act does nothing about raw receives**, if none is in the hand. -/
theorem act (h : Act hand e hand' e') (hs : Sound hand e)
    (hraw : ∀ tag, hand.busy ≠ some (.raw tag)) :
    Heeds e e' ∧ ∀ tag, hand'.busy ≠ some (.raw tag) := by
  have hw := (h.sound hs).wired
  -- what an act lends or gives back is the receive of a hub or a pinger
  have hlends : ∀ {client : ReceiveClient} {flag flag' : Bool} {busy : Option ReceiveClient},
      (∀ tag, client ≠ .raw tag) → Lends client flag flag' hand.busy busy →
      ∀ tag, busy ≠ some (.raw tag) := by
    intro client flag flag' busy hclient hl tag
    generalize hbusy : hand.busy = before at hl
    cases hl with
    | keeps => exact hbusy ▸ hraw tag
    | sets => simpa using hclient tag
    | clears => simp
  have hbusy : ∀ {client : ReceiveClient}, hand.busy = some client → ∀ tag, client ≠ .raw tag := by
    intro client hb tag heq
    exact hraw tag (by rw [hb, heq])
  cases h with
  | aside h => exact ⟨of_aside hs.wired h, hraw⟩
  | shut socket => exact ⟨updateSocket hs.wired socket fun _ => rfl, hraw⟩
  | fail hcode hf hubs => exact ⟨updateSocket hs.wired _ fun _ => rfl, hraw⟩
  | receive hb fits hroom =>
    exact ⟨of_starts hs.wired (hbusy hb) (.receive hs.wired fits _), by simp⟩
  | askMail hb fits => exact ⟨of_starts hs.wired (hbusy hb) (.askMail hs.wired _ fits), by simp⟩
  | endReceive socket => exact ⟨of_passes hs.wired (.endReceive hs.wired _ _), hraw⟩
  | closeMail hr hbox => exact ⟨closeMail hs.wired _ _, hraw⟩
  | hub hh socket entries registry frame fatal hu lends =>
    exact ⟨of_same hw rfl (fun _ => rfl) fun _ => rfl, hlends (by simp) lends⟩
  | pinger hp hg alike hu lends =>
    exact ⟨of_same hw rfl (fun _ => rfl) fun _ => rfl, hlends (by simp) lends⟩
  | sent id token timer =>
    refine ⟨?_, hraw⟩
    unfold Engine.refreshSent at hw ⊢
    split
    · exact refl hs.wired
    · next found hfound =>
      simp only [hfound] at hw
      exact of_same hw rfl (fun _ => rfl) fun _ => rfl
  | enter hu hp hg hi hfree => exact ⟨of_same hw rfl (fun _ => rfl) fun _ => rfl, hraw⟩
  | refuse hp hf =>
    refine ⟨of_same hw rfl (fun _ => rfl) fun tag => ?_, hraw⟩
    exact Engine.posted_append_of_ne rfl (by simp [Task.listener?])
  | take hp hcall => exact ⟨of_same hw rfl (fun _ => rfl) fun _ => rfl, hraw⟩
  | takeAll hp hg => exact ⟨of_same hw rfl (fun _ => rfl) fun _ => rfl, hraw⟩
  | disarm id token ht =>
    refine ⟨?_, hraw⟩
    unfold Engine.cancelAlarm at hw ⊢
    split
    · next hset =>
      rw [if_pos hset] at hw
      refine of_same hw rfl (fun _ => rfl) fun tag => ?_
      exact Engine.posted_append_of_ne rfl (by simp [Task.listener?])
    · exact refl hs.wired
  | @tell number ended ping code result hh hping hseq =>
    refine ⟨?_, hraw⟩
    cases hcaller : ping.caller with
    | scripted tag again =>
      rw [hcaller] at hw
      exact of_same hw rfl (fun _ => rfl) fun _ => rfl
    | target index =>
      let told : Engine := { e with
        endings := { ping := number, time := e.now, code, result } :: e.endings }
      have htold : Heeds e told := of_same { hs.wired with } rfl (fun _ => rfl) fun _ => rfl
      exact htold.trans (of_aside htold.wired (.targetAnswered index code result))
  | settle hu h => exact ⟨refl hs.wired, hraw⟩
  | unsettle client hu => exact ⟨refl hs.wired, hraw⟩
  | rest hb hl => exact ⟨refl hs.wired, by simp⟩
  | punctual hl hno => exact ⟨refl hs.wired, hraw⟩

/-- **A row of acts does nothing about raw receives.** -/
theorem acts (h : Acts hand e hand' e') (hs : Sound hand e)
    (hraw : ∀ tag, hand.busy ≠ some (.raw tag)) : Heeds e e' := by
  induction h with
  | nil => exact refl hs.wired
  | cons head rest ih =>
    obtain ⟨hhead, hraw'⟩ := act head hs hraw
    exact hhead.trans (ih (head.sound hs) hraw')

end Heeds

namespace Heeds

/-! ## 4. Done from outside -/

/-- One thing after another, each from an engine that is wired. -/
theorem foldl {α : Type} {f : Engine → α → Engine} (hf : ∀ e a, Wired e → Heeds e (f e a)) :
    ∀ (l : List α) {e : Engine} (_ : Wired e), Heeds e (l.foldl f e)
  | [], _, hw => refl hw
  | a :: l, e, hw => (hf e a hw).trans (foldl hf l (hf e a hw).wired)

/-- A pinger that goes takes no raw receive along, because none waits on its socket. -/
theorem removePinger (hw : Wired e) (id : PingerId) : Heeds e (e.removePinger id) := by
  unfold Engine.removePinger
  split
  · exact refl hw
  · next pinger hp =>
    let left := e.updatePinger id fun pinger => { pinger with gone := true }
    have hports : SamePorts e left := .updatePinger hp rfl
    have hleft : Wired left := hw.of_ports hports (fun port client hc => hw.waits port client hc)
      hw.tasks hw.later
    have hgone : Heeds e left := of_same hleft rfl (fun _ => rfl) fun _ => rfl
    dsimp only
    split
    · exact hgone.trans (closeMail hleft _ _)
    · exact hgone.trans (closeSocket hleft _)

/-- Who is to be let go later is nothing to receives. -/
theorem withReleased (hw : Wired e) (released : List PingerId) :
    Heeds e { e with released } :=
  of_same { hw with } rfl (fun _ => rfl) fun _ => rfl

theorem sweep (hw : Wired e) : Heeds e e.sweep := by
  have hreleased := withReleased hw (e.released.partition e.holds).1
  exact hreleased.trans (foldl (fun e id hw => removePinger hw id) _ hreleased.wired)

/-- A socket on which nobody waits is added. -/
theorem of_pushed (hw : Wired e') {record : RawSocket} (hidle : record.receiver = none)
    (hsockets : e'.sockets = e.sockets.push record)
    (hposted : ∀ tag, e'.posted (.raw tag) = e.posted (.raw tag)) : Heeds e e' := by
  refine ⟨hw, fun tag => ?_⟩
  have hsize : e'.sockets.size = e.sockets.size + 1 := by rw [hsockets, Array.size_push]
  have hnew : e'.waiter? (.socket e.sockets.size) = none := by
    simp [Engine.waiter?, hsockets, hidle]
  have hold : ∀ k ∈ Finset.range e.sockets.size,
      e'.waiter? (.socket k) = e.waiter? (.socket k) := by
    intro k hk
    have hne : k ≠ e.sockets.size := Nat.ne_of_lt (Finset.mem_range.1 hk)
    simp [Engine.waiter?, hsockets, Array.getElem?_push, hne]
  rw [Engine.awaited, Engine.awaited, hposted, Engine.rawWaiting, hsize, Finset.sum_range_succ, hnew]
  simp only [reduceCtorEq, if_false, Nat.add_zero]
  rw [Engine.rawWaiting, Finset.sum_congr rfl fun k hk => by rw [hold k hk]]

/-- On a socket that was just opened nobody waits. -/
theorem openSocket (hs : Sound {} e) (settings : SocketSettings) :
    Heeds e (e.openSocket settings).1 := by
  obtain ⟨record, hidle, haside, -⟩ := e.openSocket_grows settings
  exact of_pushed (Moved.openSocket hs settings).sound.wired hidle.receiver haside.sockets
    fun _ => haside.receives.posted _

theorem openHub (hs : Sound {} e) (settings : SocketSettings) :
    Heeds e (e.openHub settings).1 := by
  have hw := (Moved.openHub hs settings).sound.wired
  have hopened := openSocket hs settings
  unfold Engine.openHub at hw ⊢
  split at hw
  · next hopen =>
    simp only [hopen] at hopened ⊢
    exact hopened
  · next opened socket hopen =>
    simp only [hopen] at hopened ⊢
    exact hopened.trans (of_same hw rfl (fun _ => rfl) fun _ => rfl)

theorem createPinger (hs : Sound {} e) (destination : Address) (settings : SocketSettings) :
    Heeds e (e.createPinger destination settings).1 := by
  have hw := (Moved.createPinger hs destination settings).1.sound.wired
  have hopened := openSocket hs { settings with family := destination.family }
  unfold Engine.createPinger at hw ⊢
  split at hw
  · next hopen =>
    simp only [hopen] at hopened ⊢
    exact hopened
  · next opened socket hopen =>
    simp only [hopen] at hopened ⊢
    exact hopened.trans (of_same hw rfl (fun _ => rfl) fun _ => rfl)

/-- A registration receives at a mailbox, and its hub on the hub's own socket. -/
theorem register (hs : Sound {} e) (id : HubId) (destination : Address) :
    Heeds e (e.register id destination).1 := by
  have hw := (Moved.register hs id destination).1.sound.wired
  rcases e.register_cases id destination with ⟨failure, hregister⟩ | ⟨hub, hh, hregister⟩
  · rw [hregister]
    exact refl hs.wired
  · rw [hregister] at hw ⊢
    obtain ⟨hentered, -⟩ := Moved.enterBox hs hh destination
    have hboxed : Heeds e ((e.addMailbox 100).1.enterBox id destination e.mailboxes.size) :=
      of_same hentered.wired rfl (fun _ => rfl) fun _ => rfl
    have hstarted := acts (Acts.startRegistration hs hh destination) hentered (by simp)
    exact (hboxed.trans hstarted).trans (of_same hw rfl (fun _ => rfl) fun _ => rfl)

/-- **A datagram that comes in ends receives, but tells of none.** -/
theorem deliver (hw : Wired e) (source : Address) (data : Bytes) :
    Heeds e (e.deliver source data) := by
  have hnoted : Heeds e { e with arrivals := (source, data) :: e.arrivals } :=
    of_same { hw with } rfl (fun _ => rfl) fun _ => rfl
  exact hnoted.trans (foldl (fun e socket hw => of_passes hw (.deliverTo hw source data socket)) _
    hnoted.wired)

/-- Neither does a failure of receives. -/
theorem failReceives (hw : Wired e) (family : Family) (errno : Int) (only : Option SocketId) :
    Heeds e (e.failReceives family errno only) := by
  refine foldl (fun e socket hw => ?_) _ hw
  split
  · exact refl hw
  · split
    · exact of_passes hw (.endReceive hw _ _)
    · exact refl hw

/-- **What is done from outside does nothing about raw receives.** -/
theorem outer (h : Engine.Outer e e') (hs : Sound {} e) : Heeds e e' := by
  have hw := hs.wired
  cases h with
  | openSocket settings => exact openSocket hs settings
  | openHub settings => exact openHub hs settings
  | createPinger destination settings => exact createPinger hs destination settings
  | register id destination => exact register hs id destination
  | configure hp hg alike receiving =>
    have hact : Acts {} e {} (e.updatePinger _ _) := .configure hs hp hg alike receiving
    exact acts hact hs (by simp)
  | @ping id hk sequence caller =>
    have hrow : Acts {} e {} (e.ping id sequence caller) := by
      refine Acts.ping hs (fun pinger hp => ?_) _ _
      obtain ⟨⟨pinger', hp', hg⟩, -⟩ := hk
      obtain rfl := Option.some.inj (hp.symm.trans hp')
      exact hg
    exact acts hrow hs (by simp)
  | closeSocket hraw => exact closeSocket hw _
  | closeHub id =>
    have hmay := hs.withMay fun _ _ => True
    exact acts (Acts.closeHub hmay id fun _ => trivial) hmay (by simp)
  | @releasePinger id hk ht =>
    have hreleased := withReleased hw (e.released ++ [id])
    exact hreleased.trans (sweep hreleased.wired)
  | cancelSocket hraw => exact of_passes hw (.endReceive hw _ _)
  | deliver source data => exact deliver hw source data
  | schedule time source data => exact of_aside hw (.schedule rfl)
  | failReceives family errno only => exact failReceives hw family errno only
  | logLevel level => exact of_same { hw with } rfl (fun _ => rfl) fun _ => rfl
  | logAbout address severity message => exact of_aside hw (.logAbout _ _ _)
  | serve service => exact of_same { hw with } rfl (fun _ => rfl) fun _ => rfl

theorem outers (h : Engine.Outers e e') (hw : Wired e) : Heeds e e' := by
  refine h.lift (R := fun e e' => Wired e → Heeds e e') (fun _ hw => refl hw)
    (fun h h' hw => (h hw).trans (h' (h hw).wired)) (fun hs h _ => outer h hs) hw

end Heeds

/-! ## 5. Tasks, items and deeds -/

namespace Heeds

/-- A socket that fails keeps the receive that waits there. -/
theorem failSocket (hw : Wired e) (k : SocketId) (code : ErrorCode) :
    Heeds e (e.failSocket k code) := by
  unfold Engine.failSocket
  split
  · exact refl hw
  · have hfailed : Heeds e (e.updateSocket k fun record => { record with fatal := code }) :=
      updateSocket hw k fun _ => rfl
    exact hfailed.trans (of_aside hfailed.wired (.logDated _ _))

/-- **A task that is taken off the queue tells at most its own receive.** -/
theorem perform (hs : Sound {} e) {front back : List Task} {task : Task}
    (hr : e.ready = front ++ task :: back) :
    Heeds { e with ready := front ++ back } ({ e with ready := front ++ back }.perform task) := by
  let rest : Engine := { e with ready := front ++ back }
  obtain ⟨hsound, htaken⟩ := hs.consume hr
  have hw : Wired rest := hsound.wired
  have hrecord : ∀ {e : Engine} {event : Event}, Wired e → event.done? = none →
      Heeds e (e.record event) := fun hw hd => of_aside hw (.record hd)
  -- a task with no raw receive in its hand is a row of acts; the others are gone through one by one
  have hrow : (∀ tag, (Hand.of task).busy ≠ some (.raw tag)) → Heeds rest (rest.perform task) := by
    intro hraw
    have hpasses := Engine.passes_offered hw task
    exact (of_passes hw hpasses).trans (acts (Acts.perform hsound htaken) (hsound.passes hpasses) hraw)
  cases task with
  | received k client code source data =>
    cases client with
    | raw tag =>
      simp only [Engine.perform, Engine.socketReceived]
      split
      · exact hrecord hw rfl
      · split
        · exact hrecord hw rfl
        · have hfailed := failSocket hw k code
          exact hfailed.trans (hrecord hfailed.wired rfl)
    | _ => exact hrow (by simp [Hand.of, Task.listener?])
  | noReceive client code =>
    cases client with
    | raw tag => exact hrecord hw rfl
    | _ => exact hrow (by simp [Hand.of, Task.listener?])
  | mail reader code letter =>
    cases reader with
    | labelled box label again =>
      obtain ⟨box, hfits⟩ := htaken.proper
      exact hfits.elim
    | pinger id => exact hrow (by simp [Hand.of, Task.listener?, Reader.client])
  | _ => exact hrow (by simp [Hand.of, Task.listener?])

/-- **Whatever happens on the timeline tells of no receive.** -/
theorem item (hw : Wired e) {front back : List (Time × Happening)} {time : Time}
    {item : Happening} (ht : e.timeline = front ++ (time, item) :: back) :
    Heeds e ({ e with timeline := front ++ back }.happen item) := by
  let rest : Engine := { e with timeline := front ++ back }
  have hsub : ∀ entry ∈ front ++ back, entry ∈ e.timeline := fun entry hentry =>
    (sublist_of_taken ht).subset hentry
  have hrest : Wired rest := hw.of_ports ⟨fun client => by cases client <;> rfl, rfl, rfl⟩
    (fun port client hc => hw.waits port client (by cases port <;> exact hc)) hw.tasks
    (fun time task hmem => hw.later time task (hsub _ hmem))
  have hfirst : Heeds e rest := of_same hrest rfl (fun _ => rfl) fun _ => rfl
  have hpost : ∀ {e : Engine} {task : Task}, Wired e → task.isCore = false →
      Heeds e (e.post task) := fun hw hc => of_aside hw (.post hc)
  cases item with
  | ring alarm =>
    refine hfirst.trans (of_same ?_ rfl (fun _ => rfl) fun tag => ?_)
    · refine hrest.of_ports ⟨fun client => by cases client <;> rfl, rfl, rfl⟩
        (fun port client hc => hrest.waits port client (by cases port <;> exact hc))
        (fun task hmem => ?_) hrest.later
      rcases List.mem_append.1 hmem with hold | hnew
      · exact hrest.tasks task hold
      · obtain rfl := List.mem_singleton.1 hnew
        trivial
    · exact Engine.posted_append_of_ne rfl (by simp [Task.listener?])
  | ready task =>
    have hcore : task.isCore = false :=
      hw.later time task (ht ▸ List.mem_append_right _ List.mem_cons_self)
    exact hfirst.trans (hpost hrest hcore)
  | deliver source data => exact hfirst.trans (deliver hrest source data)
  | signal number =>
    simp only [Engine.happen]
    split
    · have hcalm : Heeds rest { rest with awaitsSignal := false } :=
        of_same { hrest with } rfl (fun _ => rfl) fun _ => rfl
      exact (hfirst.trans hcalm).trans (hpost hcalm.wired rfl)
    · exact hfirst

end Heeds

/-- A service begins with a round. -/
theorem Heeds.startService (hs : Sound {} e) : Heeds e e.startService := by
  have hwaits : Aside e { e with awaitsSignal := true } := .awaitsSignal true
  have hbegun := hwaits.trans (.logDated .warn ("pingmux service started with "
    ++ toString ((e.service.map fun service => service.targets.size).getD 0) ++ " target(s)"))
  have hmoved := Moved.of_aside hs hbegun
  exact (Heeds.of_aside hs.wired hbegun).trans
    (.acts (.startRound hmoved.sound) hmoved.sound (by simp))

/-! ## 6. A raw receive is started, and told -/

namespace Engine

/-- **A raw receive is started** where none waits: it waits, or its end is ready. -/
theorem awaited_receive (hw : Wired e) {k : SocketId} {tag : String}
    (hf : e.Fits (.raw tag) (.socket k)) (hfree : e.waiter? (.socket k) = none) (room : Nat)
    (other : String) :
    (e.receive k (.raw tag) room).awaited other
      = e.awaited other + if tag = other then 1 else 0 := by
  have hposted : ∀ {e' : Engine} {task : Task}, task.listener? = some (.raw tag) →
      e'.rawWaiting other = e.rawWaiting other → e'.ready = e.ready ++ [task] →
      e'.awaited other = e.awaited other + if tag = other then 1 else 0 := by
    intro e' task hl hwaiting hready
    rw [awaited, awaited, hwaiting]
    split
    · next heq =>
      rw [posted_append_self hready (heq ▸ hl), Nat.add_assoc]
    · next hne =>
      rw [posted_append_of_ne hready (by simpa [hl] using hne), Nat.add_zero]
  obtain ⟨record, hs⟩ : ∃ record, e.sockets[k]? = some record :=
    ⟨_, Array.getElem?_eq_getElem (hw.hasPort_of_fits hf)⟩
  simp only [Engine.receive, hs]
  split
  · exact @hposted _ (.noReceive (.raw tag) record.fatal) rfl rfl rfl
  · split
    · next datagram rest _ =>
      refine @hposted _ (receipt k (.raw tag) room datagram) rfl ?_ rfl
      refine rawWaiting_congr (by simp [post, updateSocket]) (fun j => ?_) other
      rw [waiter?_post, waiter?_setReceiver hs]
      split
      · next hport => rw [hport, waiter?_socket hs]
      · rfl
    · have hone := @rawWaiting_of_one e
        (e.updateSocket k fun record => { record with receiver := some (.raw tag, room) }) k
        (hw.hasPort_of_fits hf) (by simp [updateSocket]) (some (.raw tag)) (waiter?_setReceiver hs)
        other
      simp only [hfree, reduceCtorEq, if_false, Nat.add_zero, Option.some.injEq,
        ReceiveClient.raw.injEq] at hone
      have hready : (e.updateSocket k fun record =>
          { record with receiver := some (.raw tag, room) }).posted (.raw other)
            = e.posted (.raw other) := rfl
      rw [awaited, awaited, hone, hready]
      omega

/-- A task that is taken off the queue takes the receive along whose end it is. -/
theorem awaited_of_taken {front back : List Task} {task : Task}
    (hready : e.ready = front ++ task :: back) (tag : String) :
    e.awaited tag = ({ e with ready := front ++ back } : Engine).awaited tag
      + if task.listener? = some (.raw tag) then 1 else 0 := by
  have hwaiting : ({ e with ready := front ++ back } : Engine).rawWaiting tag = e.rawWaiting tag :=
    rfl
  rw [awaited, awaited, hwaiting, posted, posted, hready, List.countP_append, List.countP_cons,
    List.countP_append]
  simp only [decide_eq_true_eq]
  omega

end Engine

end IcmpEcho
