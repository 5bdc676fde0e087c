/-
# The life of a raw socket

A socket fails once, by being closed or by the first receive on it that fails, and stays as it
failed; giving a receive up is no failure.  From then on it sends nothing.  Whoever asks it to send
or receive is told the reason of the failure.  What its limiter holds is turned away when the socket
is closed, and otherwise has its turn and is told the reason then.  This is what one thing that
happens to a session does to its sockets (`Session.Ages`).

Over a whole run every raw send is in one place (`Session.Run.sends`): its limiter holds it, or its
end is due, or its end was told.  So is every raw receive, as long as each is started only when none
waits on its socket (`Session.Run.receives`).  Only tasks tell anything, and each tells the end that
it is about.  `Session.socket_life` puts all of this together.
-/
import Mathlib
import IcmpEcho.Proofs.Conveying
import IcmpEcho.Proofs.RawReceives

namespace IcmpEcho

/-- **An item of the timeline happens**; a task that becomes ready with it is taken along. -/
theorem Ferries.item {e : Engine} (hm : e.Metered) {front back : List (Time × Happening)}
    {time : Time} {item : Happening} (ht : e.timeline = front ++ (time, item) :: back) :
    Ferries [] e ({ e with timeline := front ++ back }.happen item) := by
  have htaken : item.isReady = false → Beside e { e with timeline := front ++ back } := fun hi =>
    { Beside.refl e with timeline := by simp [ht, hi] }
  cases item with
  | ring alarm => exact .of_beside ((htaken rfl).trans (.post rfl)) hm
  | deliver source data => exact .of_beside ((htaken rfl).trans (.of_inward (.deliver _ _))) hm
  | signal number =>
    refine .of_beside ((htaken rfl).trans ?_) hm
    simp only [Engine.happen]
    split
    · exact { Beside.refl _ with ready := by simp [Engine.post, Task.isSend] }
    · exact .refl _
  | ready task =>
    have hsub : ∀ entry ∈ front ++ back, entry ∈ e.timeline := fun entry hentry =>
      (sublist_of_taken ht).subset hentry
    have hdue : ∀ q p, ({ e with timeline := front ++ back }.post task).due q p = e.due q p := by
      intro q p
      have hitem : (Happening.ready task).ends q p = task.ends q p := rfl
      rw [Engine.due_post]
      simp only [Engine.due, ht, List.countP_append, List.countP_cons, hitem]
      cases task.ends q p
      · rfl
      · simp only [if_true, Bool.toNat_true]
        omega
    have hmetered : ({ e with timeline := front ++ back }.post task).Metered := { hm with
      ready := fun other hother => by
        rcases List.mem_append.1 hother with hold | hnew
        · exact hm.ready other hold
        · obtain rfl := List.mem_singleton.1 hnew
          exact hm.timeline _ (ht ▸ List.mem_append_right _ List.mem_cons_self) _ rfl
      timeline := fun entry hentry => hm.timeline entry (hsub entry hentry) }
    exact
      { Ferries.refl hm with
        metered := hmetered
        due := fun q p => (hdue q p).ge
        total := fun q => by
          rw [Engine.happen, hdue]
          rfl
        aborts := fun k q => by
          rw [Engine.happen, hdue]
          exact Nat.le_refl _ }

namespace Session

variable {s s' s'' : Session} {deed : Deed} {k : SocketId} {name tag : String}

/-! ## 1. What a deed does -/

namespace Deed

/-- The sends of `q` that a deed ends with a code of `p`. -/
def ended (deed : Deed) (q : SendClient → Bool) (p : ErrorCode → Bool) : Nat :=
  match deed with
  | .task performed => (performed.ends q p).toNat
  | _ => 0

/-- What a deed tells at a time of how raw sends and receives ended. -/
def tells (deed : Deed) (now : Time) : List Event :=
  match deed with
  | .task performed => performed.tells now
  | _ => []

/-- The limiter of a socket wakes. -/
def wakes (deed : Deed) (k : SocketId) : Prop := ∃ code, deed = .task (.rang (.limiter k) code)

/-- A receive on a socket that failed with a code, other than by being given up, is told. -/
def fails (deed : Deed) (k : SocketId) (code : ErrorCode) : Prop :=
  ∃ client source data, deed = .task (.received k client code source data) ∧
    code.isError ∧ code ≠ .aborted

/-- The raw sends under a tag that a deed starts. -/
def sends (s : Session) (tag : String) : Deed → Nat
  | .step (.send name _ _ other) =>
    match s.handle? name with
    | some (.socket _) => if other = tag then 1 else 0
    | _ => 0
  | _ => 0

/-- The raw receives under a tag that a deed starts. -/
def receives (s : Session) (tag : String) : Deed → Nat
  | .step (.receive name _ other) =>
    match s.handle? name with
    | some (.socket _) => if other = tag then 1 else 0
    | _ => 0
  | _ => 0

/-- A deed that starts a raw receive does so while none waits on the socket. -/
def inTurn (s : Session) : Deed → Prop
  | .step (.receive name _ _) =>
    ∀ k, s.handle? name = some (.socket k) → s.engine.waiter? (.socket k) = none
  | _ => True

end Deed

/-- The client is a raw one with this tag. -/
def isRaw (tag : String) (client : SendClient) : Bool := client = .raw tag

/-- The event is the end of a raw send under a tag. -/
def isSent (tag : String) : Event → Bool
  | .sent _ other _ _ => other = tag
  | _ => false

/-- A task tells the end of a send if it is about a raw one. -/
theorem countP_tells (task : Task) (now : Time) :
    (task.tells now).countP (isSent tag) = (task.ends (isRaw tag) fun _ => true).toNat := by
  have hraw : ∀ other code count, ([.sent now other code count] : List Event).countP (isSent tag)
      = (isRaw tag (.raw other)).toNat := by
    intro other code count
    by_cases h : other = tag <;> simp [isSent, isRaw, h]
  have hcall : ∀ id token timer, isRaw tag (.call id token timer) = false := by simp [isRaw]
  cases task with
  | sent client code count =>
    cases client with
    | raw other => simpa [Task.tells, Task.ends] using hraw other code count
    | call id token timer => simp [Task.tells, Task.ends, hcall]
  | turnedAway sender =>
    cases sender with
    | labelled limiter label again => simp [Task.tells, Task.ends, Sender.isOf]
    | datagram k packet destination client =>
      cases client with
      | raw other => simpa [Task.tells, Task.ends, Sender.isOf] using hraw other .aborted 0
      | call id token timer => simp [Task.tells, Task.ends, Sender.isOf, hcall]
  | received k client code source data =>
    cases client with
    | raw other =>
      simp only [Task.tells]
      split <;> simp [isSent, Task.ends]
    | _ => simp [Task.tells, Task.ends]
  | noReceive client code => cases client <;> simp [Task.tells, Task.ends, isSent]
  | _ => simp [Task.tells, Task.ends]

/-- **A task tells the end of a receive** if it is about a raw one. -/
theorem countP_hears {e : Engine} {task : Task} (hp : e.Proper task) (now : Time) :
    (task.tells now).countP (Event.hears tag)
      = if task.listener? = some (.raw tag) then 1 else 0 := by
  cases task with
  | sent client code count =>
    cases client <;> simp [Task.tells, Task.listener?, Event.hears]
  | turnedAway sender =>
    cases sender with
    | labelled limiter label again => simp [Task.tells, Task.listener?]
    | datagram k packet destination client =>
      cases client <;> simp [Task.tells, Task.listener?, Event.hears]
  | received k client code source data =>
    cases client with
    | raw other =>
      simp only [Task.tells, Task.listener?]
      split <;> simp [Event.hears]
    | _ => simp [Task.tells, Task.listener?]
  | noReceive client code =>
    cases client <;> simp [Task.tells, Task.listener?, Event.hears]
  | mail reader code letter =>
    cases reader with
    | labelled box label again =>
      obtain ⟨box, hfits⟩ := hp
      exact hfits.elim
    | pinger id => simp [Task.tells, Task.listener?, Reader.client]
  | _ => simp [Task.tells, Task.listener?]

/-! ## 2. Sends -/

/-- Every socket that somebody holds has a limiter. -/
structure Stocked (s : Session) : Prop where
  metered : s.engine.Metered
  limiter : ∀ name k, (name, .socket k) ∈ s.handles → (s.engine.limiter? k).isSome

/-- What a deed does about sends. -/
def Carries (s : Session) (deed : Deed) (s' : Session) : Prop :=
  ∃ clients, (∀ tag, clients.countP (isRaw tag) = deed.sends s tag) ∧
    Conveys deed.wakes deed.fails (fun q p => deed.ended q p) (deed.tells s.engine.now) clients
      s.engine s'.engine

theorem countP_isRaw_of_calls {clients : List SendClient}
    (h : ∀ client ∈ clients, client.isCall) (tag : String) : clients.countP (isRaw tag) = 0 := by
  refine List.countP_eq_zero.2 fun client hclient hraw => ?_
  have hcall := h client hclient
  rw [of_decide_eq_true hraw] at hcall
  cases hcall

/-- A deed that does nothing but a row. -/
theorem carries_of_hauls (hm : s.engine.Metered) (h : Engine.Hauls s.engine s'.engine)
    (hsends : ∀ tag, deed.sends s tag = 0) (hended : ∀ q p, deed.ended q p = 0)
    (htells : ∀ now, deed.tells now = []) : Carries s deed s' := by
  obtain ⟨clients, hcalls, hferries⟩ := Ferries.hauls h hm
  refine ⟨clients, fun tag => ?_, ?_⟩
  · rw [countP_isRaw_of_calls hcalls, hsends]
  · simp only [hended, htells]
    exact .of_ferries hferries

/-- The engine of a session after a socket was used by name. -/
theorem engine_useSocket (act : Engine → SocketId → Engine) :
    (s.use name fun engine handle =>
      match handle with
      | .socket socket => act engine socket
      | _ => engine).engine
    = match s.handle? name with
      | some (.socket k) => act s.engine k
      | _ => s.engine := by
  unfold Session.use
  split
  · next hnone => rw [hnone]
  · next handle hhandle =>
    rw [hhandle]
    cases handle <;> rfl

theorem exists_socket (hs : s.Sound) (h : s.handle? name = some (.socket k)) :
    ∃ record, s.engine.sockets[k]? = some record := by
  have hk := (hs.sockets name k (mem_of_handle? h) "").1
  exact ⟨_, Array.getElem?_eq_getElem hk⟩

/-- Whatever is asked of the session from outside, only a raw send is one. -/
theorem Stocked.carries_step (hm : s.Stocked) (hs : s.Sound) {step : Step}
    (hrun : ∀ duration, step ≠ .run duration) : Carries s (.step step) (s.perform step).1 := by
  have hmetered := hm.metered
  by_cases hraw : step.isRaw = false
  · refine carries_of_hauls hmetered (.outers (hs.perform_outers hrun hraw)) (fun tag => ?_)
      (fun _ _ => rfl) fun _ => rfl
    cases step <;> simp_all [Deed.sends, Step.isRaw]
  · cases step with
    | send name destination data other =>
      have hengine : (s.perform (.send name destination data other)).1.engine
          = match s.handle? name with
            | some (.socket k) => s.engine.submit k data destination (.raw other)
            | _ => s.engine :=
        engine_useSocket fun e k => e.submit k data destination (.raw other)
      simp only [Carries, Deed.sends, Deed.ended, Deed.tells, hengine]
      split
      · next k hhandle =>
        obtain ⟨record, hrecord⟩ := exists_socket hs hhandle
        refine ⟨[.raw other], fun tag => ?_, .of_ferries (.submit hmetered hrecord
          (hm.limiter name k (mem_of_handle? hhandle)) _ _ _)⟩
        by_cases h : other = tag <;> simp [isRaw, h]
      · exact ⟨[], fun tag => rfl, .of_ferries (.refl hmetered)⟩
    | receive name room other =>
      have hengine : (s.perform (.receive name room other)).1.engine
          = match s.handle? name with
            | some (.socket k) => s.engine.receive k (.raw other) room
            | _ => s.engine :=
        engine_useSocket fun e k => e.receive k (.raw other) room
      refine carries_of_hauls hmetered ?_ (fun _ => rfl) (fun _ _ => rfl) fun _ => rfl
      rw [hengine]
      split
      · exact .beside (.receive _ _ _)
      · exact .nil _
    | _ => exact absurd rfl hraw

/-- A task conveys what it is about, and what it does besides are sends of pingers. -/
theorem Stocked.carries_task (hm : s.Stocked) {front back : List Task} {task : Task}
    (h : s.engine.ready = front ++ task :: back) :
    Carries s (.task task)
      { s with engine := ({ s.engine with ready := front ++ back }.perform task).sweep } := by
  let rest : Engine := { s.engine with ready := front ++ back }
  obtain ⟨hrest, hplain⟩ : rest.Metered ∧ task.isPlain := hm.metered.taken h
  obtain ⟨clients, hcalls, hperform⟩ : ∃ clients, (∀ client ∈ clients, client.isCall) ∧
      Conveys (Deed.wakes (.task task)) (Deed.fails (.task task)) (fun _ _ => 0)
        (task.tells rest.now) clients rest (rest.perform task) :=
    Conveys.perform hrest hplain (fun k code heq => ⟨code, by rw [heq]⟩)
      fun k client code source data heq hcode haborted =>
        ⟨client, source, data, by rw [heq], hcode, haborted⟩
  obtain ⟨clients', hcalls', hsweep⟩ :=
    Ferries.hauls (@Engine.Hauls.sweep (rest.perform task)) hperform.metered
  refine ⟨clients ++ clients', fun tag => countP_isRaw_of_calls (fun client hclient => ?_) tag,
    (Conveys.of_task h hperform).ferries hsweep⟩
  rcases List.mem_append.1 hclient with hfirst | hlater
  · exact hcalls client hfirst
  · exact hcalls' client hlater

/-- An item of the timeline may post the end of a send, and sends nothing. -/
theorem Stocked.carries_item (hm : s.Stocked) {front back : List (Time × Happening)} {time : Time}
    {item : Happening} (h : s.engine.timeline = front ++ (time, item) :: back) :
    Carries s (.item item)
      { s with engine := ({ s.engine with timeline := front ++ back }.happen item).sweep } := by
  have hferries := Ferries.item hm.metered h
  obtain ⟨clients, hcalls, hsweep⟩ :=
    Ferries.hauls (@Engine.Hauls.sweep ({ s.engine with timeline := front ++ back }.happen item))
      hferries.metered
  exact ⟨clients, fun tag => countP_isRaw_of_calls hcalls tag, .of_ferries (hferries.trans hsweep)⟩

/-- **What a deed does about sends.** -/
theorem Does.carries (h : Does s deed s') (hs : s.Sound) (hm : s.Stocked) : Carries s deed s' := by
  have hmetered := hm.metered
  cases h with
  | step step hrun => exact hm.carries_step hs hrun
  | task h => exact hm.carries_task h
  | item h => exact hm.carries_item h
  | clock now =>
    exact carries_of_hauls hmetered (.beside { Beside.refl s.engine with }) (fun _ => rfl)
      (fun _ _ => rfl) fun _ => rfl
  | network network =>
    exact carries_of_hauls hmetered (.beside { Beside.refl s.engine with }) (fun _ => rfl)
      (fun _ _ => rfl) fun _ => rfl
  | openService config =>
    exact carries_of_hauls hmetered (.outers (.openService hs.engine hs.remembers config))
      (fun _ => rfl) (fun _ _ => rfl) fun _ => rfl
  | startService =>
    exact carries_of_hauls hmetered .startService (fun _ => rfl) (fun _ _ => rfl) fun _ => rfl
  | endService =>
    exact carries_of_hauls hmetered .endService (fun _ => rfl) (fun _ _ => rfl) fun _ => rfl

/-! ## 3. Sockets have limiters -/

/-- A socket that got a name was opened just now. -/
theorem socket_of_hold {e : Engine} {made : Except Failure Handle} {other : String}
    (h : (name, .socket k) ∈ (s.hold other (e, made)).1.handles) :
    (name, .socket k) ∈ s.handles ∨ made = .ok (.socket k) := by
  cases made with
  | error failure => exact .inl h
  | ok handle =>
    rcases List.mem_append.1 h with hold | hnew
    · unfold Session.drop at hold
      split at hold
      · exact .inl hold
      · exact .inl (List.mem_filter.1 hold).1
    · obtain ⟨-, rfl⟩ := Prod.mk.inj (List.mem_singleton.1 hnew)
      exact .inr rfl

theorem handles_use (act : Engine → Handle → Engine) : (s.use name act).handles = s.handles := by
  unfold Session.use
  split
  · rfl
  · rfl

/-- A socket with a name had it before, or was opened just now. -/
theorem Does.socket (h : Does s deed s') (hmem : (name, .socket k) ∈ s'.handles) :
    (name, .socket k) ∈ s.handles ∨
      ∃ other settings, deed = .step (.openSocket other settings) ∧
        (s.engine.openSocket settings).2 = .ok k := by
  have hno : ∀ {α : Type} {f : α → Handle} {made : Except Failure α},
      (∀ a, f a ≠ .socket k) → made.map f ≠ .ok (.socket k) := by
    intro α f made hf heq
    obtain ⟨a, -, ha⟩ := eq_ok_of_map heq
    exact hf a ha
  cases h with
  | step step hrun =>
    cases step with
    | openSocket other settings =>
      refine (socket_of_hold hmem).imp_right fun hmade => ⟨other, settings, rfl, ?_⟩
      obtain ⟨socket, hopen, hsame⟩ := eq_ok_of_map hmade
      exact Handle.socket.inj hsame ▸ hopen
    | openHub other settings =>
      exact .inl ((socket_of_hold hmem).resolve_right (hno (by simp)))
    | create other destination settings =>
      exact .inl ((socket_of_hold hmem).resolve_right (hno (by simp)))
    | register other hub destination =>
      exact .inl ((socket_of_hold hmem).resolve_right (hno (by simp)))
    | drop other =>
      simp only [Session.perform, Session.drop] at hmem
      split at hmem
      · exact .inl hmem
      · exact .inl (List.mem_filter.1 hmem).1
    | run duration => exact absurd rfl (hrun duration)
    | deliver | failReceives | logLevel => exact .inl hmem
    | _ =>
      simp only [Session.perform, handles_use] at hmem
      exact .inl hmem
  | _ => exact .inl hmem

/-- **A socket that was opened has a limiter.** -/
theorem limiter_openSocket {e : Engine} (hm : e.Metered) {settings : SocketSettings}
    (h : (e.openSocket settings).2 = .ok k) :
    ((e.openSocket settings).1.limiter? k).isSome := by
  obtain ⟨record, slot, -, -, -, -, hbeside, hopened⟩ := e.openSocket_beside settings
  obtain ⟨rfl, hslot⟩ := hopened k h
  rw [Engine.limiter?, hbeside.limiters]
  exact (congrArg Option.isSome (Engine.limiter?_pushSocket _)).trans
    (by rw [if_pos hm.count.symm]; exact hslot)

theorem Does.stocked (h : Does s deed s') (hs : s.Sound) (hm : s.Stocked) : s'.Stocked := by
  obtain ⟨clients, -, hconveys⟩ := h.carries hs hm
  refine ⟨hconveys.metered, fun name k hmem => ?_⟩
  rcases h.socket hmem with hold | ⟨other, settings, rfl, hopen⟩
  · exact hconveys.furnished k (hm.limiter name k hold)
  · have hopened := Ferries.openSocket hm.metered settings
    have hlimiter := limiter_openSocket hm.metered hopen
    cases h with
    | step step hrun =>
      have hengine : (s.perform (.openSocket other settings)).1.engine
          = (Session.drop { s with engine := (s.engine.openSocket settings).1 } other).engine := by
        simp only [Session.perform, Session.hold, hopen, Except.map]
      have hdrop := (hs.moved (Moved.openSocket hs.engine settings)).drop_outers other
      obtain ⟨clients', -, hdropped⟩ := Ferries.hauls (.outers hdrop) hopened.metered
      rw [hengine]
      exact hdropped.furnished k hlimiter

theorem stocked_fresh (network : Network) (logLevel : Int) (logFile : Option String)
    (files : List (String × String)) (signals : List (Time × Int)) :
    (fresh network logLevel logFile files signals).Stocked := by
  let start : Engine := { network, logLevel, logFile, files }
  have hstart : start.Metered := {
    count := rfl
    own := fun k record hrecord => by simp [start] at hrecord
    senders := fun k sender hsender => by simp [Engine.heldIn, Engine.limiter?, start] at hsender
    shut := fun k record hrecord => by simp [start] at hrecord
    ready := fun task ht => by simp [start] at ht
    timeline := fun entry hentry => by simp [start] at hentry }
  have hsignals : Beside start (start.withSignals signals) :=
    List.foldlRecOn _ _ (.refl start) fun next h signal _ => h.trans (.schedule rfl)
  exact ⟨hsignals.metered hstart, fun name k hmem => by cases hmem⟩

/-! ## 4. Receives -/

/-- **What a deed does about receives**, if a raw one is started only where none waits. -/
theorem Does.awaits (h : Does s deed s') (hs : s.Sound) (hturn : deed.inTurn s) (tag : String) :
    s'.engine.awaited tag + (deed.tells s.engine.now).countP (Event.hears tag)
      = s.engine.awaited tag + deed.receives s tag := by
  have he := hs.engine
  have hheeds : Heeds s.engine s'.engine → deed.tells s.engine.now = [] →
      deed.receives s tag = 0 → s'.engine.awaited tag
        + (deed.tells s.engine.now).countP (Event.hears tag)
        = s.engine.awaited tag + deed.receives s tag := by
    intro hheeds htells hreceives
    rw [hheeds.awaited, htells, hreceives]
    rfl
  cases h with
  | step step hrun =>
    by_cases hraw : step.isRaw = false
    · refine hheeds (.outers (hs.perform_outers hrun hraw) he.wired) rfl ?_
      cases step <;> simp_all [Deed.receives, Step.isRaw]
    · cases step with
      | send name destination data other =>
        refine hheeds ?_ rfl rfl
        have hengine : (s.perform (.send name destination data other)).1.engine
            = match s.handle? name with
              | some (.socket k) => s.engine.submit k data destination (.raw other)
              | _ => s.engine :=
          engine_useSocket fun e k => e.submit k data destination (.raw other)
        rw [hengine]
        split
        · exact .of_aside he.wired (.submit _ _ _ _)
        · exact .refl he.wired
      | receive name room other =>
        have hengine : (s.perform (.receive name room other)).1.engine
            = match s.handle? name with
              | some (.socket k) => s.engine.receive k (.raw other) room
              | _ => s.engine :=
          engine_useSocket fun e k => e.receive k (.raw other) room
        simp only [Deed.receives, Deed.tells, hengine, List.countP_nil, Nat.add_zero]
        split
        · next k hhandle =>
          have hfits := hs.sockets name k (mem_of_handle? hhandle) other
          exact Engine.awaited_receive he.wired hfits (hturn k hhandle) room tag
        · rfl
      | _ => exact absurd rfl hraw
  | @task front back task h =>
    have htaken := s.engine.awaited_of_taken h tag
    have hperform := Heeds.perform he h
    have hproper := he.wired.tasks task (h ▸ List.mem_append_right _ List.mem_cons_self)
    have hswept := hperform.trans (.sweep hperform.wired)
    have htells : ((Deed.task task).tells s.engine.now).countP (Event.hears tag)
        = if task.listener? = some (.raw tag) then 1 else 0 := countP_hears hproper _
    have hreceives : (Deed.task task).receives s tag = 0 := rfl
    rw [htells, hreceives, hswept.awaited, htaken]
    rfl
  | item h =>
    have hitem := Heeds.item he.wired h
    exact hheeds (hitem.trans (.sweep hitem.wired)) rfl rfl
  | clock now => exact hheeds (.of_aside he.wired (.clock now)) rfl rfl
  | network network =>
    exact hheeds (.of_aside he.wired { Aside.refl s.engine with }) rfl rfl
  | openService config =>
    exact hheeds (.outers (.openService he hs.remembers config) he.wired) rfl rfl
  | startService => exact hheeds (.startService he) rfl rfl
  | endService => exact hheeds (.of_aside he.wired .endService) rfl rfl

end Session

/-! ## 5. How sockets fail -/

variable {e e' : Engine} {k : SocketId} {record : RawSocket}

/-- **A socket that is closed fails**, unless it had, and sends nothing. -/
theorem Engine.fatal_closeSocket (hm : e.Metered) (hrecord : e.sockets[k]? = some record) :
    (∃ record', (e.closeSocket k).sockets[k]? = some record' ∧ record'.isOpen = false ∧
      record'.fatal = if record.fatal.isError then record.fatal else .aborted) ∧
    (e.closeSocket k).sentFrom k = e.sentFrom k := by
  have hk : k < (e.closeSocket k).sockets.size := by
    rw [Ferries.size_closeSocket]
    exact (Array.getElem?_eq_some_iff.1 hrecord).1
  have hrecord' := Array.getElem?_eq_getElem hk
  obtain ⟨before, hbefore, hages, hclosed, -⟩ :=
    Ferries.sockets_closeSocket hrecord k _ hrecord'
  obtain rfl := Option.some.inj (hrecord.symm.trans hbefore)
  obtain ⟨hshut, herror⟩ := hclosed rfl
  refine ⟨⟨_, hrecord', hshut, ?_⟩, (Ferries.givesUp_closeSocket hm hrecord).sent k⟩
  split
  · next hf => exact hages.fatal hf
  · next hworks =>
    rcases hages.cause with hsame | haborted
    · exact absurd (hsame ▸ herror) hworks
    · exact haborted.2

/-- **A receive that fails on a socket fails it**, unless it had failed. -/
theorem Engine.fatal_failSocket (hrecord : e.sockets[k]? = some record) (code : ErrorCode) :
    (∃ record', (e.failSocket k code).sockets[k]? = some record' ∧
      record'.fatal = if record.fatal.isError then record.fatal else code) ∧
    (e.failSocket k code).sentFrom k = e.sentFrom k := by
  have hfatal : e.fatalOf k = record.fatal := by simp only [Engine.fatalOf, hrecord]
  unfold Engine.failSocket
  rw [hfatal]
  split
  · exact ⟨⟨record, hrecord, rfl⟩, rfl⟩
  · have hfailed : (e.updateSocket k fun record => { record with fatal := code }).sockets[k]?
        = some { record with fatal := code } := by
      simp [Engine.updateSocket, Array.getElem?_modify, hrecord]
    have hlogged : Beside (e.updateSocket k fun record => { record with fatal := code })
        ((e.updateSocket k fun record => { record with fatal := code }).logDated .error
          ("ICMP socket failed: " ++ code.message)) := .of_inward (.logDated _ _)
    obtain ⟨record', hrecord', hstands⟩ := hlogged.socket hfailed
    exact ⟨⟨record', hrecord', hstands.fatal⟩, hlogged.sentFrom k⟩

/-- **A task in which a socket fails** does nothing on it afterwards. -/
theorem Engine.fatal_perform (hm : e.Metered) (hrecord : e.sockets[k]? = some record)
    (client : ReceiveClient) {code : ErrorCode} (source : Address) (data : Bytes)
    (herror : code.isError) (haborted : code ≠ .aborted) :
    let next := (e.perform (.received k client code source data)).sweep
    (∃ record', next.sockets[k]? = some record' ∧
      record'.fatal = if record.fatal.isError then record.fatal else code) ∧
    next.sentFrom k = e.sentFrom k := by
  let task : Task := .received k client code source data
  have hstruck : e.struck task = e.failSocket k code := if_pos ⟨herror, haborted⟩
  obtain ⟨⟨record', hrecord', hfatal⟩, hsent⟩ := Engine.fatal_failSocket hrecord code
  have hfailed : record'.fatal.isError := by
    rw [hfatal]
    split
    · assumption
    · exact herror
  have hconveyed : Conveys (fun _ => False) (fun _ _ => True) (fun _ _ => 0) [] [] e
      (e.failSocket k code) := .failSocket hm k trivial
  have hmetered := hconveyed.metered
  have hafter : ∃ told clients, Conveys (fun _ => False) (fun _ _ => False) (fun _ _ => 0) told
      clients (e.failSocket k code) (e.perform task) := by
    by_cases hraw : ∃ tag, client = .raw tag
    · obtain ⟨tag, rfl⟩ := hraw
      obtain ⟨event, -, hend, hperform⟩ := e.perform_received k tag code source data
      rw [hstruck] at hperform
      rw [hperform]
      exact ⟨_, _, (Conveys.of_ferries (.refl hmetered)).recorded hend⟩
    · have hhauls : Hauls (e.struck task) (e.perform task) := .perform (by
        cases client with
        | raw tag => exact absurd ⟨tag, rfl⟩ hraw
        | _ => rfl)
      rw [hstruck] at hhauls
      obtain ⟨clients, -, hferries⟩ := Ferries.hauls hhauls hmetered
      exact ⟨_, _, .of_ferries hferries⟩
  obtain ⟨told, clients, hconveys⟩ := hafter
  obtain ⟨clients', -, hsweep⟩ :=
    Ferries.hauls (@Engine.Hauls.sweep (e.perform task)) hconveys.metered
  have hall := hconveys.ferries hsweep
  obtain ⟨record'', hrecord'', hkeeps, -⟩ := hall.sockets k record' hrecord'
  exact ⟨⟨record'', hrecord'', (hkeeps hfailed).trans hfatal⟩,
    (hall.silent k record' hrecord' hfailed).trans hsent⟩

namespace Session

/-- **What one thing that happens does to sockets**, and to what they were asked. -/
structure Ages (s : Session) (deed : Deed) (s' : Session) : Prop where
  carries : Carries s deed s'
  /-- A socket that is closed or dropped by name fails. -/
  closes : ∀ name k record, (deed = .step (.close name) ∨ deed = .step (.drop name)) →
    s.handle? name = some (.socket k) → s.engine.sockets[k]? = some record →
    (∃ record', s'.engine.sockets[k]? = some record' ∧ record'.isOpen = false ∧
      record'.fatal = if record.fatal.isError then record.fatal else .aborted) ∧
    s'.engine.sentFrom k = s.engine.sentFrom k
  /-- A socket fails when a receive on it does. -/
  fails : ∀ k code record, deed.fails k code → s.engine.sockets[k]? = some record →
    (∃ record', s'.engine.sockets[k]? = some record' ∧
      record'.fatal = if record.fatal.isError then record.fatal else code) ∧
    s'.engine.sentFrom k = s.engine.sentFrom k
  /-- To cancel fails no socket. -/
  cancels : ∀ (name : String) (k : SocketId) (record' : RawSocket), deed = .step (.cancel name) →
    s'.engine.sockets[k]? = some record' →
    ∃ record, s.engine.sockets[k]? = some record ∧ record'.fatal = record.fatal
  /-- Who sends on a failed socket is to be told its reason. -/
  sends : ∀ name k record destination data tag, deed = .step (.send name destination data tag) →
    s.handle? name = some (.socket k) → s.engine.sockets[k]? = some record →
    record.fatal.isError → s'.engine = s.engine.post (.sent (.raw tag) record.fatal 0)
  /-- Who receives on a failed socket is to be told its reason. -/
  receives : ∀ name k record room tag, deed = .step (.receive name room tag) →
    s.handle? name = some (.socket k) → s.engine.sockets[k]? = some record →
    record.fatal.isError → s'.engine = s.engine.post (.noReceive (.raw tag) record.fatal)

variable {s s' s'' : Session} {deed : Deed} {k : SocketId} {name tag : String}

theorem Does.ages (h : Does s deed s') (hs : s.Sound) (hm : s.Stocked) : Ages s deed s' where
  carries := h.carries hs hm
  closes name k record hdeed hhandle hrecord := by
    have hengine : s'.engine = s.engine.closeSocket k := by
      cases h with
      | step step hrun =>
        rcases hdeed with hclose | hdrop
        · obtain rfl := Deed.step.inj hclose
          simp only [Session.perform, Session.use, hhandle]
        · obtain rfl := Deed.step.inj hdrop
          simp only [Session.perform, Session.drop, hhandle, letGo]
      | _ => simp at hdeed
    rw [hengine]
    exact Engine.fatal_closeSocket hm.metered hrecord
  fails k code record hfails hrecord := by
    obtain ⟨client, source, data, hdeed, herror, haborted⟩ := hfails
    cases h with
    | @task front back task h =>
      obtain rfl := Deed.task.inj hdeed
      exact Engine.fatal_perform (hm.metered.taken h).1 hrecord client source data herror haborted
    | _ => cases hdeed
  cancels name k record' hdeed hrecord' := by
    cases h with
    | step step hrun =>
      obtain rfl := Deed.step.inj hdeed
      have hengine : (s.perform (.cancel name)).1.engine
          = match s.handle? name with
            | some (.socket k) => s.engine.cancelSocket k
            | _ => s.engine := engine_useSocket fun e k => e.cancelSocket k
      rw [hengine] at hrecord'
      split at hrecord'
      · obtain ⟨record, hrecord, hstands⟩ :=
          (Beside.of_inward (.endReceive _ _)).sockets k record' hrecord'
        exact ⟨record, hrecord, hstands.fatal⟩
      · exact ⟨record', hrecord', rfl⟩
    | _ => cases hdeed
  sends name k record destination data tag hdeed hhandle hrecord hf := by
    cases h with
    | step step hrun =>
      obtain rfl := Deed.step.inj hdeed
      simp only [Session.perform, Session.use, hhandle, Engine.submit, hrecord, hf, if_true]
    | _ => cases hdeed
  receives name k record room tag hdeed hhandle hrecord hf := by
    cases h with
    | step step hrun =>
      obtain rfl := Deed.step.inj hdeed
      simp only [Session.perform, Session.use, hhandle, Engine.receive, hrecord, hf, if_true]
    | _ => cases hdeed

/-! ## 6. Runs -/

namespace Run

variable {past : List (Session × Deed)}

theorem stocked (h : Run s past s') (hs : s.Sound) (hm : s.Stocked) : s'.Stocked := by
  induction h with
  | nil => exact hm
  | cons head rest ih => exact ih (head.leads hs).sound (head.stocked hs hm)

/-- **No raw send gets lost, and none is told twice.** -/
theorem sends (h : Run s past s') (hs : s.Sound) (hm : s.Stocked) (tag : String) :
    s'.engine.held (isRaw tag) + s'.engine.due (isRaw tag) (fun _ => true)
        + s'.engine.rawEnds.countP (isSent tag)
      = s.engine.held (isRaw tag) + s.engine.due (isRaw tag) (fun _ => true)
        + s.engine.rawEnds.countP (isSent tag)
        + (past.map fun entry => entry.2.sends entry.1 tag).sum := by
  induction h with
  | nil => rfl
  | @cons s mid s' deed past head rest ih =>
    obtain ⟨clients, hclients, hconveys⟩ := head.carries hs hm
    have htotal := hconveys.total (isRaw tag)
    have htold : (deed.tells s.engine.now).countP (isSent tag)
        = deed.ended (isRaw tag) fun _ => true := by
      cases deed with
      | task task => exact countP_tells task _
      | _ => rfl
    have hrest := ih (head.leads hs).sound (head.stocked hs hm)
    rw [hconveys.told, List.countP_append, htold] at hrest
    rw [hclients] at htotal
    simp only [List.map_cons, List.sum_cons]
    omega

/-- **No raw receive gets lost, and none is told twice**, if each is started in its turn. -/
theorem receives (h : Run s past s') (hs : s.Sound) (hm : s.Stocked)
    (hturn : ∀ entry ∈ past, entry.2.inTurn entry.1) (tag : String) :
    s'.engine.awaited tag + s'.engine.rawEnds.countP (Event.hears tag)
      = s.engine.awaited tag + s.engine.rawEnds.countP (Event.hears tag)
        + (past.map fun entry => entry.2.receives entry.1 tag).sum := by
  induction h with
  | nil => rfl
  | @cons s mid s' deed past head rest ih =>
    obtain ⟨clients, -, hconveys⟩ := head.carries hs hm
    have hawaits := head.awaits hs (hturn _ List.mem_cons_self) tag
    have hrest := ih (head.leads hs).sound (head.stocked hs hm)
      fun entry hentry => hturn entry (List.mem_cons_of_mem _ hentry)
    rw [hconveys.told, List.countP_append] at hrest
    simp only [List.map_cons, List.sum_cons]
    omega

/-- **A socket that has failed stays as it failed**, and sends nothing any more. -/
theorem failed (h : Run s past s') (hs : s.Sound) (hm : s.Stocked) {record : RawSocket}
    (hrecord : s.engine.sockets[k]? = some record) (hf : record.fatal.isError) :
    (∃ record', s'.engine.sockets[k]? = some record' ∧ record'.fatal = record.fatal) ∧
      s'.engine.sentFrom k = s.engine.sentFrom k := by
  induction h generalizing record with
  | nil => exact ⟨⟨record, hrecord, rfl⟩, rfl⟩
  | cons head rest ih =>
    obtain ⟨clients, -, hconveys⟩ := head.carries hs hm
    obtain ⟨mid, hmid, hkeeps, -⟩ := hconveys.sockets k record hrecord
    obtain ⟨⟨record', hrecord', hfatal⟩, hsent⟩ :=
      ih (head.leads hs).sound (head.stocked hs hm) hmid (by rwa [hkeeps hf])
    exact ⟨⟨record', hrecord', hfatal.trans (hkeeps hf)⟩,
      hsent.trans (hconveys.silent k record hrecord hf)⟩

end Run

theorem Reachable.stocked (hr : Reachable s) : s.Stocked := by
  obtain ⟨network, logLevel, logFile, files, signals, past, hrun⟩ := hr
  exact hrun.stocked (sound_fresh network logLevel logFile files signals)
    (stocked_fresh network logLevel logFile files signals)

end Session

end IcmpEcho
