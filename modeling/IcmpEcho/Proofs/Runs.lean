/-
# Runs of a session

`Session.Does s deed s'`: one thing happens to a session.  Somebody outside takes a step; a task
that is ready is performed, **whichever it is**; an item of the timeline happens, **whichever it
is**; the clock is set, the network changes, the service is begun or ended.  So a run
(`Session.Run`) may take tasks, timers and datagrams in any order, and the order in which an
engine takes them by itself is one of these (`Session.Run.steps`).

**In every reachable session the invariant holds** (`Session.Reachable.sound`), and every later
engine is onward from every earlier one (`Session.Run.onward`).
-/
import IcmpEcho.Proofs.Handling

namespace IcmpEcho

/-- The pinger that a handle holds. -/
def Handle.pinger? : Handle → Option PingerId
  | .pinger id => some id
  | _ => none

namespace Session

/-! ## 1. What happens -/

/-- What happens to a session. -/
inductive Deed
  /-- Something is done from outside. -/
  | step (step : Step)
  /-- A task is performed. -/
  | task (task : Task)
  /-- An item of the timeline happens. -/
  | item (item : Happening)
  | clock (now : Time)
  | network (network : Network)
  | openService (config : Config)
  | startService
  | endService

/-- One thing happens to a session. -/
inductive Does (s : Session) : Deed → Session → Prop
  /-- Letting time pass is many things; it is not among the steps here. -/
  | step (step : Step) (h : ∀ duration, step ≠ .run duration) :
    Does s (.step step) (s.perform step).1
  | task {front back : List Task} {task : Task} (h : s.engine.ready = front ++ task :: back) :
    Does s (.task task)
      { s with engine := ({ s.engine with ready := front ++ back }.perform task).sweep }
  | item {front back : List (Time × Happening)} {time : Time} {item : Happening}
    (h : s.engine.timeline = front ++ (time, item) :: back) :
    Does s (.item item)
      { s with engine := ({ s.engine with timeline := front ++ back }.happen item).sweep }
  | clock (now : Time) : Does s (.clock now) { s with engine := { s.engine with now } }
  | network (network : Network) :
    Does s (.network network) { s with engine := { s.engine with network } }
  | openService (config : Config) :
    Does s (.openService config) { s with engine := (s.engine.openService config).1 }
  | startService : Does s .startService { s with engine := s.engine.startService }
  | endService : Does s .endService { s with engine := s.engine.endService }

/-- One thing after another happens; each is listed with the session it happened to. -/
inductive Run : Session → List (Session × Deed) → Session → Prop
  | nil (s : Session) : Run s [] s
  | cons {s s' s'' : Session} {deed : Deed} {past : List (Session × Deed)} (head : Does s deed s')
    (rest : Run s' past s'') : Run s ((s, deed) :: past) s''

/-- A session before anything was made in it, with signals on their way. -/
def fresh (network : Network) (logLevel : Int) (logFile : Option String)
    (files : List (String × String)) (signals : List (Time × Int)) : Session :=
  { engine := ({ network, logLevel, logFile, files } : Engine).withSignals signals }

/-- The session can come about. -/
def Reachable (s : Session) : Prop :=
  ∃ network logLevel logFile files signals past,
    Run (fresh network logLevel logFile files signals) past s

/-! ## 2. The invariant -/

/-- The pingers that are held by name. -/
def held (s : Session) : List PingerId := s.handles.filterMap fun entry => entry.2.pinger?

/-- **The invariant of a session.**  No two names hold one pinger. -/
structure Sound (s : Session) : Prop where
  engine : IcmpEcho.Sound {} s.engine
  mailed : Mailed s.engine
  attended : s.engine.Attended
  remembers : s.engine.Remembers
  sockets : ∀ name socket, (name, .socket socket) ∈ s.handles → ∀ tag,
    s.engine.Fits (.raw tag) (.socket socket)
  pingers : ∀ id ∈ s.held, s.engine.Kept id
  once : s.held.Nodup
  apart : ∀ id ∈ s.held, id ∉ s.engine.targetPingers

variable {s s' s'' : Session} {e : Engine} {ends ends' : HubId → Address → Prop}

theorem mem_held {id : PingerId} : id ∈ s.held ↔ ∃ name, (name, .pinger id) ∈ s.handles := by
  rw [held, List.mem_filterMap]
  constructor
  · rintro ⟨⟨name, handle⟩, hmem, hhandle⟩
    cases handle with
    | pinger other =>
      obtain rfl := Option.some.inj hhandle
      exact ⟨name, hmem⟩
    | _ => cases hhandle
  · rintro ⟨name, hmem⟩
    exact ⟨_, hmem, rfl⟩

theorem mem_of_handle? {name : String} {handle : Handle} (h : s.handle? name = some handle) :
    (name, handle) ∈ s.handles := by
  obtain ⟨front, back, hhandles, -⟩ := List.lookup_eq_some_iff.1 h
  rw [hhandles]
  exact List.mem_append_right _ List.mem_cons_self

namespace Sound

/-- What happens to the engine alone keeps the invariant. -/
theorem went (hs : s.Sound) (h : Went s.engine e) (mailed : Mailed e) (attended : e.Attended) :
    Sound { s with engine := e } where
  engine := h.sound
  mailed := mailed
  attended := attended
  remembers := hs.remembers.went h
  sockets name socket hmem tag := h.onward.fits _ _ (hs.sockets name socket hmem tag)
  pingers id hid := h.kept id (hs.pingers id hid)
  once := hs.once
  apart id hid ht := by
    rcases h.targets id ht with hold | hnew
    · exact hs.apart id hid hold
    · obtain ⟨⟨pinger, hp, -⟩, -⟩ := hs.pingers id hid
      exact Nat.not_lt.2 hnew (Array.getElem?_eq_some_iff.1 hp).1

theorem moved (hs : s.Sound) (h : Moved s.engine e ends) : Sound { s with engine := e } :=
  hs.went h.toWent (h.still.mailed hs.mailed) (h.attended hs.attended)

/-- A socket that is held by name belongs to no hub. -/
theorem closeSocket (hs : s.Sound) {name : String} {socket : SocketId}
    (hmem : (name, .socket socket) ∈ s.handles) :
    Moved s.engine (s.engine.closeSocket socket) := by
  refine .of_acts hs.engine (Acts.closeSocket fun id hub hh hsocket => ?_)
  have hraw := hs.sockets name socket hmem ""
  refine absurd ?_ (hraw.2 (.hub id))
  simp only [Engine.port?, hh, Option.map_some, hsocket]

/-- **A pinger that is let go is released, and all others are kept.** -/
theorem releasePinger (hs : s.Sound) {id : PingerId} (hid : id ∈ s.held) :
    let next := s.engine.releasePinger id
    IcmpEcho.Sound {} next ∧ Onward s.engine next ∧ next.Remembers ∧
      (∀ other, other ≠ id → s.engine.Kept other → next.Kept other) ∧
      (∀ other ∈ next.targetPingers, other ∈ s.engine.targetPingers ∨
        s.engine.pingers.size ≤ other) ∧
      Still (fun _ _ => False) s.engine next := by
  let released : Engine := { s.engine with released := s.engine.released ++ [id] }
  have hsound : IcmpEcho.Sound {} released := by
    refine hs.engine.withReleased fun other hother ht => ?_
    rcases List.mem_append.1 hother with hold | hnew
    · exact (hs.engine.targets other ht).2 hold
    · obtain rfl := List.mem_singleton.1 hnew
      exact hs.apart other hid ht
  have hremembers : released.Remembers := by
    intro other hother
    rcases List.mem_append.1 hother with hold | hnew
    · exact hs.remembers other hold
    · obtain rfl := List.mem_singleton.1 hnew
      obtain ⟨⟨pinger, hp, -⟩, -⟩ := hs.pingers other hid
      exact (Array.getElem?_eq_some_iff.1 hp).1
  have hswept := Moved.sweep hsound
  have honward : Onward s.engine released := { Onward.refl s.engine with }
  refine ⟨hswept.sound, honward.trans hswept.onward hs.engine.wired,
    hremembers.went hswept.toWent,
    fun other hne hk => hswept.kept other ⟨hk.1, fun hrel => ?_⟩, hswept.targets,
    (Still.withReleased _).trans hswept.still⟩
  rcases List.mem_append.1 hrel with hold | hnew
  · exact hk.2 hold
  · exact hne (List.mem_singleton.1 hnew)

/-- Dropping a name whose handle is no pinger. -/
theorem without (hs : s.Sound) (name : String) :
    Sound { s with handles := s.handles.filter fun entry => entry.1 ≠ name } where
  engine := hs.engine
  mailed := hs.mailed
  attended := hs.attended
  remembers := hs.remembers
  sockets other socket hmem := hs.sockets other socket (List.mem_filter.1 hmem).1
  pingers id hid := hs.pingers id ((List.filter_sublist.filterMap _).subset hid)
  once := hs.once.sublist (List.filter_sublist.filterMap _)
  apart id hid := hs.apart id ((List.filter_sublist.filterMap _).subset hid)

/-- A pinger whose name is dropped is held no more. -/
theorem not_held_without (hs : s.Sound) {name : String} {id : PingerId}
    (hmem : (name, .pinger id) ∈ s.handles) :
    id ∉ held { s with handles := s.handles.filter fun entry => entry.1 ≠ name } := by
  intro hid
  obtain ⟨other, hother⟩ := mem_held.1 hid
  obtain ⟨hother, hne⟩ := List.mem_filter.1 hother
  have hne : other ≠ name := by simpa using hne
  obtain ⟨front, back, hhandles⟩ := List.append_of_mem hmem
  have honce := hs.once
  rw [held, hhandles, List.filterMap_append, List.nodup_append] at honce
  obtain ⟨-, hback, hfront⟩ := honce
  simp only [List.filterMap_cons, Handle.pinger?] at hback hfront
  rw [hhandles] at hother
  rcases List.mem_append.1 hother with h | h
  · exact hfront id (List.mem_filterMap.2 ⟨_, h, rfl⟩) id List.mem_cons_self rfl
  · rcases List.mem_cons.1 h with h | h
    · exact hne (Prod.mk.inj h).1
    · exact (List.nodup_cons.1 hback).1 (List.mem_filterMap.2 ⟨_, h, rfl⟩)

end Sound

/-! ## 3. Names -/

/-- What leads from one session to a later one. -/
structure Leads (s s' : Session) : Prop where
  sound : s'.Sound
  onward : Onward s.engine s'.engine

/-- What leads there from outside, and can have ended registrations in `ends`. -/
structure Moves (ends : HubId → Address → Prop) (s s' : Session) : Prop extends Leads s s' where
  still : Still ends s.engine s'.engine

namespace Moves

theorem of_moved (hs : s.Sound) (h : Moved s.engine e ends) : Moves ends s { s with engine := e } :=
  ⟨⟨hs.moved h, h.onward⟩, h.still⟩

theorem refl (hs : s.Sound) : Moves ends s s := ⟨⟨hs, .refl _⟩, .refl _⟩

theorem mono (h : Moves ends s s') (hmay : ∀ id address, ends id address → ends' id address) :
    Moves ends' s s' :=
  { h with still := h.still.mono hmay }

end Moves

/-- The registrations of the hub that a name stands for. -/
def Under (s : Session) (name : String) (id : HubId) (_ : Address) : Prop :=
  s.handle? name = some (.hub id)

/-- What dropping a name leaves. -/
structure Drops (name : String) (s s' : Session) : Prop extends Moves (s.Under name) s s' where
  held : ∀ id ∈ s'.held, id ∈ s.held
  kept : ∀ id, id ∉ s.held → s.engine.Kept id → s'.engine.Kept id
  targets : ∀ id ∈ s'.engine.targetPingers, id ∈ s.engine.targetPingers ∨
    s.engine.pingers.size ≤ id

/-- **Dropping a name.** -/
theorem Sound.drop (hs : s.Sound) (name : String) : Drops name s (s.drop name) := by
  have hwithout := hs.without name
  have hheld : ∀ id ∈ held { s with handles := s.handles.filter fun entry => entry.1 ≠ name },
      id ∈ s.held := fun id hid => (List.filter_sublist.filterMap _).subset hid
  have hmoved : ∀ e, Moved s.engine e (s.Under name) →
      Drops name s { engine := e, handles := s.handles.filter fun entry => entry.1 ≠ name } :=
    fun e h => {
      sound := hwithout.moved h
      onward := h.onward
      still := h.still
      held := hheld
      kept := fun id _ hk => h.kept id hk
      targets := h.targets }
  unfold Session.drop
  split
  · exact ⟨.refl hs, fun _ h => h, fun _ _ h => h, fun _ h => .inl h⟩
  · next handle hhandle =>
    have hmem := mem_of_handle? hhandle
    cases handle with
    | socket socket => exact hmoved _ (hs.closeSocket hmem).any
    | hub id =>
      refine hmoved _ ((Moved.closeHub hs.engine id).mono ?_)
      rintro other address rfl
      exact hhandle
    | pinger id =>
      have hid : id ∈ s.held := mem_held.2 ⟨name, hmem⟩
      obtain ⟨hsound, honward, hremembers, hkept, htargets, hstill⟩ := hs.releasePinger hid
      have hne : ∀ other ∈ held { s with handles := s.handles.filter fun entry => entry.1 ≠ name },
          other ≠ id := by
        rintro other hother rfl
        exact hs.not_held_without hmem hother
      refine ⟨⟨⟨⟨hsound, hstill.mailed hs.mailed, hstill.attended_of_none hs.attended hs.engine.listed,
        hremembers, fun other socket hother tag => ?_, fun other hother => ?_,
        hwithout.once, fun other hother ht => ?_⟩, honward⟩, hstill.mono fun _ _ hno => hno.elim⟩,
        hheld, fun other hnot hk => ?_, htargets⟩
      · exact honward.fits _ _ (hwithout.sockets other socket hother tag)
      · exact hkept other (hne other hother) (hwithout.pingers other hother)
      · rcases htargets other ht with hold | hnew
        · exact hwithout.apart other hother hold
        · obtain ⟨⟨pinger, hp, -⟩, -⟩ := hwithout.pingers other hother
          exact Nat.not_lt.2 hnew (Array.getElem?_eq_some_iff.1 hp).1
      · exact hkept other (fun heq => hnot (heq ▸ hid)) hk

/-- A pinger that was just made is nobody's after a name was dropped. -/
theorem Sound.spare_after_drop (hs : s.Sound) (h : Moved s.engine e ends) {id : PingerId}
    (hmade : Engine.Made s.engine e id) (name : String) :
    let dropped := Session.drop { s with engine := e } name
    dropped.engine.Kept id ∧ id ∉ dropped.held ∧ id ∉ dropped.engine.targetPingers := by
  have hdrops := (hs.moved h).drop name
  have hnot : id ∉ s.held := by
    intro hid
    obtain ⟨⟨pinger, hp, -⟩, -⟩ := hs.pingers id hid
    exact Nat.not_lt.2 hmade.fresh (Array.getElem?_eq_some_iff.1 hp).1
  refine ⟨hdrops.kept id hnot (hmade.kept hs.remembers h.toWent), fun hid => hnot (hdrops.held id hid),
    fun ht => ?_⟩
  obtain ⟨pinger, hp, -⟩ := hmade.alive
  rcases hdrops.targets id ht with hold | hfresh
  · exact hmade.spare hold
  · exact Nat.not_lt.2 hfresh (Array.getElem?_eq_some_iff.1 hp).1

theorem held_append (s : Session) (name : String) (handle : Handle) :
    held { s with handles := s.handles ++ [(name, handle)] } = s.held ++ handle.pinger?.toList := by
  simp only [held, List.filterMap_append]
  cases handle <;> rfl

/-- **A name is given.**  A socket belongs to nobody, and a pinger neither. -/
theorem Sound.withName (hs : s.Sound) (name : String) {handle : Handle}
    (hsocket : ∀ socket, handle = .socket socket → ∀ tag, s.engine.Fits (.raw tag) (.socket socket))
    (hpinger : ∀ id, handle = .pinger id →
      s.engine.Kept id ∧ id ∉ s.held ∧ id ∉ s.engine.targetPingers) :
    Sound { s with handles := s.handles ++ [(name, handle)] } := by
  have hcases : ∀ id ∈ held { s with handles := s.handles ++ [(name, handle)] },
      id ∈ s.held ∨ handle = .pinger id := by
    intro id hid
    rw [held_append] at hid
    rcases List.mem_append.1 hid with hold | hnew
    · exact .inl hold
    · cases handle with
      | pinger other => exact .inr (by simpa [Handle.pinger?, eq_comm] using hnew)
      | _ => simp [Handle.pinger?] at hnew
  refine ⟨hs.engine, hs.mailed, hs.attended, hs.remembers, fun other socket hmem tag => ?_,
    fun id hid => ?_, ?_, fun id hid => ?_⟩
  · rcases List.mem_append.1 hmem with hold | hnew
    · exact hs.sockets other socket hold tag
    · obtain ⟨-, rfl⟩ := Prod.mk.inj (List.mem_singleton.1 hnew)
      exact hsocket socket rfl tag
  · rcases hcases id hid with hold | rfl
    · exact hs.pingers id hold
    · exact (hpinger id rfl).1
  · rw [held_append]
    cases handle with
    | pinger id =>
      refine List.nodup_append.2 ⟨hs.once, by simp [Handle.pinger?], ?_⟩
      rintro other hother id' hid' rfl
      obtain rfl : other = id := by simpa [Handle.pinger?] using hid'
      exact (hpinger other rfl).2.1 hother
    | _ => simpa [Handle.pinger?] using hs.once
  · rcases hcases id hid with hold | rfl
    · exact hs.apart id hold
    · exact (hpinger id rfl).2.2

/-- **Giving a name to what was made.**  The name's old object is dropped. -/
theorem Sound.hold (hs : s.Sound) (name : String) {made : Except Failure Handle}
    (h : Moved s.engine e ends)
    (hsocket : ∀ socket, made = .ok (.socket socket) → ∀ tag, e.Fits (.raw tag) (.socket socket))
    (hpinger : ∀ id, made = .ok (.pinger id) → Engine.Made s.engine e id) :
    Moves (fun id address => s.Under name id address ∨ ends id address) s
      (s.hold name (e, made)).1 := by
  have hmay : ∀ id address, ends id address → s.Under name id address ∨ ends id address :=
    fun _ _ => .inr
  cases made with
  | error failure => exact .of_moved hs (h.mono hmay)
  | ok handle =>
    have hdrops := (hs.moved h).drop name
    refine ⟨⟨hdrops.sound.withName name (fun socket heq tag => ?_) fun id heq => ?_,
      h.onward.trans hdrops.onward hs.engine.wired⟩,
      (h.still.mono hmay).trans (hdrops.still.mono fun _ _ => .inl)⟩
    · exact hdrops.onward.fits _ _ (hsocket socket (congrArg Except.ok heq) tag)
    · exact hs.spare_after_drop h (hpinger id (congrArg Except.ok heq)) name

theorem eq_ok_of_map {α β : Type} {f : α → β} {made : Except Failure α} {b : β}
    (h : made.map f = .ok b) : ∃ a, made = .ok a ∧ f a = b := by
  cases made with
  | error failure => cases h
  | ok a => exact ⟨a, rfl, Except.ok.inj h⟩

/-- A pinger that was made gets a name. -/
theorem Sound.holdPinger (hs : s.Sound) (name : String) {made : Except Failure PingerId}
    (h : Moved s.engine e ends) (hmade : ∀ id, made = .ok id → Engine.Made s.engine e id) :
    Moves (fun id address => s.Under name id address ∨ ends id address) s
      (s.hold name (e, made.map .pinger)).1 := by
  refine hs.hold name h (fun socket heq => ?_) fun id heq => ?_
  · obtain ⟨id, -, hne⟩ := eq_ok_of_map heq
    cases hne
  · obtain ⟨id', hok, hsame⟩ := eq_ok_of_map heq
    obtain rfl := Handle.pinger.inj hsame
    exact hmade id' hok

/-! ## 4. Steps -/

/-- The registrations that a step can end. -/
def Step.may (s : Session) : Step → HubId → Address → Prop
  | .openSocket name _ | .openHub name _ | .create name _ _ | .drop name | .close name =>
    s.Under name
  | .register name via destination => fun id address =>
    s.Under name id address ∨ (s.Under via id address ∧ address = destination)
  | _ => fun _ _ => False

/-- What a name stands for is used. -/
theorem Moves.use (hs : s.Sound) {name : String} {act : Engine → Handle → Engine}
    (h : ∀ handle, s.handle? name = some handle → Moved s.engine (act s.engine handle) ends) :
    Moves ends s (s.use name act) := by
  unfold Session.use
  split
  · exact .refl hs
  · next handle hhandle => exact .of_moved hs (h handle hhandle)

/-- Only pingers are used in this way. -/
theorem Moves.usePinger (hs : s.Sound) {name : String} (act : Engine → PingerId → Engine)
    (h : ∀ id, s.engine.Kept id → Moved s.engine (act s.engine id) ends) :
    Moves ends s (s.use name fun engine handle =>
      match handle with
      | .pinger id => act engine id
      | _ => engine) := by
  refine .use hs fun handle hhandle => ?_
  cases handle with
  | pinger id => exact h id (hs.pingers id (mem_held.2 ⟨name, mem_of_handle? hhandle⟩))
  | _ => exact .refl hs.engine

/-- Only sockets are used in this way. -/
theorem Moves.useSocket (hs : s.Sound) {name : String} (act : Engine → SocketId → Engine)
    (h : ∀ socket, (∀ tag, s.engine.Fits (.raw tag) (.socket socket)) →
      Moved s.engine (act s.engine socket) ends) :
    Moves ends s (s.use name fun engine handle =>
      match handle with
      | .socket socket => act engine socket
      | _ => engine) := by
  refine .use hs fun handle hhandle => ?_
  cases handle with
  | socket socket => exact h socket (hs.sockets name socket (mem_of_handle? hhandle))
  | _ => exact .refl hs.engine

/-- A pinger that somebody holds pings. -/
theorem Sound.ping (hs : s.Sound) {id : PingerId} (hk : s.engine.Kept id) (sequence : UInt16)
    (caller : Caller) : Moved s.engine (s.engine.ping id sequence caller) := by
  refine .of_acts hs.engine (Acts.ping hs.engine (fun pinger hp => ?_) sequence caller)
  obtain ⟨⟨pinger', hp', hg⟩, -⟩ := hk
  obtain rfl := Option.some.inj (hp.symm.trans hp')
  exact hg

/-- A pinger that somebody holds pings again and again. -/
theorem Sound.pings (id : PingerId) (f : Nat → UInt16 × Caller) :
    ∀ (l : List Nat) {s : Session} (_ : s.Sound) (_ : s.engine.Kept id),
      Moved s.engine (l.foldl (fun e i => e.ping id (f i).1 (f i).2) s.engine)
  | [], _, hs, _ => .refl hs.engine
  | i :: l, _, hs, hk => by
    have hfirst := hs.ping hk (f i).1 (f i).2
    exact hfirst.trans (pings id f l (hs.moved hfirst) (hfirst.kept id hk)) hs.engine

/-- **Registering with the hub of a name.** -/
theorem Sound.register (hs : s.Sound) (via : String) (destination : Address) :
    Moved s.engine (s.register via destination).1
        (fun id address => s.Under via id address ∧ address = destination) ∧
      ∀ id, (s.register via destination).2 = .ok id →
        Engine.Made s.engine (s.register via destination).1 id := by
  unfold Session.register
  split
  · next hub hhub =>
    obtain ⟨hmoved, hmade⟩ := Moved.register hs.engine hub destination
    refine ⟨hmoved.mono ?_, hmade⟩
    rintro id address ⟨rfl, haddress⟩
    exact ⟨hhub, haddress⟩
  · exact ⟨.refl hs.engine, fun id h => by cases h⟩

/-- **Every step keeps the invariant**, letting time pass apart. -/
theorem Sound.perform (hs : s.Sound) {step : Step} (hrun : ∀ duration, step ≠ .run duration) :
    Moves (step.may s) s (s.perform step).1 := by
  have he := hs.engine
  have honly : ∀ {name : String} (id : HubId) (address : Address),
      s.Under name id address ∨ False → s.Under name id address := fun _ _ h => h.resolve_right id
  cases step with
  | openSocket name settings =>
    refine (hs.hold name (Moved.openSocket he settings) (fun socket heq tag => ?_)
      fun id heq => ?_).mono honly
    · obtain ⟨socket', hopen, hsame⟩ := eq_ok_of_map heq
      obtain rfl := Handle.socket.inj hsame
      exact Moved.openSocket_fits he settings hopen tag
    · obtain ⟨socket', -, hne⟩ := eq_ok_of_map heq
      cases hne
  | openHub name settings =>
    refine (hs.hold name (Moved.openHub he settings) (fun socket heq => ?_)
      fun id heq => ?_).mono honly
    · obtain ⟨hub, -, hne⟩ := eq_ok_of_map heq
      cases hne
    · obtain ⟨hub, -, hne⟩ := eq_ok_of_map heq
      cases hne
  | create name destination settings =>
    obtain ⟨hcreated, hmade⟩ := Moved.createPinger he destination settings
    exact (hs.holdPinger name hcreated hmade).mono honly
  | register name via destination =>
    obtain ⟨hmoved, hmade⟩ := hs.register via destination
    exact hs.holdPinger name hmoved hmade
  | configure name identifier size timeout =>
    refine .usePinger hs
      (fun e id => e.updatePinger id (configured identifier size timeout)) fun id hk => ?_
    obtain ⟨⟨pinger, hp, hg⟩, -⟩ := hk
    exact .of_acts he (.configure he hp hg ⟨rfl, rfl, rfl, rfl, rfl⟩ rfl)
  | ping name sequence tag again =>
    exact .usePinger hs (fun e id => e.ping id sequence (.scripted tag again)) fun id hk =>
      hs.ping hk _ _
  | burst name sequence count =>
    refine .usePinger hs (fun e id => burst e id name sequence count) fun id hk => ?_
    exact Sound.pings id
      (fun i => (sequence + UInt16.ofNat i, .scripted (name ++ "#" ++ toString i) [])) _ hs hk
  | drop name => exact (hs.drop name).toMoves
  | close name =>
    simp only [Session.perform]
    refine .use hs fun handle hhandle => ?_
    have hmem := mem_of_handle? hhandle
    cases handle with
    | socket socket => exact (hs.closeSocket hmem).any
    | hub id =>
      refine (Moved.closeHub he id).mono ?_
      rintro other address rfl
      exact hhandle
    | pinger id => exact .refl he
  | cancel name =>
    exact .useSocket hs (fun e socket => e.cancelSocket socket) fun socket _ => .cancelSocket he socket
  | send name destination data tag =>
    exact .useSocket hs (fun e socket => e.submit socket data destination (.raw tag)) fun socket _ =>
      .of_aside he (.submit _ _ _ _)
  | receive name room tag =>
    refine .useSocket hs (fun e socket => e.receive socket (.raw tag) room) fun socket hfits => ?_
    have hfree : IcmpEcho.Sound { busy := some (.raw tag) } s.engine :=
      { he with counted := he.counted.raw tag }
    have hreceive : Act { busy := some (.raw tag) } s.engine {}
        (s.engine.receive socket (.raw tag) room) := .receive rfl (hfits tag) fun _ h => by cases h
    exact .of_steady he (hreceive.sound hfree) (hreceive.steady hfree) (hreceive.still hfree)
  | deliver source data count time =>
    refine .of_moved hs ?_
    cases time with
    | none => exact .foldl (fun _ _ he => .deliver he source data) _ _ he
    | some time => exact .of_aside he (.foldl (fun _ _ => .schedule rfl) _ _)
  | failReceives family errno only => exact .of_moved hs (.failReceives he family errno only)
  | run duration => exact absurd rfl (hrun duration)
  | logLevel level => exact .of_moved hs (.of_aside he { Aside.refl s.engine with })

/-! ## 5. Runs -/

/-- The registrations that a deed can end. -/
def Deed.may (s : Session) : Deed → HubId → Address → Prop
  | .step taken => taken.may s
  | .task due => due.may
  | .openService _ => Engine.From s.engine.hubs.size
  | _ => fun _ _ => False

/-- **Whatever happens apart from tasks changes no inbox.** -/
theorem Does.moves {deed : Deed} (h : Does s deed s') (hs : s.Sound)
    (htask : ∀ task, deed ≠ .task task) : Moves (deed.may s) s s' := by
  have he := hs.engine
  cases h with
  | step step hrun => exact hs.perform hrun
  | @task front back task h => exact absurd rfl (htask task)
  | item h => exact .of_moved hs (.item he h)
  | clock now => exact .of_moved hs (.of_aside he (.clock now))
  | network network => exact .of_moved hs (.of_aside he { Aside.refl s.engine with })
  | openService config => exact .of_moved hs (.openService he hs.remembers config)
  | startService =>
    have hwaits : Aside s.engine { s.engine with awaitsSignal := true } := .awaitsSignal true
    have hbegun := hwaits.trans (.logDated .warn ("pingmux service started with "
      ++ toString ((s.engine.service.map fun service => service.targets.size).getD 0)
      ++ " target(s)"))
    have hmoved := Moved.of_aside he hbegun
    exact .of_moved hs (hmoved.trans (.of_acts hmoved.sound (.startRound hmoved.sound)) he)
  | endService => exact .of_moved hs (.of_aside he .endService)

/-- **A task is handled.** -/
theorem Does.handled {task : Task} (h : Does s (.task task) s') (hs : s.Sound) :
    Handled task s.engine s'.engine ∧ s'.handles = s.handles := by
  cases h with
  | task h => exact ⟨(hs.engine.handle hs.mailed h).sweep hs.engine, rfl⟩

/-- A task is handled, and everything else moves the session from outside. -/
theorem Does.handled_or_moves {deed : Deed} (h : Does s deed s') (hs : s.Sound) :
    (∃ task, deed = .task task ∧ Handled task s.engine s'.engine ∧ s'.handles = s.handles) ∨
      ((∀ task, deed ≠ .task task) ∧ Moves (deed.may s) s s') := by
  by_cases htask : ∃ task, deed = .task task
  · obtain ⟨task, rfl⟩ := htask
    exact .inl ⟨task, rfl, h.handled hs⟩
  · have hne : ∀ task, deed ≠ .task task := fun task heq => htask ⟨task, heq⟩
    exact .inr ⟨hne, h.moves hs hne⟩

/-- **Whatever happens keeps the invariant and leads onward.** -/
theorem Does.leads {deed : Deed} (h : Does s deed s') (hs : s.Sound) : Leads s s' := by
  rcases h.handled_or_moves hs with ⟨task, rfl, hhandled, hhandles⟩ | ⟨-, hmoves⟩
  · have hsound := hs.went hhandled.toWent hhandled.mailed (hhandled.attended hs.attended)
    rw [← hhandles] at hsound
    exact ⟨hsound, hhandled.onward⟩
  · exact hmoves.toLeads

/-- A fresh engine has nothing in it that the invariant speaks of. -/
theorem sound_fresh (network : Network) (logLevel : Int) (logFile : Option String)
    (files : List (String × String)) (signals : List (Time × Int)) :
    (fresh network logLevel logFile files signals).Sound := by
  let start : Engine := { network, logLevel, logFile, files }
  have hstart : IcmpEcho.Sound {} start := {
    wired := {
      valid := fun client port hp => by cases client <;> simp [Engine.port?, start] at hp
      unique := fun client other port hp => by cases client <;> simp [Engine.port?, start] at hp
      waits := fun port client hp => by cases port <;> simp [Engine.waiter?, start] at hp
      tasks := fun task ht => by simp [start] at ht
      later := fun time task ht => by simp [start] at ht }
    counted := {
      exact := fun client listens hl => by cases client <;> simp [Engine.listens?, start] at hl
      single := fun client port hp => by cases client <;> simp [Engine.port?, start] at hp }
    settled := fun client _ => by cases client <;> simp [Engine.Settled, start]
    ledger := {
      known := fun number => by simp [Engine.ping?, start]
      entered := fun id call hcall => by simp [Engine.callsOf, start] at hcall
      refused := fun id number caller code sequence ht => by simp [start] at ht
      ended := fun ending hending => by simp [start] at hending
      held := fun number hnumber => by simp at hnumber
      once := fun number ping hping => by simp [Engine.ping?, start] at hping
      tokens := fun id => by simp [Engine.callsOf, start]
      seen := rfl }
    armed := {
      rings := fun id call hcall => by simp [Engine.callsOf, start] at hcall
      fresh := fun id token timer hpos => by simp [Engine.armed, start] at hpos }
    gone := fun id pinger hp => by simp [start] at hp
    targets := fun id hid => by simp [Engine.targetPingers, start] at hid
    listed := {
      known := fun id address box ⟨hub, hh, _⟩ => by simp [start] at hh
      once := fun id address other address' box ⟨hub, hh, _⟩ => by simp [start] at hh } }
  have hsignals : Aside start (start.withSignals signals) := .foldl (fun _ _ => .schedule rfl) _ _
  have hempty : Sound { engine := start } := {
    engine := hstart
    mailed := {
      boxes := fun box value hvalue => by simp [start] at hvalue
      sockets := fun socket record hsocket => by simp [start] at hsocket
      tasks := fun task ht => by simp [start] at ht }
    attended := fun id address box h => by simp [Engine.registered?, start] at h
    remembers := fun id hid => by simp [start] at hid
    sockets := fun name socket hmem => by simp at hmem
    pingers := fun id hid => by simp [held] at hid
    once := by simp [held]
    apart := fun id hid => by simp [held] at hid }
  exact hempty.moved (.of_aside hstart hsignals)

namespace Run

theorem trans {past past' : List (Session × Deed)} (h : Run s past s') (h' : Run s' past' s'') :
    Run s (past ++ past') s'' := by
  induction h with
  | nil => exact h'
  | cons head rest ih => exact .cons head (ih h')

theorem one {deed : Deed} (h : Does s deed s') : Run s [(s, deed)] s' := .cons h (.nil _)

/-- **Along a run the invariant holds, and engines move onward.** -/
theorem leads {past : List (Session × Deed)} (h : Run s past s') (hs : s.Sound) : Leads s s' := by
  induction h with
  | nil s => exact ⟨hs, .refl _⟩
  | cons head rest ih =>
    have hhead := head.leads hs
    have hrest := ih hhead.sound
    exact ⟨hrest.sound, hhead.onward.trans hrest.onward hs.engine.wired⟩

end Run

namespace Reachable

theorem run {past : List (Session × Deed)} (hr : Reachable s) (h : Run s past s') :
    Reachable s' := by
  obtain ⟨network, logLevel, logFile, files, signals, before, hbefore⟩ := hr
  exact ⟨network, logLevel, logFile, files, signals, before ++ past, hbefore.trans h⟩

/-- **The invariant holds in every reachable session.** -/
theorem sound (hr : Reachable s) : s.Sound := by
  obtain ⟨network, logLevel, logFile, files, signals, past, hrun⟩ := hr
  exact (hrun.leads (sound_fresh network logLevel logFile files signals)).sound

end Reachable

/-! ## 6. Letting time pass -/

/-- The deed is one of the engine's own.  It does the first task that is ready, or if there is none
the first item of the timeline, once its time has come; nothing runs in it when it is stopped. -/
def Own (s : Session) : Deed → Prop
  | .task task => s.engine.stopped = false ∧ ∃ rest, s.engine.ready = task :: rest
  | .item item => s.engine.stopped = false ∧ s.engine.ready = [] ∧
      ∃ time rest, s.engine.timeline = (time, item) :: rest ∧ time ≤ s.engine.now
  | .clock now => s.engine.now ≤ now ∨ now = s.engine.now + s.engine.network.tick
  | _ => False

/-- **A step that an engine takes by itself is a run.** -/
theorem run_of_step? {deadline : Option Time} (h : s.engine.step? deadline = some e) :
    ∃ past, Run s past { s with engine := e } ∧ ∀ entry ∈ past, entry.1.Own entry.2 := by
  unfold Engine.step? at h
  split at h
  · cases h
  · next hrunning =>
    have hrunning : s.engine.stopped = false := by simpa using hrunning
    split at h
    · next task rest hready =>
      obtain rfl := Option.some.inj h
      have htask : Does s (.task task) { s with
          engine := ({ s.engine with ready := rest }.perform task).sweep } :=
        @Does.task s [] rest task (by rw [hready, List.nil_append])
      refine ⟨_, .cons htask (.one (.clock _)), fun entry hentry => ?_⟩
      rcases List.mem_cons.1 hentry with rfl | hentry
      · exact ⟨hrunning, rest, hready⟩
      · obtain rfl := List.mem_singleton.1 hentry
        exact .inr rfl
    · next time item rest hready htimeline =>
      split at h
      · obtain rfl := Option.some.inj h
        let waited : Session := { s with engine := { s.engine with now := max s.engine.now time } }
        have hclock : Does s (.clock _) waited := .clock _
        have hitem : Does waited (.item item) { waited with
            engine := ({ waited.engine with timeline := rest }.happen item).sweep } :=
          @Does.item waited [] rest time item htimeline
        refine ⟨_, .cons hclock (.one hitem), fun entry hentry => ?_⟩
        rcases List.mem_cons.1 hentry with rfl | hentry
        · exact .inl (Int.le_max_left _ _)
        · obtain rfl := List.mem_singleton.1 hentry
          exact ⟨hrunning, hready, time, rest, htimeline, Int.le_max_right _ _⟩
      · cases h
    · cases h

/-- **What an engine does by itself is a run.** -/
theorem run_of_steps (deadline : Option Time) :
    ∀ (fuel : Nat) (s : Session), ∃ past,
      Run s past { s with engine := s.engine.steps deadline fuel } ∧
        ∀ entry ∈ past, entry.1.Own entry.2
  | 0, s => ⟨[], .nil s, fun _ h => nomatch h⟩
  | fuel + 1, s => by
    unfold Engine.steps
    split
    · exact ⟨[], .nil s, fun _ h => nomatch h⟩
    · next e he =>
      obtain ⟨past, hpast, hown⟩ := run_of_step? he
      obtain ⟨past', hpast', hown'⟩ := run_of_steps deadline fuel { s with engine := e }
      refine ⟨_, hpast.trans hpast', fun entry hentry => ?_⟩
      rcases List.mem_append.1 hentry with h | h
      · exact hown entry h
      · exact hown' entry h

/-- **To let time pass is a run**, so every step of a session is. -/
theorem Run.of_perform (s : Session) (step : Step) : ∃ past, Run s past (s.perform step).1 := by
  by_cases hrun : ∃ duration, step = .run duration
  · obtain ⟨duration, rfl⟩ := hrun
    obtain ⟨past, hpast, -⟩ := run_of_steps (some (s.engine.now + duration)) Engine.manySteps s
    exact ⟨_, hpast.trans (.one (.clock _))⟩
  · exact ⟨_, .one (.step step fun duration heq => hrun ⟨duration, heq⟩)⟩

namespace Reachable

theorem fresh (network : Network) (logLevel : Int) (logFile : Option String)
    (files : List (String × String)) (signals : List (Time × Int)) :
    Reachable (fresh network logLevel logFile files signals) :=
  ⟨network, logLevel, logFile, files, signals, [], .nil _⟩

theorem perform (hr : Reachable s) (step : Step) : Reachable (s.perform step).1 := by
  obtain ⟨past, hpast⟩ := Run.of_perform s step
  exact hr.run hpast

end Reachable

end Session

end IcmpEcho
