/-
# What is done from outside

What a step of a session does to its engine, and what opening the service does, is a row of a few
things (`Engine.Outers`): parts are made, used and let go, datagrams and failures come in.  Names,
handles, and what is refused on the way, play no part any more.  A raw send and a raw receive stay
apart, since somebody waits for how each of them ends.

`Engine.Outers.lift` carries a property of engines over such a row: it has to be shown for the
single things only, and for engines in which the invariant holds.
-/
import IcmpEcho.Proofs.Inward
import IcmpEcho.Proofs.Runs

namespace IcmpEcho

variable {e e' e'' : Engine}

namespace Engine

/-! ## 1. Rows -/

/-- One thing that is done from outside. -/
inductive Outer : Engine → Engine → Prop
  | openSocket (e : Engine) (settings : SocketSettings) : Outer e (e.openSocket settings).1
  | openHub (e : Engine) (settings : SocketSettings) : Outer e (e.openHub settings).1
  | createPinger (e : Engine) (destination : Address) (settings : SocketSettings) :
    Outer e (e.createPinger destination settings).1
  | register (e : Engine) (id : HubId) (destination : Address) :
    Outer e (e.register id destination).1
  /-- A pinger that somebody holds, or that was just made, changes how it sends. -/
  | configure {e : Engine} {id : PingerId} {pinger : Pinger} {change : Pinger → Pinger}
    (hp : e.pingers[id]? = some pinger) (hg : pinger.gone = false)
    (alike : Pinger.Alike pinger (change pinger))
    (receiving : (change pinger).receiving = pinger.receiving) :
    Outer e (e.updatePinger id change)
  | ping {e : Engine} {id : PingerId} (hk : e.Kept id) (sequence : UInt16) (caller : Caller) :
    Outer e (e.ping id sequence caller)
  /-- A socket that belongs to no hub and no pinger is closed. -/
  | closeSocket {e : Engine} {socket : SocketId}
    (hraw : ∀ tag, e.Fits (.raw tag) (.socket socket)) : Outer e (e.closeSocket socket)
  | closeHub (e : Engine) (id : HubId) : Outer e (e.closeHub id)
  | releasePinger {e : Engine} {id : PingerId} (hk : e.Kept id) (ht : id ∉ e.targetPingers) :
    Outer e (e.releasePinger id)
  | cancelSocket {e : Engine} {socket : SocketId}
    (hraw : ∀ tag, e.Fits (.raw tag) (.socket socket)) : Outer e (e.cancelSocket socket)
  | deliver (e : Engine) (source : Address) (data : Bytes) : Outer e (e.deliver source data)
  | schedule (e : Engine) (time : Time) (source : Address) (data : Bytes) :
    Outer e (e.schedule time (.deliver source data))
  | failReceives (e : Engine) (family : Family) (errno : Int) (only : Option SocketId) :
    Outer e (e.failReceives family errno only)
  | logLevel (e : Engine) (logLevel : Int) : Outer e { e with logLevel }
  | logAbout (e : Engine) (address : Address) (severity : Severity) (message : String) :
    Outer e (e.logAbout address severity message)
  | serve (e : Engine) (service : Service) : Outer e { e with service := some service }

/-- One thing after another is done from outside. -/
inductive Outers : Engine → Engine → Prop
  | nil (e : Engine) : Outers e e
  | cons {e e' e'' : Engine} (hs : IcmpEcho.Sound {} e) (head : Outer e e')
    (rest : Outers e' e'') : Outers e e''

namespace Outers

theorem one (hs : IcmpEcho.Sound {} e) (h : Outer e e') : Outers e e' := .cons hs h (.nil _)

theorem trans (h : Outers e e') (h' : Outers e' e'') : Outers e e'' := by
  induction h with
  | nil => exact h'
  | cons hs head rest ih => exact .cons hs head (ih h')

/-- **What holds of every single thing holds of the row.** -/
theorem lift {R : Engine → Engine → Prop} (refl : ∀ e, R e e)
    (trans : ∀ {e e' e''}, R e e' → R e' e'' → R e e'')
    (single : ∀ {e e'}, IcmpEcho.Sound {} e → Outer e e' → R e e') (h : Outers e e') :
    R e e' := by
  induction h with
  | nil => exact refl _
  | cons hs head rest ih => exact trans (single hs head) ih

/-! ## 2. Many times the same -/

theorem pings (id : PingerId) (f : Nat → UInt16 × Caller) :
    ∀ (l : List Nat) {e : Engine} (_ : IcmpEcho.Sound {} e) (_ : e.Kept id),
      Outers e (l.foldl (fun e i => e.ping id (f i).1 (f i).2) e)
  | [], _, _, _ => .nil _
  | i :: l, e, hs, hk => by
    have hacts : Acts {} e {} (e.ping id (f i).1 (f i).2) := by
      refine Acts.ping hs (fun pinger hp => ?_) _ _
      obtain ⟨⟨pinger', hp', hg⟩, -⟩ := hk
      obtain rfl := Option.some.inj (hp.symm.trans hp')
      exact hg
    exact .cons hs (.ping hk _ _)
      (pings id f l (hacts.sound hs) (Went.kept_of_steady (hacts.steady hs) hk))

theorem deliveries (source : Address) (data : Bytes) :
    ∀ (l : List Nat) {e : Engine} (_ : IcmpEcho.Sound {} e),
      Outers e (l.foldl (fun e _ => e.deliver source data) e)
  | [], _, _ => .nil _
  | _ :: l, _, hs =>
    .cons hs (.deliver _ _ _) (deliveries source data l (Moved.deliver hs source data).sound)

theorem schedules (time : Time) (source : Address) (data : Bytes) :
    ∀ (l : List Nat) {e : Engine} (_ : IcmpEcho.Sound {} e),
      Outers e (l.foldl (fun e _ => e.schedule time (.deliver source data)) e)
  | [], _, _ => .nil _
  | _ :: l, _, hs =>
    .cons hs (.schedule _ _ _ _) (schedules time source data l (hs.aside (.schedule rfl)))

/-! ## 3. Opening the service -/

theorem hubFor (hs : IcmpEcho.Sound {} e) (service : Service) (family : Family) :
    Outers e (e.hubFor service family).1 := by
  unfold Engine.hubFor
  dsimp only
  split
  · exact .nil _
  · split
    · exact .nil _
    · next settings hsettings =>
      have hopened : Outers e (e.openHub settings).1 := .one hs (.openHub _ _)
      split
      · next hopen => rwa [hopen] at hopened
      · next hopen => rwa [hopen] at hopened

theorem pingerFor (hs : IcmpEcho.Sound {} e) (service : Service) (address : Address) :
    Outers e (e.pingerFor service address).1 := by
  unfold Engine.pingerFor
  split
  · have hhub : Outers e (e.hubFor service address.family).1 := hubFor hs _ _
    obtain ⟨hmoved, -⟩ := @Moved.hubFor e 0 hs service (Nat.zero_le _) (fun _ _ => Nat.zero_le _)
      address.family
    split
    · next hfailed => rwa [hfailed] at hhub
    · next made service' hub hmade =>
      rw [hmade] at hhub hmoved
      have hregistered : Outers made (made.register hub address).1 :=
        .one hmoved.sound (.register _ _ _)
      split
      · next hrefused =>
        rw [hrefused] at hregistered
        exact hhub.trans hregistered
      · next haccepted =>
        rw [haccepted] at hregistered
        exact hhub.trans hregistered
  · split
    · exact .nil _
    · next settings hsettings =>
      have hcreated : Outers e (e.createPinger address settings).1 := .one hs (.createPinger _ _ _)
      split
      · next hfailed => rwa [hfailed] at hcreated
      · next hmade => rwa [hmade] at hcreated

theorem addTarget (hs : IcmpEcho.Sound {} e) (service : Service) (name : String) :
    Outers e (e.addTarget service name).1 := by
  unfold Engine.addTarget
  split
  · exact .nil _
  · next address hresolve =>
    have hmade : Outers e (e.pingerFor service address).1 := pingerFor hs _ _
    obtain ⟨hmoved, hpinger⟩ := @Moved.pingerFor e 0 hs service (Nat.zero_le _)
      (fun _ _ => Nat.zero_le _) address
    split
    · next hfailed => rwa [hfailed] at hmade
    · next next service' id hfor =>
      rw [hfor] at hmade hmoved hpinger
      obtain ⟨-, -, hid⟩ := hpinger service' id rfl
      obtain ⟨pinger, hp, hg⟩ := hid.alive
      have hconfigure : Acts {} next {}
          (next.updatePinger id (Pinger.configure service'.config.ping)) :=
        .configure hmoved.sound hp hg ⟨rfl, rfl, rfl, rfl, rfl⟩ rfl
      refine hmade.trans (.cons hmoved.sound ?_ (.one (hconfigure.sound hmoved.sound) ?_))
      · exact .configure hp hg ⟨rfl, rfl, rfl, rfl, rfl⟩ rfl
      · exact .logAbout _ _ _ _

theorem addTargets :
    ∀ (names : List String) {e : Engine} (_ : IcmpEcho.Sound {} e) (_ : e.Remembers)
      (service : Service), Outers e (e.addTargets service names).1
  | [], _, _, _, _ => .nil _
  | name :: names, e, hs, hr, service => by
    have hadded : Outers e (e.addTarget service name).1 := addTarget hs _ _
    obtain ⟨hmoved, -⟩ := @Moved.addTarget e 0 hs hr service (Nat.zero_le _)
      (fun _ _ => Nat.zero_le _) name
    unfold Engine.addTargets
    split
    · next hfailed => rwa [hfailed] at hadded
    · next hmade =>
      rw [hmade] at hadded hmoved
      exact hadded.trans (addTargets names hmoved.sound (hr.went hmoved.toWent) _)

/-- **Opening the service is such a row.** -/
theorem openService (hs : IcmpEcho.Sound {} e) (hr : e.Remembers) (config : Config) :
    Outers e (e.openService config).1 := by
  have hlevel : Aside e { e with logLevel := config.logLevel } := { Aside.refl e with }
  have hleveled : Outers e { e with logLevel := config.logLevel } := .one hs (.logLevel _ _)
  have hadded : Outers { e with logLevel := config.logLevel }
      (Engine.addTargets { e with logLevel := config.logLevel } { config } config.targets).1 :=
    addTargets config.targets (hs.aside hlevel) hr _
  obtain ⟨hmoved, -⟩ := @Moved.addTargets 0 config.targets _ (hs.aside hlevel) hr { config }
    (Nat.zero_le _) (fun _ _ => Nat.zero_le _)
  unfold Engine.openService
  dsimp only
  split
  · exact hleveled
  · split
    · next hfailed =>
      rw [hfailed] at hadded
      exact hleveled.trans hadded
    · next hmade =>
      rw [hmade] at hadded hmoved
      exact (hleveled.trans hadded).trans (.one hmoved.sound (.serve _ _))

end Outers

end Engine

namespace Session

variable {s : Session}

/-! ## 4. Steps -/

open Engine (Outer Outers)

/-- The step starts a raw send or a raw receive. -/
def Step.isRaw : Step → Bool
  | .send _ _ _ _ => true
  | .receive _ _ _ => true
  | _ => false

theorem Sound.drop_outers (hs : s.Sound) (name : String) :
    Outers s.engine (s.drop name).engine := by
  unfold Session.drop
  split
  · exact .nil _
  · next handle hhandle =>
    have hmem := mem_of_handle? hhandle
    cases handle with
    | socket socket => exact .one hs.engine (.closeSocket (hs.sockets name socket hmem))
    | hub id => exact .one hs.engine (.closeHub _ _)
    | pinger id =>
      have hid : id ∈ s.held := mem_held.2 ⟨name, hmem⟩
      exact .one hs.engine (.releasePinger (hs.pingers id hid) (hs.apart id hid))

theorem Sound.hold_outers (hs : s.Sound) (name : String) {ends : HubId → Address → Prop}
    {made : Except Failure Handle} (h : Outer s.engine e) (hmoved : Moved s.engine e ends) :
    Outers s.engine (s.hold name (e, made)).1.engine := by
  have hone : Outers s.engine e := .one hs.engine h
  cases made with
  | error failure => exact hone
  | ok handle => exact hone.trans ((hs.moved hmoved).drop_outers name)

theorem Sound.use_outers (name : String) {act : Engine → Handle → Engine}
    (h : ∀ handle, s.handle? name = some handle → Outers s.engine (act s.engine handle)) :
    Outers s.engine (s.use name act).engine := by
  unfold Session.use
  split
  · exact .nil _
  · next handle hhandle => exact h handle hhandle

theorem Sound.usePinger_outers (hs : s.Sound) (name : String) {act : Engine → PingerId → Engine}
    (h : ∀ id, s.engine.Kept id → Outers s.engine (act s.engine id)) :
    Outers s.engine (s.use name fun engine handle =>
      match handle with
      | .pinger id => act engine id
      | _ => engine).engine := by
  refine Sound.use_outers name fun handle hhandle => ?_
  cases handle with
  | pinger id => exact h id (hs.pingers id (mem_held.2 ⟨name, mem_of_handle? hhandle⟩))
  | _ => exact .nil _

/-- **A step is such a row**, if it starts neither a raw send nor a raw receive. -/
theorem Sound.perform_outers (hs : s.Sound) {step : Step} (hrun : ∀ duration, step ≠ .run duration)
    (hraw : step.isRaw = false) : Outers s.engine (s.perform step).1.engine := by
  have he := hs.engine
  cases step with
  | openSocket name settings =>
    exact hs.hold_outers name (.openSocket _ _) (Moved.openSocket he settings)
  | openHub name settings => exact hs.hold_outers name (.openHub _ _) (Moved.openHub he settings)
  | create name destination settings =>
    exact hs.hold_outers name (.createPinger _ _ _) (Moved.createPinger he destination settings).1
  | register name via destination =>
    simp only [Session.perform, Session.register]
    split
    · exact hs.hold_outers name (.register _ _ _) (Moved.register he _ destination).1
    · exact .nil _
  | configure name identifier size timeout =>
    refine hs.usePinger_outers name fun id hk => ?_
    obtain ⟨⟨pinger, hp, hg⟩, -⟩ := hk
    exact .one he (.configure hp hg ⟨rfl, rfl, rfl, rfl, rfl⟩ rfl)
  | ping name sequence tag again =>
    exact hs.usePinger_outers name fun id hk => .one he (.ping hk _ _)
  | burst name sequence count =>
    refine hs.usePinger_outers name fun id hk => ?_
    exact .pings id
      (fun i => (sequence + UInt16.ofNat i, .scripted (name ++ "#" ++ toString i) [])) _ he hk
  | drop name => exact hs.drop_outers name
  | close name =>
    refine Sound.use_outers name fun handle hhandle => ?_
    cases handle with
    | socket socket =>
      exact .one he (.closeSocket (hs.sockets name socket (mem_of_handle? hhandle)))
    | hub id => exact .one he (.closeHub _ _)
    | pinger id => exact .nil _
  | cancel name =>
    refine Sound.use_outers name fun handle hhandle => ?_
    cases handle with
    | socket socket =>
      exact .one he (.cancelSocket (hs.sockets name socket (mem_of_handle? hhandle)))
    | _ => exact .nil _
  | send name destination data tag => cases hraw
  | receive name room tag => cases hraw
  | deliver source data count time =>
    cases time with
    | none => exact .deliveries source data _ he
    | some time => exact .schedules time source data _ he
  | failReceives family errno only => exact .one he (.failReceives _ _ _ _)
  | run duration => exact absurd rfl (hrun duration)
  | logLevel level => exact .one he (.logLevel _ _)

end Session

end IcmpEcho
