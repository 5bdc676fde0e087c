/-
# Opening sockets, hubs and pingers

Whatever happens to an engine keeps the invariant and leads onward, and keeps the pingers that
somebody holds and those of the service's targets (`Went`).  What a session does to it from
outside, between tasks, is also still: it ends only the registrations that it is about (`Moved`).
Here this is shown for what makes sockets, hubs and pingers.

A socket that cannot be set up uses up a number and belongs to nobody (`Engine.openSocket_grows`).
-/
import IcmpEcho.Proofs.Mail

namespace IcmpEcho

variable {e e' e'' : Engine}

/-! ## 1. Moving on -/

/-- `e'` comes from `e` by something that happened between tasks, or by a task. -/
structure Went (e e' : Engine) : Prop where
  sound : Sound {} e'
  onward : Onward e e'
  kept : ∀ id, e.Kept id → e'.Kept id
  released : ∀ id ∈ e'.released, id ∈ e.released
  targets : ∀ id ∈ e'.targetPingers, id ∈ e.targetPingers ∨ e.pingers.size ≤ id

/-- `e'` comes from `e` by something that was done from outside, and registrations in `may` can have
ended. -/
structure Moved (e e' : Engine) (may : HubId → Address → Prop := fun _ _ => False) : Prop
    extends Went e e' where
  still : Still may e e'
  attended : e.Attended → e'.Attended

/-- The pinger was made by whatever led from `e` to `e'`, and is not yet the service's. -/
structure Engine.Made (e e' : Engine) (id : PingerId) : Prop where
  fresh : e.pingers.size ≤ id
  alive : ∃ pinger, e'.pingers[id]? = some pinger ∧ pinger.gone = false
  spare : id ∉ e'.targetPingers

theorem Sound.target_lt {hand : Hand} (hs : Sound hand e) {id : PingerId}
    (hid : id ∈ e.targetPingers) : id < e.pingers.size := by
  obtain ⟨⟨pinger, hp, -⟩, -⟩ := hs.targets id hid
  exact (Array.getElem?_eq_some_iff.1 hp).1

/-- A task may have ended registrations; what is not in the hand of a handler any more is kept. -/
theorem Sound.withMay {hand : Hand} (hs : Sound hand e) (may : HubId → Address → Prop) :
    Sound { hand with may } e := { hs with }

namespace Went

theorem refl (hs : Sound {} e) : Went e e :=
  ⟨hs, .refl e, fun _ h => h, fun _ h => h, fun _ h => .inl h⟩

theorem trans (h : Went e e') (h' : Went e' e'') (hs : Sound {} e) : Went e e'' where
  sound := h'.sound
  onward := h.onward.trans h'.onward hs.wired
  kept id hid := h'.kept id (h.kept id hid)
  released id hid := h.released id (h'.released id hid)
  targets id hid := by
    rcases h'.targets id hid with hold | hnew
    · exact h.targets id hold
    · exact .inr (Nat.le_trans h.onward.pingerCount hnew)

theorem kept_of_steady (h : Steady e e') {id : PingerId} (hk : e.Kept id) : e'.Kept id := by
  obtain ⟨⟨pinger, hp, hg⟩, hrel⟩ := hk
  obtain ⟨pinger', hp', hfollows⟩ := h.pingers id pinger hp
  exact ⟨⟨pinger', hp', hfollows.gone.trans hg⟩, by rwa [h.released]⟩

theorem of_steady (hs' : Sound {} e') (h : Steady e e') : Went e e' where
  sound := hs'
  onward := .of_steady h
  kept _ := kept_of_steady h
  released id hid := by rwa [← h.released]
  targets id hid := .inl (by rwa [← h.targets])

theorem of_grows (hs : Sound {} e) (h : Grows e e') : Went e e' where
  sound := h.sound hs
  onward := .of_grows h
  kept id hk := by
    obtain ⟨⟨pinger, hp, hg⟩, hrel⟩ := hk
    exact ⟨⟨pinger, h.pinger_of_some hp, hg⟩, by rwa [h.released]⟩
  released id hid := by rwa [← h.released]
  targets id hid := .inl (by rwa [← h.targets])

end Went

namespace Moved

variable {may may' : HubId → Address → Prop}

theorem refl (hs : Sound {} e) : Moved e e may := ⟨.refl hs, .refl e, fun h => h⟩

theorem trans (h : Moved e e' may) (h' : Moved e' e'' may) (hs : Sound {} e) : Moved e e'' may :=
  ⟨h.toWent.trans h'.toWent hs, h.still.trans h'.still, fun ha => h'.attended (h.attended ha)⟩

/-- More registrations may end. -/
theorem mono (h : Moved e e' may) (hmay : ∀ id address, may id address → may' id address) :
    Moved e e' may' :=
  { h with still := h.still.mono hmay }

/-- When no registration ends, any may. -/
theorem any (h : Moved e e') : Moved e e' may := h.mono fun _ _ hno => hno.elim

/-- What is steady and still moves. -/
theorem of_steady (hs : Sound {} e) (hs' : Sound {} e') (h : Steady e e')
    (still : Still (fun _ _ => False) e e') : Moved e e' :=
  ⟨.of_steady hs' h, still, fun ha => still.attended_of_none ha hs.listed⟩

theorem of_acts (hs : Sound {} e) (h : Acts {} e {} e') : Moved e e' :=
  of_steady hs (h.sound hs) (h.steady hs) (h.still hs)

theorem of_aside (hs : Sound {} e) (h : Aside e e') : Moved e e' := of_acts hs (.aside h)

theorem of_grows (hs : Sound {} e) (h : Grows e e') : Moved e e' :=
  have still := h.still hs.wired
  ⟨.of_grows hs h, still, fun ha => still.attended_of_none ha hs.listed⟩

end Moved

/-! ## 2. Sockets -/

namespace Aside

theorem withSockets (h : Aside e e') (sockets : Array RawSocket) :
    Aside { e with sockets } { e' with sockets } := { h with sockets := rfl }

theorem withHubs (h : Aside e e') (hubs : Array Hub) :
    Aside { e with hubs } { e' with hubs } := { h with hubs := rfl }

theorem withPingers (h : Aside e e') (pingers : Array Pinger) (identifier : UInt16) :
    Aside { e with pingers, nextIdentifier := identifier }
      { e' with pingers, nextIdentifier := identifier } := { h with pingers := rfl }

theorem limiters (limiters : Array (Option (Rate.Limiter Sender))) :
    Aside e { e with limiters } := { refl e with }

theorem setUp (socket : SocketId) :
    ∀ (steps : List (SetupStage × SetupStep)) (e : Engine), Aside e (e.setUp socket steps).1
  | [], e => refl e
  | (stage, step) :: steps, e => by
    unfold Engine.setUp
    split
    · exact refl e
    · exact (record rfl).trans (setUp socket steps _)

end Aside

namespace Engine

/-- **Opening a socket adds one**, whether it succeeds or not. -/
theorem openSocket_grows (e : Engine) (settings : SocketSettings) :
    ∃ record : RawSocket, record.Idle ∧
      Aside { e with sockets := e.sockets.push record } (e.openSocket settings).1 ∧
      ∀ socket, (e.openSocket settings).2 = .ok socket → socket = e.sockets.size := by
  let fresh : RawSocket := { family := settings.family, limiter := e.limiters.size }
  let start : Engine := { e with
    sockets := e.sockets.push fresh
    limiters := e.limiters.push none }
  have hstart : Aside { e with sockets := e.sockets.push fresh } start := .limiters _
  have hopening := Aside.setUp e.sockets.size [(.opening, .opened settings.family)] start
  unfold Engine.openSocket
  dsimp only
  split
  · next opened failure hopen =>
    rw [hopen] at hopening
    exact ⟨fresh, ⟨rfl, rfl⟩, hstart.trans hopening, by simp⟩
  · next opened hopen =>
    rw [hopen] at hopening
    split
    · exact ⟨fresh, ⟨rfl, rfl⟩, hstart.trans hopening, by simp⟩
    · next value hvalue =>
      have hsteps := Aside.setUp e.sockets.size settings.steps opened
      split
      · next done failure hdone =>
        rw [hdone] at hsteps
        exact ⟨fresh, ⟨rfl, rfl⟩, (hstart.trans hopening).trans hsteps, by simp⟩
      · next done hdone =>
        rw [hdone] at hsteps
        refine ⟨{ fresh with isOpen := true }, ⟨rfl, rfl⟩, ?_, by simp⟩
        have hall := ((hstart.trans hopening).trans hsteps).trans
          (.setLimiter e.limiters.size value)
        have hsockets : (done.setLimiter e.limiters.size value).sockets.modify e.sockets.size
            (fun record => { record with isOpen := true })
            = e.sockets.push { fresh with isOpen := true } := by
          rw [hall.sockets]
          refine Array.ext_getElem? fun i => ?_
          simp only [Array.getElem?_modify, Array.getElem?_push]
          by_cases hi : i = e.sockets.size
          · simp [hi]
          · simp [hi, Ne.symm hi]
        have hopened := hall.withSockets (e.sockets.push { fresh with isOpen := true })
        rw [← hsockets] at hopened ⊢
        exact hopened.trans (.logDated _ _)

end Engine

namespace Moved

theorem openSocket (hs : Sound {} e) (settings : SocketSettings) :
    Moved e (e.openSocket settings).1 := by
  obtain ⟨record, hr, haside, -⟩ := e.openSocket_grows settings
  have hgrows := of_grows hs (.pushSocket hr)
  exact hgrows.trans (of_aside hgrows.sound haside) hs

/-- A socket that was opened belongs to nobody. -/
theorem openSocket_fits (hs : Sound {} e) (settings : SocketSettings) {socket : SocketId}
    (h : (e.openSocket settings).2 = .ok socket) (tag : String) :
    (e.openSocket settings).1.Fits (.raw tag) (.socket socket) := by
  obtain ⟨record, -, haside, hnumber⟩ := e.openSocket_grows settings
  obtain rfl := hnumber socket h
  refine (haside.receives.ports.fits _ _).2 ⟨by simp, fun client hclient => ?_⟩
  have hport : e.port? client = some (.socket e.sockets.size) := by
    cases client <;> exact hclient
  exact Nat.lt_irrefl _ (hs.wired.valid client _ hport)

/-- **Opening a hub.** -/
theorem openHub (hs : Sound {} e) (settings : SocketSettings) :
    Moved e (e.openHub settings).1 := by
  obtain ⟨record, hr, haside, hnumber⟩ := e.openSocket_grows settings
  have hopened := openSocket hs settings
  unfold Engine.openHub
  split
  · next opened failure hopen => rwa [hopen] at hopened
  · next opened socket hopen =>
    rw [hopen] at haside hnumber
    obtain rfl := hnumber socket rfl
    have hgrows := of_grows hs (.pushHub hs.wired hr)
    have hrest := haside.withHubs (e.hubs.push { socket := e.sockets.size })
    have hhubs : opened.hubs = e.hubs := haside.hubs
    simp only [hhubs]
    exact hgrows.trans (of_aside hgrows.sound hrest) hs

/-- **Making a pinger with a socket of its own.** -/
theorem createPinger (hs : Sound {} e) (destination : Address) (settings : SocketSettings) :
    Moved e (e.createPinger destination settings).1 ∧
      ∀ id, (e.createPinger destination settings).2 = .ok id →
        Engine.Made e (e.createPinger destination settings).1 id := by
  let settings' : SocketSettings := { settings with family := destination.family }
  obtain ⟨record, hr, haside, hnumber⟩ := e.openSocket_grows settings'
  have hopened := openSocket hs settings'
  unfold Engine.createPinger
  split
  · next opened failure hopen =>
    rw [hopen] at hopened
    exact ⟨hopened, by simp⟩
  · next opened socket hopen =>
    rw [hopen] at haside hnumber
    obtain rfl := hnumber socket rfl
    let pinger : Pinger :=
      { destination, identifier := opened.nextIdentifier, socket := e.sockets.size }
    have hgrows : Grows e { e with
        sockets := e.sockets.push record
        pingers := e.pingers.push pinger
        nextIdentifier := opened.nextIdentifier + 1 } := by
      refine .pushPinger (fun id => ?_) ⟨rfl, rfl, rfl⟩ ?_ (Grows.not_fits_size hs.wired)
      · exact (Array.getElem?_push_cases e.sockets record id).imp_right
          fun ⟨hnone, hnew⟩ => ⟨hnone, record, hnew, hr⟩
      · simp [Pinger.port, pinger, Engine.hasPort]
    have hmoved := of_grows hs hgrows
    have hrest := haside.withPingers (e.pingers.push pinger) (opened.nextIdentifier + 1)
    have hpingers : opened.pingers = e.pingers := haside.pingers
    simp only [Engine.addPinger, hpingers]
    refine ⟨hmoved.trans (of_aside hmoved.sound hrest) hs, fun id hid => ?_⟩
    obtain rfl := Except.ok.inj hid
    refine ⟨Nat.le_refl _, ⟨pinger, by simp [pinger], rfl⟩, fun ht => ?_⟩
    rw [hrest.targets] at ht
    exact Nat.lt_irrefl _ (hs.target_lt ht)

end Moved

end IcmpEcho
