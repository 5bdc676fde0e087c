/-
# Every ping ends once

Whoever asks for a ping is told once how it ended, and never while asking.  Until then the ping is
in exactly one place: refused by a task that is ready, or among the calls of its pinger, as the
only call of its token and with its own timer (`Engine.Accounts`).

A ping is refused for its size, or because its size fits and its token is taken; then no pinger
changes.  Every other ping becomes a call (`Engine.ping_asks`).

So when no task is ready, **every ping that was not told has a timer on the timeline**, and
nothing is forgotten (`Session.every_ping_ends_once`).
-/
import IcmpEcho.Proofs.Matching

namespace IcmpEcho

variable {e e' : Engine} {id : PingerId} {pinger : Pinger}

/-! ## 1. Asking -/

namespace Engine

/-- The ping that is asked for next, if pinger `id` asks. -/
def asking (e : Engine) (id : PingerId) (pinger : Pinger) (sequence : UInt16) (caller : Caller) :
    Ping :=
  { number := e.nextPing, pinger := id,
    token := { identifier := pinger.identifier, sequence }, caller,
    asked := e.now, timeout := pinger.timeout }

/-- Why a ping is refused, if it is. -/
def refusalOf (pinger : Pinger) (sequence : UInt16) : Option PingFault :=
  if maxPayload pinger.destination.family < pinger.size then some .packetTooLarge
  else if (pinger.call? { identifier := pinger.identifier, sequence }).isSome then
    some .sequenceInFlight
  else none

/-- What asking for a ping does at once. -/
structure Asks (id : PingerId) (pinger : Pinger) (sequence : UInt16) (caller : Caller)
    (e e' : Engine) : Prop where
  endings : e'.endings = e.endings
  journal : e'.journal.filterMap Event.done? = e.journal.filterMap Event.done?
  pings : e'.pings = e.asking id pinger sequence caller :: e.pings
  nextPing : e'.nextPing = e.nextPing + 1
  refused : ∀ fault, refusalOf pinger sequence = some fault →
    e'.ready = e.ready ++ [.noPing id e.nextPing caller fault.code sequence] ∧
      e'.pingers = e.pingers
  entered : refusalOf pinger sequence = none →
    e'.refused e.nextPing = e.refused e.nextPing ∧
      ∃ call : Call, call.Records id (e.asking id pinger sequence caller) ∧ call.timer = e.nextPing ∧
        e'.callsOf id = call.insert pinger.calls

/-- **What a ping comes to at once.**  It is refused by a task or entered, and nobody is told. -/
theorem ping_asks (hp : e.pingers[id]? = some pinger) (sequence : UInt16) (caller : Caller) :
    Asks id pinger sequence caller e (e.ping id sequence caller) := by
  have hrefuse : ∀ fault, refusalOf pinger sequence = some fault →
      Asks id pinger sequence caller e
        (e.refuse id pinger { identifier := pinger.identifier, sequence } caller fault) := by
    intro fault hfault
    refine ⟨rfl, rfl, rfl, rfl, fun other hother => ?_, fun hnone => ?_⟩
    · obtain rfl := Option.some.inj (hfault.symm.trans hother)
      exact ⟨rfl, rfl⟩
    · rw [hnone] at hfault
      cases hfault
  unfold ping
  simp only [hp]
  split
  · next fault hfault =>
    obtain ⟨hsize, rfl⟩ := encodeRequest_eq_error_iff.1 hfault
    exact hrefuse _ (if_pos hsize)
  · next packet hpacket =>
    have hfits : ¬ maxPayload pinger.destination.family < pinger.size := fun hsize => by
      rw [encodeRequest_eq_error_iff.2 ⟨hsize, rfl⟩] at hpacket
      cases hpacket
    split
    · next hbusy => exact hrefuse _ (by rw [refusalOf, if_neg hfits, if_pos hbusy])
    · next hfree =>
      have hnone : refusalOf pinger sequence = none := by
        rw [refusalOf, if_neg hfits, if_neg hfree]
      let token : Token := { identifier := pinger.identifier, sequence }
      let call : Call := { token, queued := e.now, sent := e.now, timer := e.nextPing, caller }
      let entered := e.enterCall id pinger token caller
      have hrest : SameCalls entered (e.startCall id pinger token caller packet) :=
        (SameCalls.startReceive id).trans (.of_aside (.submit _ _ _ _))
      have hcalls : entered.callsOf id = call.insert pinger.calls := by
        have hp' : (e.noteAsked id pinger token caller).pingers[id]? = some pinger := hp
        exact (callsOf_updatePinger hp' _ id).trans (if_pos rfl)
      exact {
        endings := hrest.endings
        journal := hrest.journal
        pings := hrest.pings
        nextPing := hrest.nextPing
        refused := fun fault hfault => by
          rw [hnone] at hfault
          cases hfault
        entered := fun _ => ⟨hrest.refused _, call, ⟨rfl, rfl, rfl, rfl⟩, rfl,
          (hrest.calls id).trans hcalls⟩ }

end Engine

/-! ## 2. Where a ping is -/

/-- **A ping is in one place.**  It was told, it is a call of its pinger, or a task refuses it. -/
structure Engine.Accounts (e : Engine) (number : PingId) (ping : Ping) : Prop where
  once : e.told number + e.entered ping.pinger number + e.refused number = 1
  /-- What was told has the sequence number that was asked for. -/
  told : ∀ ending ∈ e.endings, ending.ping = number →
    ending.result.sequence = ping.token.sequence
  /-- A call is the only one of its token, and its timer is set or has rung. -/
  call : ∀ call ∈ e.callsOf ping.pinger, call.timer = number →
    call.Records ping.pinger ping ∧
      (∀ other ∈ e.callsOf ping.pinger, other.token = ping.token → other = call) ∧
      e.armed (.call ping.pinger ping.token number) = 1
  refusal : ∀ id caller code sequence, .noPing id number caller code sequence ∈ e.ready →
    ping.pinger = id ∧ ping.caller = caller ∧ ping.token.sequence = sequence ∧
      (code = PingFault.packetTooLarge.code ∨ code = PingFault.sequenceInFlight.code)

namespace Sound

/-- **Every ping is accounted for.** -/
theorem accounts (hs : Sound {} e) {number : PingId} {ping : Ping}
    (hping : e.ping? number = some ping) : e.Accounts number ping where
  once := by simpa using hs.ledger.once number ping hping
  told ending hending hnumber := by
    obtain ⟨other, hother, hsequence⟩ := hs.ledger.ended ending hending
    rw [hnumber, hping] at hother
    obtain rfl := Option.some.inj hother
    exact hsequence
  call call hcall hnumber := by
    obtain ⟨other, hother, hrecords⟩ := hs.ledger.entered _ call hcall
    rw [hnumber, hping] at hother
    obtain rfl := Option.some.inj hother
    refine ⟨hrecords, fun other hother htoken => ?_, ?_⟩
    · exact List.inj_on_of_nodup_map (hs.ledger.tokens _) hother hcall
        (htoken.trans hrecords.token)
    · have harmed := hs.armed.rings _ call hcall
      rw [hnumber, ← hrecords.token] at harmed
      simpa using harmed
  refusal id caller code sequence htask := by
    obtain ⟨other, hother, hid, hsequence, hcaller, hcode⟩ :=
      hs.ledger.refused id number caller code sequence htask
    obtain rfl := Option.some.inj (hping.symm.trans hother)
    exact ⟨hid, hcaller, hsequence, hcode⟩

/-- **When no task is ready, a ping that was not told is a call whose timer is set.** -/
theorem waits_for_timer (hs : Sound {} e) (hready : e.ready = []) {number : PingId} {ping : Ping}
    (hping : e.ping? number = some ping) (htold : e.told number = 0) :
    ∃ call ∈ e.callsOf ping.pinger, call.timer = number ∧ call.token = ping.token ∧
      (e.timeline.countP fun entry => entry.2 = .ring (.call ping.pinger ping.token number)) = 1 := by
  have haccounts := hs.accounts hping
  have hrefused : e.refused number = 0 := by simp [Engine.refused, hready]
  have hentered : 0 < e.entered ping.pinger number := by
    have honce := haccounts.once
    omega
  obtain ⟨call, hcall, htimer⟩ := List.countP_pos_iff.1 hentered
  have htimer : call.timer = number := of_decide_eq_true htimer
  obtain ⟨hrecords, -, harmed⟩ := haccounts.call call hcall htimer
  refine ⟨call, hcall, htimer, hrecords.token.symm, ?_⟩
  simpa [Engine.armed, hready] using harmed

end Sound

/-! ## 3. All runs -/

namespace Session

variable {s : Session}

/-- **Every ping ends once.**

In every reachable session each ping is in one place, and what its caller was told is what can be
seen of it; nobody is told of a ping that was not asked for, and what was told once stays told.
Asking itself tells nobody.  When no task is ready, whoever was not told has a call whose timer is
set. -/
theorem every_ping_ends_once (hr : Reachable s) :
    (∀ number ping, s.engine.ping? number = some ping → s.engine.Accounts number ping) ∧
    (∀ ending ∈ s.engine.endings, ∃ ping, s.engine.ping? ending.ping = some ping) ∧
    s.engine.journal.filterMap Event.done? = s.engine.endings.filterMap s.engine.doneOf ∧
    (∀ past s', Run s past s' → s.engine.endings <:+ s'.engine.endings) ∧
    (∀ (e : Engine) id pinger sequence caller, e.pingers[id]? = some pinger →
      Engine.Asks id pinger sequence caller e (e.ping id sequence caller)) ∧
    (s.engine.ready = [] → ∀ number ping, s.engine.ping? number = some ping →
      s.engine.told number = 0 → ∃ call ∈ s.engine.callsOf ping.pinger, call.timer = number ∧
        call.token = ping.token ∧ (s.engine.timeline.countP fun entry =>
          entry.2 = .ring (.call ping.pinger ping.token number)) = 1) := by
  have hs := hr.sound
  refine ⟨fun _ _ => hs.engine.accounts, fun ending hending => ?_, hs.engine.ledger.seen,
    fun past s' hrun => (hrun.leads hs).onward.endings,
    fun e id pinger sequence caller hp => Engine.ping_asks hp sequence caller,
    fun hready _ _ => hs.engine.waits_for_timer hready⟩
  obtain ⟨ping, hping, -⟩ := hs.engine.ledger.ended ending hending
  exact ⟨ping, hping⟩

/-- Two pings with one sequence number: the first is a call, the second is refused. -/
theorem every_ping_ends_once_of_two :
    let created := ((fresh {} 1 none [] []).perform (.create "pinger" (.ofOctets 10 0 0 1) {})).1
    let s := ((created.perform (.ping "pinger" 1 "a" [])).1.perform (.ping "pinger" 1 "b" [])).1
    let token : Token := { identifier := 4096, sequence := 1 }
    let first : Ping := ⟨0, 0, token, .scripted "a" [], 0, 2000000000⟩
    let second : Ping := ⟨1, 0, token, .scripted "b" [], 0, 2000000000⟩
    s.engine.Accounts 0 first ∧ s.engine.Accounts 1 second ∧
      s.engine.entered 0 0 = 1 ∧ s.engine.refused 1 = 1 := by
  intro created s token first second
  have hr : Reachable s := (((Reachable.fresh _ _ _ _ _).perform _).perform _).perform _
  have hfirst : s.engine.ping? 0 = some first := by decide +kernel
  have hsecond : s.engine.ping? 1 = some second := by decide +kernel
  have haccounts := (every_ping_ends_once hr).1
  exact ⟨haccounts 0 first hfirst, haccounts 1 second hsecond, by decide +kernel,
    by decide +kernel⟩

end Session

end IcmpEcho
