/-
# A service that nobody answers

On a network without hosts every send succeeds at once and no reply comes.  The service with one
target there (`Config.unanswered`) begins a round every second and waits for half a second, as many
times as it was told.  Its run can be followed to the end: but for its records of the past, the
engine is always in a state that a few values describe, a `Scene`.

Each function that takes part leads from one scene to another.  A round takes three steps (the
request has left, its timer rings, the ping ends) and two more lead to the next one, so the run is
an induction on the rounds that are left (`stop_of_asked`).

**The service makes as many rounds as it was told and counts each of them**
(`serve_counts_every_round`): after its line for every request comes the summary of a target to
which `count` requests were sent and which answered none.  With one round more than `mostLost` that
summary is wrong: all was lost, and it says that nothing was (`all_lost_reads_as_none`).
-/
import IcmpEcho.Proofs.Losses
import IcmpEcho.Proofs.ServiceRuns

namespace IcmpEcho

open Rate (Meter)

/-- One target, for some rounds, with requests that carry nothing and nothing in the log. -/
def Config.unanswered (count : UInt32) : Config :=
  { logLevel := 5, targets := ["10.0.0.1"], count, ping := { size := 0, timeout := 500 } }

namespace Unanswered

/-! ## 1. Scenes -/

/-- The time between rounds. -/
def interval : Time := 1000000000

/-- How long a reply is waited for. -/
def patience : Time := 500000000

def address : Address := .ofOctets 10 0 0 1

/-- The target after some requests. -/
def target (transmitted : UInt32) : Target :=
  { name := "10.0.0.1", address, pinger := 0, transmitted }

/-- The line for a request. -/
def line (sequence : UInt16) : String :=
  "Request timeout for icmp_seq " ++ toString sequence ++ " (10.0.0.1)"

/-- What changes from one state of the run to another, but for the records of the past. -/
structure Scene where
  count : UInt32
  round : UInt32 := 0
  transmitted : UInt32 := 0
  outstanding : UInt32 := 0
  nextPing : PingId := 0
  now : Time := 0
  ready : List Task := []
  timeline : List (Time × Happening) := []
  meter : Meter := { limit := 10000 }
  receiving : Bool := true
  calls : List Call := []
  output : List String := []

namespace Scene

def pinger (scene : Scene) : Pinger :=
  { destination := address, identifier := 4096, size := 0, timeout := patience, socket := 0,
    mailbox := some 0, calls := scene.calls, receiving := scene.receiving }

def service (scene : Scene) : Service :=
  { config := .unanswered scene.count, targets := #[target scene.transmitted], hubV4 := some 0,
    round := scene.round, outstanding := scene.outstanding }

/-- A scene as an engine, with the records of another. -/
def set (scene : Scene) (e : Engine) : Engine :=
  { e with
    network := {}
    now := scene.now
    stopped := false
    ready := scene.ready
    timeline := scene.timeline
    logLevel := 5
    sockets := #[{ family := .v4, isOpen := true, receiver := some (.hub 0, Pinger.room) }]
    limiters := #[some { meter := scene.meter }]
    mailboxes := #[{ receiver := if scene.receiving then some (.pinger 0) else none }]
    pingers := #[scene.pinger]
    hubs := #[{ socket := 0, registry := [(address, 0)], running := true }]
    nextPing := scene.nextPing
    released := []
    service := some scene.service
    awaitsSignal := true
    output := scene.output }

end Scene

end Unanswered

/-- The engine is in the state that a scene describes. -/
def Engine.Shows (e : Engine) (scene : Unanswered.Scene) : Prop := scene.set e = e

namespace Unanswered

variable {scene : Scene} {e : Engine}

theorem Scene.shows_set (scene : Scene) (e : Engine) : (scene.set e).Shows scene := rfl

/-! ## 2. How the service is opened -/

/-- The engine once the hub is open. -/
def withHub : Engine :=
  { journal := [.setup 0 (.ttl 64), .setup 0 (.opened .v4)]
    logLevel := 5
    sockets := #[{ family := .v4, isOpen := true }]
    limiters := #[some { meter := { limit := 10000 } }]
    hubs := #[{ socket := 0 }] }

/-- The engine once a pinger is registered with the hub. -/
def withPinger : Engine :=
  { withHub with
    sockets := #[{ family := .v4, isOpen := true, receiver := some (.hub 0, Pinger.room) }]
    mailboxes := #[{ }]
    hubs := #[{ socket := 0, registry := [(address, 0)], running := true }]
    pingers := #[{ destination := address, identifier := 4096, socket := 0, mailbox := some 0 }]
    nextIdentifier := 4097 }

/-- The first round is to begin. -/
def opening (count : UInt32) : Scene := { count, receiving := false }

/-- The engine once the service is open. -/
def withService (count : UInt32) : Engine :=
  { withPinger.updatePinger 0 (Pinger.configure (Config.unanswered count).ping) with
    service := some (opening count).service }

theorem resolve : ({} : Network).resolve "10.0.0.1" = .ok address := by
  have hparse : Address.parse? "10.0.0.1" = some address := by decide +kernel
  rw [Network.resolve, hparse]

theorem openHub : ({ logLevel := 5 } : Engine).openHub { ttl := 64 } = (withHub, .ok 0) := rfl

theorem register : withHub.register 0 address = (withPinger, .ok 0) := rfl

theorem pingerFor (count : UInt32) :
    ({ logLevel := 5 } : Engine).pingerFor { config := .unanswered count } address
      = (withPinger, .ok ({ config := .unanswered count, hubV4 := some 0 }, 0)) := by
  have hhub : ({ logLevel := 5 } : Engine).hubFor { config := .unanswered count } .v4
      = (withHub, .ok ({ config := .unanswered count, hubV4 := some 0 }, 0)) := by
    have hsettings : (Config.unanswered count).socketSettings .v4 = .ok { ttl := 64 } := rfl
    simp only [Engine.hubFor, hsettings, openHub]
  have hshared : (Config.unanswered count).sharedSocket = true := rfl
  have hfamily : address.family = .v4 := rfl
  simp only [Engine.pingerFor, hshared, if_true, hfamily, hhub, register]

theorem addTarget (count : UInt32) :
    ({ logLevel := 5 } : Engine).addTarget { config := .unanswered count } "10.0.0.1"
      = (withPinger.updatePinger 0 (Pinger.configure (Config.unanswered count).ping),
          .ok (opening count).service) := by
  simp only [Engine.addTarget, resolve, pingerFor]
  rfl

theorem openService (count : UInt32) :
    ({} : Engine).openService (.unanswered count) = (withService count, .ok ()) := by
  have htargets : (Config.unanswered count).targets = ["10.0.0.1"] := rfl
  have hlevel : (Config.unanswered count).logLevel = 5 := rfl
  simp only [Engine.openService, htargets, hlevel, Engine.addTargets, addTarget, List.isEmpty_cons]
  rfl

theorem shows_opening (count : UInt32) :
    ({ withService count with awaitsSignal := true } : Engine).Shows (opening count) := rfl

/-! ## 3. How a round begins -/

/-- The call that a ping enters. -/
def Scene.call (scene : Scene) (sequence : UInt16) : Call :=
  { token := { identifier := 4096, sequence }, queued := scene.now, sent := scene.now,
    timer := scene.nextPing, caller := .target 0 }

/-- The timer of a call. -/
def alarm (call : Call) : Alarm := .call 0 call.token call.timer

/-- Who is told how the request of a call left. -/
def client (call : Call) : SendClient := .call 0 call.token call.timer

/-- No call is outstanding and no timer is set. -/
structure Scene.Idle (scene : Scene) : Prop where
  calls : scene.calls = []
  timeline : scene.timeline = []

/-- The scene after a ping. -/
def Scene.pinged (scene : Scene) (sequence : UInt16) (meter : Meter) : Scene :=
  { scene with
    nextPing := scene.nextPing + 1
    ready := scene.ready ++ [.sent (client (scene.call sequence)) .success 8]
    timeline := [(scene.now + patience, .ring (alarm (scene.call sequence)))]
    meter
    receiving := true
    calls := [scene.call sequence] }

/-- The scene after the pings of a round. -/
def Scene.begun (scene : Scene) (meter : Meter) : Scene :=
  { scene.pinged scene.round.toUInt16 meter with
    round := scene.round + 1
    transmitted := scene.transmitted + 1
    outstanding := scene.outstanding + 1 }

theorem patience_le (time : Time) : time + patience ≤ time + interval :=
  Int.add_le_add_left (by decide) time

theorem resultLine_timeout (transmitted : UInt32) (sequence : UInt16) :
    (target transmitted).resultLine PingFault.timeout.code { sequence } = line sequence := by
  have htext : address.toText = "10.0.0.1" := by decide +kernel
  have hplace : " (" ++ ("10.0.0.1" ++ ")") = " (10.0.0.1)" := by decide +kernel
  unfold Target.resultLine
  split
  · next hreply => cases hreply
  · rw [if_pos rfl, show (target transmitted).address = address from rfl, htext,
      String.append_assoc, String.append_assoc, hplace]
    rfl

end Unanswered

namespace Engine.Shows

open Unanswered

variable {scene : Scene} {e : Engine} {meter : Meter}

theorem enterCall (h : e.Shows scene) (hidle : scene.Idle) (sequence : UInt16)
    (hend : scene.now + patience ≤ endOfTime) :
    (e.enterCall 0 scene.pinger { identifier := 4096, sequence } (.target 0)).Shows
      { scene with
        nextPing := scene.nextPing + 1
        timeline := [(scene.now + patience, .ring (alarm (scene.call sequence)))]
        calls := [scene.call sequence] } := by
  have hring : (e.enterCall 0 scene.pinger { identifier := 4096, sequence } (.target 0)).Shows
      { scene with
        nextPing := scene.nextPing + 1
        timeline := [(min (scene.now + patience) endOfTime, .ring (alarm (scene.call sequence)))]
        calls := [scene.call sequence] } := by
    obtain ⟨count, round, transmitted, outstanding, nextPing, now, ready, timeline, meter,
      receiving, calls, output⟩ := scene
    obtain ⟨rfl, rfl⟩ := hidle
    rw [← h]
    rfl
  rwa [Int.min_eq_left hend] at hring

theorem startReceive (h : e.Shows scene) (hcalls : scene.calls ≠ []) :
    (e.startReceive 0).Shows { scene with receiving := true } := by
  obtain ⟨count, round, transmitted, outstanding, nextPing, now, ready, timeline, meter,
    receiving, calls, output⟩ := scene
  obtain ⟨call, rest, rfl⟩ := List.exists_cons_of_ne_nil hcalls
  rw [← h]
  cases receiving <;> rfl

theorem submit (h : e.Shows scene) (packet : Bytes) (client : SendClient)
    (hshot : scene.meter.shot Engine.rounding scene.now = (meter, 0)) :
    (e.submit 0 packet address client).Shows
      { scene with meter, ready := scene.ready ++ [.sent client .success packet.length] } := by
  have hgo : ({ meter := scene.meter } : Rate.Limiter Sender).acquire Engine.rounding scene.now
      (.datagram 0 packet address client) = ({ meter }, .go) := by
    simp [Rate.Limiter.acquire, hshot]
  have hsocket : (scene.set e).sockets[0]?
      = some { family := .v4, isOpen := true, receiver := some (.hub 0, Pinger.room) } := rfl
  have hlimiter : (scene.set e).limiter? 0 = some { meter := scene.meter } := rfl
  have hnow : (scene.set e).now = scene.now := rfl
  have hlaunch : (scene.set e).submit 0 packet address client
      = ((scene.set e).setLimiter 0 { meter }).launch 0 packet address client := by
    simp only [Engine.submit, hsocket, hlimiter, hnow, hgo]
    rfl
  rw [← h, hlaunch]
  rfl

theorem ping (h : e.Shows scene) (hidle : scene.Idle) (sequence : UInt16)
    (hend : scene.now + patience ≤ endOfTime)
    (hshot : scene.meter.shot Engine.rounding scene.now = (meter, 0)) :
    (e.ping 0 sequence (.target 0)).Shows (scene.pinged sequence meter) := by
  obtain ⟨packet, hpacket, hlength⟩ :
      ∃ packet, encodeRequest .v4 4096 sequence 0 = .ok packet ∧ packet.length = 8 := ⟨_, rfl, rfl⟩
  have hpinger : e.pingers[0]? = some scene.pinger := by rw [← h]; rfl
  have hnumber : e.nextPing = scene.nextPing := by rw [← h]; rfl
  have hencoded : encodeRequest scene.pinger.destination.family scene.pinger.identifier sequence
      scene.pinger.size = .ok packet := hpacket
  have hfree : scene.pinger.call? { identifier := scene.pinger.identifier, sequence } = none := by
    rw [Pinger.call?, show scene.pinger.calls = [] from hidle.calls]
    rfl
  have hstart : e.ping 0 sequence (.target 0)
      = ((e.enterCall 0 scene.pinger { identifier := 4096, sequence } (.target 0)).startReceive
          0).submit 0 packet address (client (scene.call sequence)) := by
    simp only [Engine.ping, hpinger, hencoded, hfree, Engine.startCall, hnumber]
    rfl
  have hsent := ((h.enterCall hidle sequence hend).startReceive (List.cons_ne_nil _ _)).submit
    packet (client (scene.call sequence)) hshot
  rw [hlength] at hsent
  rw [hstart]
  exact hsent

theorem pingTarget (h : e.Shows scene) (hidle : scene.Idle) (sequence : UInt16)
    (hend : scene.now + patience ≤ endOfTime)
    (hshot : scene.meter.shot Engine.rounding scene.now = (meter, 0)) :
    (Engine.pingTarget sequence e 0).Shows
      { scene.pinged sequence meter with
        transmitted := scene.transmitted + 1
        outstanding := scene.outstanding + 1 } := by
  let counted : Scene :=
    { scene with transmitted := scene.transmitted + 1, outstanding := scene.outstanding + 1 }
  have hping : Engine.pingTarget sequence e 0 = (counted.set e).ping 0 sequence (.target 0) := by
    rw [← h]
    rfl
  rw [hping]
  exact (counted.shows_set e).ping ⟨hidle.calls, hidle.timeline⟩ sequence hend hshot

/-- The timer for the next round is set behind that of the call. -/
theorem setRound (h : e.Shows scene) {time : Time} {call : Call}
    (htimeline : scene.timeline = [(time, .ring (alarm call))])
    (hlater : time ≤ scene.now + interval) (hend : scene.now + interval ≤ endOfTime) :
    (e.setAlarm .round interval).Shows
      { scene with
        timeline := [(time, .ring (alarm call)), (scene.now + interval, .ring .round)] } := by
  have hunset : (scene.set e).awaits .round = false := by
    simp [Engine.awaits, Scene.set, htimeline, alarm]
  have hset : (scene.set e).setAlarm .round interval
      = (scene.set e).schedule (scene.now + interval) (.ring .round) := by
    rw [Engine.setAlarm, Engine.cancelAlarm, if_neg (by simp [hunset]), Engine.ringAfter]
    exact congrArg ((scene.set e).schedule · _) (Int.min_eq_left hend)
  have hinsert : Engine.insertAt (scene.now + interval) (.ring .round) scene.timeline
      = [(time, .ring (alarm call)), (scene.now + interval, .ring .round)] := by
    simp [Engine.insertAt, htimeline, hlater]
  rw [← h, hset, ← hinsert]
  rfl

/-- **A round begins**: the target is pinged, and the timer for the next round is set unless this
was the last. -/
theorem startRound (h : e.Shows scene) (hidle : scene.Idle)
    (hend : scene.now + interval ≤ endOfTime)
    (hshot : scene.meter.shot Engine.rounding scene.now = (meter, 0)) :
    e.startRound.Shows
      { scene.begun meter with
        timeline := (scene.now + patience, .ring (alarm (scene.call scene.round.toUInt16))) ::
          if (scene.begun meter).service.roundsBegun then []
          else [(scene.now + interval, .ring .round)] } := by
  let counted := (Engine.pingTarget scene.round.toUInt16 e 0).updateService fun service =>
    { service with round := scene.round + 1 }
  have hcounted : counted.Shows (scene.begun meter) := by
    have hpinged := h.pingTarget hidle scene.round.toUInt16
      (Int.le_trans (patience_le scene.now) hend) hshot
    unfold counted
    rw [← hpinged]
    rfl
  have hservice : e.service = some scene.service := by rw [← h]; rfl
  have hstart : e.startRound = if (scene.begun meter).service.roundsBegun then counted
      else counted.setAlarm .round interval := by
    simp only [Engine.startRound, hservice]
    rfl
  rw [hstart]
  split
  · exact hcounted
  · exact hcounted.setRound rfl (patience_le scene.now) hend

/-! ## 4. Steps -/

/-- A step in which the next timer rings. -/
theorem step_ring (h : e.Shows scene) (hready : scene.ready = []) {time : Time} {alarm : Alarm}
    {rest : List (Time × Happening)} (htimeline : scene.timeline = (time, .ring alarm) :: rest)
    (hlater : scene.now ≤ time) :
    ∃ e', e.step? none = some e' ∧
      e'.Shows { scene with now := time, ready := [.rang alarm .success], timeline := rest } := by
  obtain ⟨count, round, transmitted, outstanding, nextPing, now, ready, timeline, meter,
    receiving, calls, output⟩ := scene
  obtain rfl : ready = [] := hready
  obtain rfl : timeline = _ := htimeline
  have hstep : e.step? none = some (Scene.set
      { count, round, transmitted, outstanding, nextPing, now := max now time,
        ready := [.rang alarm .success], timeline := rest, meter, receiving, calls,
        output } e) := by
    rw [← h]
    rfl
  rw [Int.max_eq_right hlater] at hstep
  exact ⟨_, hstep, rfl⟩

/-- A step that does the only task.  Tasks take no time here, and no pinger is ever released. -/
theorem step_task (h : e.Shows scene) {task : Task} (hready : scene.ready = [task]) {e' : Engine}
    (hperform : ({ scene with ready := [] }.set e).perform task = e')
    (hreleased : e'.released = []) (htick : e'.network.tick = 0) : e.step? none = some e' := by
  obtain ⟨count, round, transmitted, outstanding, nextPing, now, ready, timeline, meter,
    receiving, calls, output⟩ := scene
  obtain rfl : ready = _ := hready
  have hsweep : e'.sweep = e' := by
    obtain ⟨⟩ := e'
    obtain rfl := hreleased
    rfl
  have hstep : e.step? none
      = some { e'.sweep with now := e'.sweep.now + e'.sweep.network.tick } := by
    rw [← h, ← hperform]
    rfl
  rw [hstep, hsweep, htick, Int.add_zero]

/-! ## 5. How a ping ends -/

theorem callOf? (h : e.Shows scene) {call : Call} (hcalls : scene.calls = [call]) :
    e.callOf? 0 call.token call.timer = some (scene.pinger, call) := by
  have hpinger : e.pingers[0]? = some scene.pinger := by rw [← h]; rfl
  have hcall : scene.pinger.call? call.token = some call := by
    rw [Pinger.call?, show scene.pinger.calls = [call] from hcalls]
    simp
  simp [Engine.callOf?, hpinger, hcall]

/-- A send ends at the time at which it began, so nothing changes. -/
theorem sent (h : e.Shows scene) {call : Call} (hcalls : scene.calls = [call])
    (hnow : call.sent = scene.now) (count : Nat) :
    e.perform (.sent (client call) .success count) = e := by
  let refresh (pinger : Pinger) : Pinger :=
    { pinger with
      calls := pinger.calls.map fun held =>
        if held.token = call.token then { held with sent := scene.now } else held }
  have hrefresh : refresh scene.pinger = scene.pinger := by
    have hmap : (scene.pinger.calls.map fun held =>
        if held.token = call.token then { held with sent := scene.now } else held)
          = scene.pinger.calls := by
      simp [show scene.pinger.calls = [call] from hcalls, ← hnow]
    simp only [refresh, hmap]
  calc e.perform (.sent (client call) .success count)
    _ = e.refreshSent 0 call.token call.timer := rfl
    _ = (scene.set e).updatePinger 0 refresh := by
      simp only [Engine.refreshSent, h.callOf? hcalls]
      rw [← h]
      rfl
    _ = { scene.set e with pingers := #[refresh scene.pinger] } := rfl
    _ = e := by
      rw [hrefresh]
      exact h

/-- The timer of the only call has rung: its line is written, and the service may be done. -/
theorem timedOut (h : e.Shows scene) {call : Call} (hcalls : scene.calls = [call])
    (hcaller : call.caller = .target 0) (hunset : e.awaits (alarm call) = false) :
    ∃ past, e.perform (.rang (alarm call) .success)
      = (Scene.set
          { scene with
            outstanding := scene.outstanding - 1
            calls := []
            output := line call.token.sequence :: scene.output } past).finishIfIdle := by
  let quiet : Scene := { scene with calls := [] }
  have hleft : scene.pinger.without call.token = quiet.pinger := by
    have hfilter : scene.pinger.calls.filter (fun held => held.token ≠ call.token) = [] := by
      rw [show scene.pinger.calls = [call] from hcalls]
      simp
    rw [Pinger.without, hfilter]
    rfl
  have hupdate : e.updatePinger 0 (fun _ => quiet.pinger) = quiet.set e := by
    rw [← h]
    rfl
  have hcancel : (quiet.set e).cancelAlarm (alarm call) = quiet.set e := by
    have hawaits : (quiet.set e).awaits (alarm call) = false := by
      rw [← hunset, ← h]
      rfl
    rw [Engine.cancelAlarm, if_neg (by simp [hawaits])]
  have hkeeps : (quiet.pinger.calls.isEmpty && quiet.pinger.receiving
      && !quiet.pinger.isMultiplexed) = false := Bool.and_false _
  let result : PingResult := { sequence := call.token.sequence }
  have hanswer : e.perform (.rang (alarm call) .success)
      = (quiet.set e).answer 0 call.timer (.target 0) PingFault.timeout.code result := by
    change e.complete 0 call.token call.timer PingFault.timeout.code = _
    rw [alarm] at hcancel
    simp only [Engine.complete, h.callOf? hcalls, hleft, hupdate, hcancel, hkeeps, hcaller]
    rfl
  let ending : Ending :=
    { ping := call.timer, time := scene.now, code := PingFault.timeout.code, result }
  refine ⟨{ e with endings := ending :: e.endings }, ?_⟩
  rw [hanswer, ← resultLine_timeout scene.transmitted]
  rfl

end Engine.Shows

namespace Unanswered

variable {scene : Scene} {e : Engine} {count : UInt32} {round : Nat}

/-! ## 6. Rounds -/

/-- When a round begins. -/
def begins (round : Nat) : Time := round * interval

theorem begins_succ (round : Nat) : begins (round + 1) = begins round + interval := by
  unfold begins
  grind

theorem begins_le (hlt : round < 4294967296) : begins round + interval ≤ endOfTime := by
  have hend : endOfTime = 9223372036854775807 := rfl
  unfold begins interval
  grind

/-- The meter once the request of a round has gone. -/
def spent (round : Nat) : Meter :=
  { started := true, last := begins round, owed := 1, limit := 10000 }

theorem shot_fresh :
    ({ limit := 10000 } : Meter).shot Engine.rounding (begins 0) = (spent 0, 0) := rfl

/-- The time between rounds pays for the request of the last one. -/
theorem shot_spent (round : Nat) :
    (spent round).shot Engine.rounding (begins (round + 1)) = (spent (round + 1), 0) := by
  have helapsed : elapsed (begins round) (begins (round + 1)) = interval := by
    have hwait : begins (round + 1) - begins round = interval := by grind [begins_succ]
    rw [elapsed, hwait]
    rfl
  have hpaid : Meter.payBack Engine.rounding 1
      (Meter.allowance Engine.rounding 10000 interval) = 0 := by decide +kernel
  simp [Meter.shot, spent, helapsed, hpaid]

/-- The lines for the first requests. -/
def lines (rounds : Nat) : List String := (List.range rounds).map fun round => line (.ofNat round)

/-- The call of a round. -/
def call (round : Nat) : Call :=
  { token := { identifier := 4096, sequence := (UInt32.ofNat round).toUInt16 }
    queued := begins round, sent := begins round, timer := round, caller := .target 0 }

theorem lines_succ (round : Nat) :
    lines (round + 1) = lines round ++ [line (call round).token.sequence] := by
  have hsequence : (call round).token.sequence = .ofNat round := by simp [call]
  rw [lines, List.range_succ, List.map_append, hsequence]
  rfl

/-- A round is to begin. -/
def due (count : UInt32) (round : Nat) (meter : Meter) (receiving : Bool) : Scene :=
  { count, round := .ofNat round, transmitted := .ofNat round, nextPing := round,
    now := begins round, meter, receiving, output := (lines round).reverse }

/-- The timer for the round after one. -/
def next (count : UInt32) (round : Nat) : List (Time × Happening) :=
  if round + 1 = count.toNat then [] else [(begins (round + 1), .ring .round)]

/-- A round has begun. -/
def asked (count : UInt32) (round : Nat) : Scene :=
  { due count round (spent round) true with
    round := .ofNat round + 1
    transmitted := .ofNat round + 1
    outstanding := 1
    nextPing := round + 1
    ready := [.sent (client (call round)) .success 8]
    timeline := (begins round + patience, .ring (alarm (call round))) :: next count round
    calls := [call round] }

/-- The ping of a round has ended. -/
def rested (count : UInt32) (round : Nat) : Scene :=
  { asked count round with
    outstanding := 0
    now := begins round + patience
    ready := []
    timeline := next count round
    calls := []
    output := (lines (round + 1)).reverse }

/-- The engine once the service has stopped in a scene. -/
def Scene.stop (scene : Scene) (e : Engine) : Engine :=
  { scene.set e with
    stopped := true
    ready := [.signalled .aborted 0]
    service := some { scene.service with stopped := true }
    awaitsSignal := false }

/-- The engine after a round. -/
def after (count : UInt32) (round : Nat) (e : Engine) : Engine :=
  if round + 1 = count.toNat then (rested count round).stop e else (rested count round).set e

theorem roundsBegun_iff (hround : scene.round = .ofNat round + 1)
    (hlt : round < scene.count.toNat) :
    scene.service.roundsBegun = true ↔ round + 1 = scene.count.toNat := by
  have hbegun : scene.service.roundsBegun = true ↔
      scene.count ≠ 0 ∧ scene.count ≤ scene.round := by
    simp only [Service.roundsBegun, Bool.and_eq_true, decide_eq_true_eq]
    rfl
  have hcount : scene.count ≠ 0 := by
    rintro hzero
    rw [hzero] at hlt
    cases hlt
  have htoNat : scene.round.toNat = round + 1 := by
    have hfits := scene.count.toNat_lt
    rw [hround, UInt32.toNat_add, UInt32.toNat_ofNat']
    grind
  rw [hbegun, UInt32.le_iff_toNat_le, htoNat]
  constructor
  · rintro ⟨-, hle⟩
    omega
  · intro hlast
    exact ⟨hcount, by omega⟩

theorem finishIfIdle_rested (hlt : round < count.toNat) :
    ((rested count round).set e).finishIfIdle = after count round e := by
  have hbegun : (rested count round).service.roundsBegun = true ↔ round + 1 = count.toNat :=
    roundsBegun_iff rfl hlt
  have hservice : ((rested count round).set e).service = some (rested count round).service := rfl
  rw [after]
  rcases Engine.finishIfIdle_cases hservice with ⟨heq, hbusy⟩ | ⟨heq, -, hlast⟩
  · rw [heq, if_neg fun hlast => hbusy (hbegun.2 hlast) rfl]
  · have hempty : next count round = [] := if_pos (hbegun.1 hlast)
    rw [heq, if_pos (hbegun.1 hlast), rested, hempty]
    rfl

theorem asked_of_due {meter : Meter} {receiving : Bool}
    (h : e.Shows (due count round meter receiving)) (hlt : round < count.toNat)
    (hshot : meter.shot Engine.rounding (begins round) = (spent round, 0)) :
    e.startRound.Shows (asked count round) := by
  have hbegun := h.startRound ⟨rfl, rfl⟩ (begins_le (Nat.lt_trans hlt count.toNat_lt)) hshot
  have hnext : (if ((due count round meter receiving).begun (spent round)).service.roundsBegun
      then [] else [(begins round + interval, Happening.ring .round)]) = next count round := by
    rw [next, begins_succ]
    exact if_congr (roundsBegun_iff rfl hlt) rfl rfl
  rw [asked, ← hnext]
  exact hbegun

/-! ## 7. The run -/

theorem steps_of_step? {e' : Engine} (h : e.step? none = some e') (fuel : Nat) :
    Engine.steps none (fuel + 1) e = Engine.steps none fuel e' := by
  rw [Engine.steps, h]

theorem steps_of_stopped (hstopped : e.stopped = true) : ∀ fuel, Engine.steps none fuel e = e
  | 0 => rfl
  | fuel + 1 => by rw [Engine.steps, Engine.step?_of_stopped hstopped]

theorem perform_round (e : Engine) : e.perform (.rang .round .success) = e.startRound := rfl

/-- **Three steps end a round**: the request has left, its timer rings, and its ping ends. -/
theorem after_of_asked (h : e.Shows (asked count round)) (hlt : round < count.toNat) :
    ∃ past, ∀ fuel,
      Engine.steps none (fuel + 3) e = Engine.steps none fuel (after count round past) := by
  let waiting : Scene := { asked count round with ready := [] }
  have hsent : e.step? none = some (waiting.set e) :=
    h.step_task rfl ((waiting.shows_set e).sent rfl rfl 8) rfl rfl
  obtain ⟨rung, hring, hrung⟩ := (waiting.shows_set e).step_ring rfl rfl
    (show begins round ≤ begins round + patience from Int.le_add_of_nonneg_right (by decide))
  let expired : Scene :=
    { waiting with now := begins round + patience, timeline := next count round }
  have hunset : (expired.set rung).awaits (alarm (call round)) = false := by
    change (next count round).any _ = false
    unfold next alarm
    split <;> simp
  obtain ⟨past, htold⟩ := (expired.shows_set rung).timedOut rfl rfl hunset
  have hrested : Scene.set
      { expired with
        outstanding := (1 : UInt32) - 1
        calls := []
        output := line (call round).token.sequence :: (lines round).reverse } past
      = (rested count round).set past := by
    rw [rested, lines_succ, List.reverse_append]
    rfl
  have hperform : (expired.set rung).perform (.rang (alarm (call round)) .success)
      = after count round past := by
    rw [← finishIfIdle_rested hlt, ← hrested]
    exact htold
  have hended : rung.step? none = some (after count round past) := by
    refine hrung.step_task rfl hperform ?_ ?_ <;> (unfold after; split <;> rfl)
  refine ⟨past, fun fuel => ?_⟩
  rw [steps_of_step? hsent, steps_of_step? hring, steps_of_step? hended]

/-- **Two steps lead to the next round**: its timer rings, and it begins. -/
theorem asked_of_rested (h : e.Shows (rested count round)) (hlt : round + 1 < count.toNat) :
    ∃ e', (∀ fuel, Engine.steps none (fuel + 2) e = Engine.steps none fuel e') ∧
      e'.Shows (asked count (round + 1)) := by
  have hmore : next count round = [(begins (round + 1), .ring .round)] := if_neg (by omega)
  have hlater : begins round + patience ≤ begins (round + 1) := by
    rw [begins_succ]
    exact patience_le _
  obtain ⟨rung, hring, hrung⟩ := h.step_ring rfl hmore hlater
  have hdue : due count (round + 1) (spent round) true
      = { rested count round with now := begins (round + 1), ready := [], timeline := [] } := by
    rw [due, show UInt32.ofNat (round + 1) = UInt32.ofNat round + 1 from UInt32.ofNat_add _ _]
    rfl
  have hbegun := asked_of_due ((due count (round + 1) (spent round) true).shows_set rung) hlt
    (shot_spent round)
  have hperform : (Scene.set
      { rested count round with now := begins (round + 1), ready := [], timeline := [] }
        rung).perform (.rang .round .success)
      = ((due count (round + 1) (spent round) true).set rung).startRound := by
    rw [← hdue]
    exact perform_round _
  generalize ((due count (round + 1) (spent round) true).set rung).startRound = e' at *
  have hreleased : e'.released = [] := by rw [← hbegun]; rfl
  have htick : e'.network.tick = 0 := by rw [← hbegun]; rfl
  refine ⟨e', fun fuel => ?_, hbegun⟩
  rw [steps_of_step? hring, steps_of_step? (hrung.step_task rfl hperform hreleased htick)]

/-- **From the beginning of a round to the end of the last**, by induction on the rounds that
follow. -/
theorem stop_of_asked (left : Nat) :
    ∀ {round : Nat} {e : Engine}, e.Shows (asked count round) → round + 1 + left = count.toNat →
      ∃ last past, last + 1 = count.toNat ∧
        ∀ fuel, Engine.steps none (fuel + (5 * left + 3)) e = (rested count last).stop past := by
  induction left with
  | zero =>
    intro round e h hlast
    obtain ⟨past, hround⟩ := after_of_asked h (by omega)
    refine ⟨round, past, hlast, fun fuel => ?_⟩
    rw [hround, after, if_pos hlast]
    exact steps_of_stopped rfl fuel
  | succ left ih =>
    intro round e h hleft
    obtain ⟨past, hround⟩ := after_of_asked h (by omega)
    rw [after, if_neg (by omega)] at hround
    obtain ⟨e', hnext, hasked⟩ := asked_of_rested ((rested count round).shows_set past) (by omega)
    obtain ⟨last, past', hlast, hrun⟩ := ih hasked (by omega)
    refine ⟨last, past', hlast, fun fuel => ?_⟩
    have hfuel : fuel + (5 * (left + 1) + 3) = fuel + (5 * left + 3) + 2 + 3 := by omega
    rw [hfuel, hround, hnext, hrun]

/-- The run of the service ends with its last round. -/
theorem run_stops (hcount : count ≠ 0) :
    ∃ last past, last + 1 = count.toNat ∧
      (withService count).startService.run = (rested count last).stop past := by
  have hpos : 0 < count.toNat := by
    rw [Nat.pos_iff_ne_zero]
    exact fun hzero => hcount (UInt32.toNat_inj.1 hzero)
  have hopening : ({ withService count with awaitsSignal := true } : Engine).Shows
      (due count 0 { limit := 10000 } false) := shows_opening count
  have hstart : (withService count).startService.Shows (asked count 0) :=
    asked_of_due hopening hpos shot_fresh
  obtain ⟨last, past, hlast, hrun⟩ := stop_of_asked (count.toNat - 1) hstart (by omega)
  have hfuel : Engine.manySteps
      = Engine.manySteps - (5 * (count.toNat - 1) + 3) + (5 * (count.toNat - 1) + 3) := by
    have hfits := count.toNat_lt
    unfold Engine.manySteps
    omega
  refine ⟨last, past, hlast, ?_⟩
  rw [Engine.run, hfuel]
  exact hrun _

theorem validate (count : UInt32) : (Config.unanswered count).validate = .ok () := rfl

/-- **The whole run.**  The service opens; at its end every round has been counted, and it has
written a line for each request and the summary. -/
theorem serve_counts_every_round (hcount : count ≠ 0) :
    ∃ opened, ({} : Engine).openService (.unanswered count) = (opened, .ok ()) ∧
      opened.serve.service.map Service.targets = some #[target count] ∧
      opened.serve.output.reverse = lines count.toNat ++ (target count).summary := by
  obtain ⟨last, past, hlast, hrun⟩ := run_stops hcount
  have htransmitted : UInt32.ofNat last + 1 = count := by
    calc UInt32.ofNat last + 1
      _ = UInt32.ofNat (last + 1) := (UInt32.ofNat_add last 1).symm
      _ = count := by rw [hlast, UInt32.ofNat_toNat]
  have hserve : (withService count).serve = ((rested count last).stop past).endService :=
    congrArg Engine.endService hrun
  refine ⟨withService count, openService count, ?_, ?_⟩
  · rw [hserve, ← htransmitted]
    rfl
  · have houtput : ((rested count last).stop past).endService.output
        = ([target (UInt32.ofNat last + 1)].flatMap Target.summary).reverse
          ++ (lines (last + 1)).reverse := rfl
    rw [hserve, houtput, htransmitted, hlast]
    simp

/-- One round more than `mostLost`: nothing was answered, and the run ends with a line that says
that nothing was lost. -/
theorem all_lost_reads_as_none :
    let config : Config := .unanswered 42949673
    let opened := ({} : Engine).openService config
    let target := target 42949673
    config.validate = .ok () ∧ opened.2 = .ok () ∧
      opened.1.serve.service.map Service.targets = some #[target] ∧
      target.transmitted.toNat = mostLost + 1 ∧ target.received = 0 ∧
      percentLost target.transmitted.toNat 0 = 100 ∧
      opened.1.serve.output.head?
        = some "42949673 packets transmitted, 0 received, 0% packet loss" := by
  intro config opened target
  have hcount : (42949673 : UInt32) ≠ 0 := by decide
  obtain ⟨engine, hopened, htargets, houtput⟩ := serve_counts_every_round hcount
  have hfst : opened = (engine, .ok ()) := hopened
  have hsummary : target.summary = ["", "--- 10.0.0.1 ping statistics ---",
      "42949673 packets transmitted, 0 received, 0% packet loss"] := by decide +kernel
  rw [hfst]
  refine ⟨validate _, rfl, htargets, by decide, rfl, by decide, ?_⟩
  rw [← List.getLast?_reverse, houtput, hsummary]
  simp

end Unanswered

end IcmpEcho
