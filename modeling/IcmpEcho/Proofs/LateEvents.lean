/-
# Timers and sends act on their own call

A timer that has rung cannot be recalled, and a send ends when it ends, perhaps long after its call.
Meanwhile the call may have ended by a reply, a failure or its timer, and a later call may hold its
token.  Still, **whatever a timer or a send does, it does to its own call only**
(`Session.Does.alone`), and nothing once that has ended.

**A ping times out by its own timer only**, and not before it waited as long as was asked
(`Session.Does.timeout`).  Times are those of the clock: a timer cannot be set past `endOfTime`, so
who asks for more waits until then (`timeout_at_end_of_clock`).
-/
import IcmpEcho.Proofs.Apart
import IcmpEcho.Proofs.Endings
import IcmpEcho.Proofs.InTime

namespace IcmpEcho

namespace Session

variable {s s' : Session} {id : PingerId} {token : Token} {timer : TimerId} {deed : Deed}

/-! ## 1. What is about one call -/

/-- The call that a deed is about: its timer rings or is handled, or its send ends. -/
def Deed.call? : Deed → Option (PingerId × Token × TimerId)
  | .task due => due.call?
  | .item (.ring (.call id token timer)) => some (id, token, timer)
  | .item (.ready due) => due.call?
  | _ => none

/-- The code with which a deed ends the call that it is about, if it does. -/
def Deed.verdict? : Deed → Option ErrorCode
  | .task due => due.verdict?
  | _ => none

/-- An item about a call becomes a task about it. -/
theorem Deed.item_of_call {item : Happening}
    (h : Deed.call? (.item item) = some (id, token, timer)) :
    ∃ due : Task, (∀ e : Engine, e.happen item = e.post due) ∧
      due.call? = some (id, token, timer) ∧
      ∀ bound, item.brings?.any (otherThan timer bound) = false := by
  cases item with
  | ring alarm =>
    cases alarm with
    | call other token' timer' =>
      obtain ⟨rfl, rfl, rfl⟩ := by simpa [Deed.call?] using h
      exact ⟨_, fun _ => rfl, rfl, fun _ => by simp [Happening.brings?, otherThan]⟩
    | _ => cases h
  | ready due => exact ⟨due, fun _ => rfl, h, fun _ => rfl⟩
  | _ => cases h

/-- **What a timer or a send of one call does**, with the code that it ends the call with, if
any. -/
structure Alone (id : PingerId) (token : Token) (timer : TimerId) (verdict : Option ErrorCode)
    (s s' : Session) : Prop where
  /-- All other pings keep their calls, timers and refusals. -/
  others : Apart timer s.engine.nextPing s.engine s'.engine
  /-- The caller is told the code if the call is pending, and nobody else is told. -/
  endings : s'.engine.endings
    = (verdict.map (s.engine.verdict id token timer)).getD [] ++ s.engine.endings
  /-- Once the call has ended no call changes at all. -/
  ended : s.engine.callOf? id token timer = none →
    ∀ other, s'.engine.callsOf other = s.engine.callsOf other

theorem filter_middle_of_neg {α : Type} (p : α → Bool) (front back : List α) {a : α}
    (h : p a = false) : (front ++ back).filter p = (front ++ a :: back).filter p := by
  rw [List.filter_append, List.filter_append, List.filter_cons_of_neg (by simp [h])]

/-- **Timers and sends act on their own call only.** -/
theorem Does.alone (h : Does s deed s') (hs : s.Sound)
    (habout : deed.call? = some (id, token, timer)) :
    Alone id token timer deed.verdict? s s' := by
  cases h with
  | @task front back due hready =>
    have habout : due.call? = some (id, token, timer) := habout
    let rest : Engine := { s.engine with ready := front ++ back }
    have htaken : Apart timer s.engine.nextPing s.engine rest := by
      refine { Apart.refl s.engine with ready := ?_ }
      rw [hready]
      exact filter_middle_of_neg _ front back (Task.brings_of_call habout)
    have hperformed : Apart timer s.engine.nextPing rest (rest.perform due) :=
      Engine.perform_apart habout (hs.engine.ledger.tokens id) (Nat.le_refl _)
    have hswept : SameCalls (rest.perform due) (rest.perform due).sweep := .sweep
    have htold : (rest.perform due).endings
        = (due.verdict?.map (rest.verdict id token timer)).getD [] ++ rest.endings :=
      Engine.endings_perform habout
    refine ⟨(htaken.trans hperformed).trans (.of_sameCalls hswept), hswept.endings.trans htold, ?_⟩
    intro hended other
    have hsame : SameCalls rest (rest.perform due) := Engine.perform_of_ended habout hended
    exact (hswept.calls other).trans (hsame.calls other)
  | @item front back time item htimeline =>
    obtain ⟨due, hhappen, hdue, hother⟩ := Deed.item_of_call habout
    let rest : Engine := { s.engine with timeline := front ++ back }
    have htaken : Apart timer s.engine.nextPing s.engine rest := by
      refine { Apart.refl s.engine with timeline := ?_ }
      rw [htimeline]
      exact filter_middle_of_neg _ front back (hother _)
    have hposted : Apart timer s.engine.nextPing rest (rest.happen item) := by
      rw [hhappen]
      refine { Apart.refl rest with ready := ?_ }
      refine (List.filter_append _ _).trans ?_
      rw [List.filter_cons_of_neg (by simp [Task.brings_of_call hdue]), List.filter_nil,
        List.append_nil]
    have hswept : SameCalls (rest.happen item) (rest.happen item).sweep := .sweep
    refine ⟨(htaken.trans hposted).trans (.of_sameCalls hswept), ?_, ?_⟩
    · exact hswept.endings.trans (Engine.endings_happen item)
    · intro hended other
      refine (hswept.calls other).trans ?_
      rw [hhappen]
      rfl
  | _ => cases habout

/-- **When its request has left**, a pending call is noted to have left now. -/
theorem Does.restamps {code : ErrorCode} {count : Nat} {pinger : Pinger} {call : Call}
    (h : Does s (.task (.sent (.call id token timer) code count)) s') (hcode : code.isError = false)
    (hpending : s.engine.callOf? id token timer = some (pinger, call)) :
    { call with sent := s.engine.now } ∈ s'.engine.callsOf id := by
  cases h with
  | @task front back due hready =>
    let rest : Engine := { s.engine with ready := front ++ back }
    have hperform : rest.perform (.sent (.call id token timer) code count)
        = rest.refreshSent id token timer := if_pos (by simp [hcode])
    have hswept : SameCalls (rest.refreshSent id token timer)
        (rest.refreshSent id token timer).sweep := .sweep
    change _ ∈ (rest.perform _).sweep.callsOf id
    rw [hperform, hswept.calls]
    exact Engine.mem_callsOf_refreshSent hpending

/-! ## 2. Timeouts -/

end Session

namespace Engine

variable {e : Engine} {id : PingerId} {token : Token} {timer : TimerId} {task : Task}

/-- Of the tasks about a call only its timer ends it with a timeout. -/
theorem rang_of_timeout (hfair : e.Fair task) (habout : task.call? = some (id, token, timer))
    (hverdict : task.verdict? = some PingFault.timeout.code) :
    ∃ code, task = .rang (.call id token timer) code ∧ code ≠ .aborted := by
  cases task with
  | rang alarm code =>
    cases alarm with
    | call other token' timer' =>
      obtain ⟨rfl, rfl, rfl⟩ := by simpa [Task.call?] using habout
      refine ⟨code, rfl, ?_⟩
      rintro rfl
      cases hverdict
    | _ => cases habout
  | sent client code count =>
    simp only [Task.verdict?] at hverdict
    split at hverdict
    · exact absurd (Option.some.inj hverdict) hfair
    · cases hverdict
  | turnedAway sender => cases hverdict
  | _ => cases habout

/-- A receive does not fail with a timeout. -/
theorem plain_of_failure {code : ErrorCode} (hfair : e.Fair task)
    (hfailure : task.failure? = some (id, code)) : code.Plain := by
  unfold Task.failure? at hfailure
  split at hfailure
  · split at hfailure
    · obtain ⟨rfl, rfl⟩ := Prod.mk.inj (Option.some.inj hfailure)
      exact hfair
    · cases hfailure
  · obtain ⟨rfl, rfl⟩ := Prod.mk.inj (Option.some.inj hfailure)
    exact hfair
  · split at hfailure
    · obtain ⟨rfl, rfl⟩ := Prod.mk.inj (Option.some.inj hfailure)
      exact hfair
    · cases hfailure
  · cases hfailure

end Engine

namespace Session

variable {s s' : Session} {deed : Deed}

/-- **A ping times out by its own timer only, and not too early.** -/
theorem Does.timeout (hr : ReachableInTime s) (h : Does s deed s') {fresh : List Ending}
    (hfresh : s'.engine.endings = fresh ++ s.engine.endings) {ending : Ending}
    (hending : ending ∈ fresh) (hcode : ending.code = PingFault.timeout.code) :
    ∃ id token code ping, deed = .task (.rang (.call id token ending.ping) code) ∧
      code ≠ .aborted ∧ s.engine.ping? ending.ping = some ping ∧ ping.pinger = id ∧
      ping.token = token ∧ ending.time = s.engine.now ∧
      min (ping.asked + ping.timeout) endOfTime ≤ ending.time := by
  have hs := hr.reachable.sound
  obtain ⟨told, htold, htells⟩ := h.tells hs
  obtain rfl : told = fresh := List.append_cancel_right (htold.symm.trans hfresh)
  obtain ⟨due, rfl, hdue⟩ := htells ending hending
  have hfair : s.engine.Fair due := by
    cases h with
    | task hready => exact hr.punctual.ready due (by rw [hready]; simp)
  cases hdue with
  | @ended id token timer code pinger call about verdict pending =>
    obtain rfl : code = PingFault.timeout.code := hcode
    obtain ⟨rung, rfl, hrung⟩ := Engine.rang_of_timeout hfair about verdict
    obtain ⟨hp, hcall, rfl⟩ := Engine.callOf?_eq_some pending
    obtain ⟨ping, hping, hrecords⟩ := hs.engine.ping?_of_call? hp hcall
    have hmem : ping ∈ s.engine.pings := List.mem_of_find?_eq_some hping
    have hnumber : ping.number = call.timer := by simpa using List.find?_some hping
    exact ⟨id, token, rung, ping, rfl, hrung, hping, hrecords.pinger,
      hrecords.token.trans (Pinger.token_of_call? hcall), rfl, (hfair hrung).2 ping hmem hnumber⟩
  | refused refusal =>
    subst refusal
    exact absurd hcode hfair
  | answered listens datagram answers =>
    exact absurd hcode (ErrorCode.Plain.system 0)
  | @failed id pinger code call listens failure pending =>
    exact absurd hcode (Engine.plain_of_failure hfair failure)

/-! ## 3. All runs -/

/-- **Timers and sends are their own call's.**

Whatever a timer or a send of one call does, it leaves all other calls with their records, timers
and refusals alone; the caller of its own call is told, with the error of the send or a timeout, if
that call is pending, and nobody else is; once that call has ended it does nothing at all, whoever
holds its token.  A send that succeeds stamps its own call.  Whoever is told of a timeout is told by
the timer of that very ping, and no earlier than the ping was asked for plus the timeout that its
pinger had then, or at the end of the clock; what was written down of a ping when it was asked for
stays so. -/
theorem late_events_are_their_own (hr : Reachable s) (hd : Does s deed s') :
    (∀ id token timer, deed.call? = some (id, token, timer) →
      Alone id token timer deed.verdict? s s') ∧
    (∀ id token timer code count pinger call,
      deed = .task (.sent (.call id token timer) code count) → code.isError = false →
      s.engine.callOf? id token timer = some (pinger, call) →
      { call with sent := s.engine.now } ∈ s'.engine.callsOf id) ∧
    (ReachableInTime s → ∀ fresh, s'.engine.endings = fresh ++ s.engine.endings →
      ∀ ending ∈ fresh, ending.code = PingFault.timeout.code →
      ∃ id token code ping, deed = .task (.rang (.call id token ending.ping) code) ∧
        code ≠ .aborted ∧ s.engine.ping? ending.ping = some ping ∧ ping.pinger = id ∧
        ping.token = token ∧ ending.time = s.engine.now ∧
        min (ping.asked + ping.timeout) endOfTime ≤ ending.time) ∧
    (∀ (e : Engine) id pinger sequence caller, e.pingers[id]? = some pinger →
      (e.ping id sequence caller).pings = e.asking id pinger sequence caller :: e.pings) ∧
    (∀ past s'', Run s past s'' → ∀ number ping, s.engine.ping? number = some ping →
      s''.engine.ping? number = some ping) := by
  have hs := hr.sound
  refine ⟨fun _ _ _ => hd.alone hs, ?_, ?_, ?_, ?_⟩
  · rintro id token timer code count pinger call rfl hcode hpending
    exact hd.restamps hcode hpending
  · intro htime fresh hfresh ending hending hcode
    exact hd.timeout htime hfresh hending hcode
  · intro e id pinger sequence caller hp
    exact (Engine.ping_asks hp sequence caller).pings
  · intro past s'' hrun
    exact (hrun.leads hs).onward.ping?

/-- A ping times out before the end of its send is known, and its sequence number is pinged again.
Then the send of the first ping ends, and changes nothing. -/
theorem late_events_are_their_own_of_reused_token :
    let token : Token := { identifier := 4096, sequence := 1 }
    let sent : Task := .sent (.call 0 token 0) .success 64
    let rang : Task := .rang (.call 0 token 0) .success
    let created := ((fresh {} 1 none [] []).perform (.create "pinger" (.ofOctets 10 0 0 1) {})).1
    let pinged := (created.perform (.ping "pinger" 1 "a" [])).1
    let waited : Session := { pinged with engine := { pinged.engine with now := 2000000000 } }
    let rung : Session := { waited with
      engine := ({ waited.engine with timeline := [] }.happen (.ring (.call 0 token 0))).sweep }
    let told : Session := { rung with
      engine := ({ rung.engine with ready := [sent] }.perform rang).sweep }
    let s := (told.perform (.ping "pinger" 1 "b" [])).1
    let rest : List Task :=
      [.received 0 (.pinger 0) .aborted .any [], .sent (.call 0 token 1) .success 64]
    let s' : Session := { s with
      engine := ({ s.engine with ready := rest }.perform sent).sweep }
    told.engine.endings.map Ending.code = [PingFault.timeout.code] ∧
      (∀ ending ∈ told.engine.endings, 2000000000 ≤ ending.time) ∧
      (s.engine.callsOf 0).map Call.token = [token] ∧
      s'.engine.callsOf 0 = s.engine.callsOf 0 ∧ s'.engine.endings = s.engine.endings := by
  intro token sent rang created pinged waited rung told s rest s'
  have hpinged : ReachableInTime pinged :=
    ((ReachableInTime.fresh _ _ _ _ _).step _ (by simp)).step _ (by simp)
  have hwaited : ReachableInTime waited := hpinged.clock (by decide +kernel)
  have htimeline : waited.engine.timeline
      = [(2000000000, .ring (.call 0 token 0))] := by decide +kernel
  have hrung : ReachableInTime rung :=
    @ReachableInTime.item waited hwaited [] [] 2000000000 _ htimeline (Int.le_refl _)
  have hready : rung.engine.ready = [sent, rang] := by decide +kernel
  have htell : Does rung (.task rang) told := @Does.task rung [sent] [] rang hready
  have htold : ReachableInTime told := hrung.does htell trivial
  have hs : ReachableInTime s := htold.step _ (by simp)
  have hlate : s.engine.ready = sent :: rest := by decide +kernel
  have hd : Does s (.task sent) s' := @Does.task s [] rest sent hlate
  have halone := (late_events_are_their_own hs.reachable hd).1 0 token 0 rfl
  have hended : s.engine.callOf? 0 token 0 = none := by decide +kernel
  have hverdict : Deed.verdict? (.task sent) = none := by decide +kernel
  have hsame : s'.engine.endings = s.engine.endings := by
    rw [halone.endings, hverdict, Option.map_none, Option.getD_none, List.nil_append]
  have htimes : ∀ ending ∈ told.engine.endings, 2000000000 ≤ ending.time := by
    have hfresh : told.engine.endings = told.engine.endings ++ rung.engine.endings := by
      decide +kernel
    have hcodes : ∀ ending ∈ told.engine.endings, ending.code = PingFault.timeout.code := by
      decide +kernel
    intro ending hending
    obtain ⟨id, token', code, ping, hdeed, -, hping, -, -, -, htime⟩ :=
      (late_events_are_their_own hrung.reachable htell).2.2.1 hrung _ hfresh ending hending
        (hcodes ending hending)
    injection hdeed with hrang
    injection hrang with halarm
    injection halarm with _ _ hnumber
    let first : Ping := ⟨0, 0, token, .scripted "a" [], 0, 2000000000⟩
    have hfirst : rung.engine.ping? 0 = some first := by decide +kernel
    rw [← hnumber, hfirst] at hping
    obtain rfl := Option.some.inj hping
    have hdue : min (first.asked + first.timeout) endOfTime = 2000000000 := by decide +kernel
    rwa [hdue] at htime
  exact ⟨by decide +kernel, htimes, by decide +kernel, halone.ended hended 0, hsame⟩

/-- **The end of the clock is the end of every timeout.**  A ping that is to wait for as long as a
timer can be set is asked for when the clock has already gone on; it times out when the clock shows
its last time, which is before it has waited so long. -/
theorem timeout_at_end_of_clock :
    let token : Token := { identifier := 4096, sequence := 1 }
    let sent : Task := .sent (.call 0 token 0) .success 64
    let rang : Task := .rang (.call 0 token 0) .success
    let ping : Ping := ⟨0, 0, token, .scripted "a" [], 1000, endOfTime⟩
    let waited : Session → Time → Session := fun s now =>
      { s with engine := { s.engine with now } }
    let created := ((fresh {} 1 none [] []).perform (.create "pinger" (.ofOctets 10 0 0 1) {})).1
    let configured := (created.perform (.configure "pinger" none none (some endOfTime))).1
    let pinged := ((waited configured 1000).perform (.ping "pinger" 1 "a" [])).1
    let late := waited pinged endOfTime
    let s : Session := { late with
      engine := ({ late.engine with timeline := [] }.happen (.ring (.call 0 token 0))).sweep }
    let s' : Session := { s with engine := ({ s.engine with ready := [sent] }.perform rang).sweep }
    ReachableInTime s ∧ Does s (.task rang) s' ∧ s.engine.ping? 0 = some ping ∧
      s'.engine.endings.map (fun ending => (ending.ping, ending.code, ending.time))
        = [(0, PingFault.timeout.code, endOfTime)] ∧
      ¬ ping.asked + ping.timeout ≤ endOfTime := by
  intro token sent rang ping waited created configured pinged late s s'
  have hconfigured : ReachableInTime configured :=
    ((ReachableInTime.fresh _ _ _ _ _).step _ (by simp)).step _ (by simp)
  have hpinged : ReachableInTime pinged :=
    (hconfigured.clock (by decide +kernel)).step _ (by simp)
  have hlate : ReachableInTime late := hpinged.clock (by decide +kernel)
  have htimeline : late.engine.timeline
      = [(endOfTime, .ring (.call 0 token 0))] := by decide +kernel
  have hs : ReachableInTime s :=
    @ReachableInTime.item late hlate [] [] endOfTime _ htimeline (Int.le_refl _)
  have hready : s.engine.ready = [sent, rang] := by decide +kernel
  have hd : Does s (.task rang) s' := @Does.task s [sent] [] rang hready
  exact ⟨hs, hd, by decide +kernel, by decide +kernel, by decide +kernel⟩

end Session

end IcmpEcho
