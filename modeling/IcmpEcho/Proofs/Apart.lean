/-
# What happens to the other calls

A timer that rings late and a send that ends late come upon a pinger whose calls have changed in the
meantime: the call they are about may have ended, and another may hold its token.
`Apart timer bound e e'` says that this is nothing to anybody else: of all pings with numbers below
`bound` **those other than `timer` keep their calls, with every field, their timers and their
refusals**.  The pings from `bound` on are those asked for meanwhile.

Numbers are not used twice, so a call that took over the token of `timer` is another one, and is
kept (`Apart.complete`, `Apart.callSent`, `Engine.perform_apart`).
-/
import IcmpEcho.Proofs.Telling

namespace IcmpEcho

/-! ## 1. What belongs to a ping -/

/-- The ping is an earlier one, and not this one. -/
def otherThan (timer bound number : PingId) : Bool := number ≠ timer && number < bound

/-- The ping that a task ends: its timer has rung, or it is refused. -/
def Task.brings? : Task → Option PingId
  | .rang (.call _ _ timer) code => if code = .aborted then none else some timer
  | .noPing _ number _ _ _ => some number
  | _ => none

/-- The ping whose timer an item is. -/
def Happening.brings? : Happening → Option PingId
  | .ring (.call _ _ timer) => some timer
  | _ => none

theorem Task.isCall_of_brings {p : PingId → Bool} {task : Task} (h : task.brings?.any p) :
    task.isCall := by
  cases task with
  | rang alarm code =>
    cases alarm with
    | call id token timer =>
      by_cases hcode : code = .aborted
      · simp [Task.brings?, hcode] at h
      · simp [Task.isCall, Task.rings?, hcode, Alarm.isCall]
    | _ => cases h
  | noPing id number caller code sequence => rfl
  | _ => cases h

theorem Happening.isCall_of_brings {p : PingId → Bool} {item : Happening}
    (h : item.brings?.any p) : item.isCall := by
  cases item with
  | ring alarm =>
    cases alarm with
    | call id token timer => rfl
    | _ => cases h
  | _ => cases h

/-- **The other pings are left alone.** -/
structure Apart (timer bound : PingId) (e e' : Engine) : Prop where
  nextPing : e.nextPing ≤ e'.nextPing
  calls : ∀ id, (e'.callsOf id).filter (fun call => otherThan timer bound call.timer)
    = (e.callsOf id).filter fun call => otherThan timer bound call.timer
  timeline : e'.timeline.filter (fun entry => entry.2.brings?.any (otherThan timer bound))
    = e.timeline.filter fun entry => entry.2.brings?.any (otherThan timer bound)
  ready : e'.ready.filter (fun task => task.brings?.any (otherThan timer bound))
    = e.ready.filter fun task => task.brings?.any (otherThan timer bound)

namespace Apart

variable {timer bound : PingId} {e e' e'' : Engine} {id : PingerId} {pinger : Pinger} {call : Call}

theorem refl (e : Engine) : Apart timer bound e e := ⟨Nat.le_refl _, fun _ => rfl, rfl, rfl⟩

theorem trans (h : Apart timer bound e e') (h' : Apart timer bound e' e'') :
    Apart timer bound e e'' where
  nextPing := Nat.le_trans h.nextPing h'.nextPing
  calls id := (h'.calls id).trans (h.calls id)
  timeline := h'.timeline.trans h.timeline
  ready := h'.ready.trans h.ready

theorem of_sameCalls (h : SameCalls e e') : Apart timer bound e e' where
  nextPing := Nat.le_of_eq h.nextPing.symm
  calls id := by rw [h.calls]
  timeline := filter_eq_of_filter_eq h.timeline fun _ => Happening.isCall_of_brings
  ready := filter_eq_of_filter_eq h.ready fun _ => Task.isCall_of_brings

theorem of_aside (h : Aside e e') : Apart timer bound e e' := of_sameCalls (.of_aside h)

/-! ## 2. Timers and refusals -/

/-- A ping's own timer can be cancelled. -/
theorem cancelAlarm (id : PingerId) (token : Token) :
    Apart timer bound e (e.cancelAlarm (.call id token timer)) := by
  unfold Engine.cancelAlarm
  split
  · refine { refl e with timeline := ?_, ready := ?_ }
    · rw [List.filter_filter]
      refine List.filter_congr ?_
      intro entry hentry
      by_cases hring : entry.2 = .ring (.call id token timer)
      · simp [hring, Happening.brings?, otherThan]
      · simp [hring]
    · rw [List.filter_append, List.filter_cons_of_neg (by simp [Task.brings?]), List.filter_nil,
        List.append_nil]
  · exact refl e

/-- A new ping is refused. -/
theorem refuse (hbound : bound ≤ e.nextPing) (id : PingerId) (pinger : Pinger) (token : Token)
    (caller : Caller) (fault : PingFault) :
    Apart timer bound e (e.refuse id pinger token caller fault) := by
  have hnew : otherThan timer bound e.nextPing = false := by
    simp [otherThan, Nat.not_lt.2 hbound]
  refine ⟨Nat.le_succ _, fun _ => rfl, rfl, ?_⟩
  refine (List.filter_append _ _).trans ?_
  rw [List.filter_cons_of_neg (by simp [Task.brings?, hnew]), List.filter_nil, List.append_nil]
  rfl

/-- A new ping becomes a call. -/
theorem enterCall (hbound : bound ≤ e.nextPing) (hp : e.pingers[id]? = some pinger)
    (token : Token) (caller : Caller) :
    Apart timer bound e (e.enterCall id pinger token caller) := by
  have hnew : otherThan timer bound e.nextPing = false := by
    simp [otherThan, Nat.not_lt.2 hbound]
  let call : Call := { token, queued := e.now, sent := e.now, timer := e.nextPing, caller }
  refine ⟨Nat.le_succ _, ?_, ?_, rfl⟩
  · intro other
    have hp' : (e.noteAsked id pinger token caller).pingers[id]? = some pinger := hp
    have hcalls : (e.enterCall id pinger token caller).callsOf other
        = if other = id then call.insert pinger.calls else e.callsOf other :=
      Engine.callsOf_updatePinger hp' _ other
    rw [hcalls]
    split
    · next hother =>
      rw [hother, Engine.callsOf_eq hp]
      exact Call.filter_insert_of_neg hnew _
    · rfl
  · exact Aside.filter_insertAt (by simp [Happening.brings?, hnew]) _

/-- **Pinging is nothing to earlier pings.** -/
theorem ping (hbound : bound ≤ e.nextPing) (id : PingerId) (sequence : UInt16) (caller : Caller) :
    Apart timer bound e (e.ping id sequence caller) := by
  unfold Engine.ping
  split
  · exact refl e
  · next pinger hp =>
    dsimp only
    split
    · exact refuse hbound _ _ _ _ _
    · split
      · exact refuse hbound _ _ _ _ _
      · let token : Token := { identifier := pinger.identifier, sequence }
        have hentered : Apart timer bound e (e.enterCall id pinger token caller) :=
          enterCall hbound hp token caller
        exact (hentered.trans (of_sameCalls (.startReceive _))).trans (of_aside (.submit _ _ _ _))

/-! ## 3. Telling -/

theorem tell (number : PingId) (caller : Caller) (code : ErrorCode) (result : PingResult) :
    Apart timer bound e (e.tell number caller code result) := by
  have hnoted : Apart timer bound e
      { e with endings := { ping := number, time := e.now, code, result } :: e.endings } :=
    ⟨Nat.le_refl _, fun _ => rfl, rfl, rfl⟩
  cases caller with
  | scripted tag again => exact hnoted.trans ⟨Nat.le_refl _, fun _ => rfl, rfl, rfl⟩
  | target index => exact hnoted.trans (of_aside (.targetAnswered _ _ _))

/-- **Telling one caller is nothing to the others**, also if the caller pings again. -/
theorem answer (hbound : bound ≤ e.nextPing) (id : PingerId) (number : PingId) (caller : Caller)
    (code : ErrorCode) (result : PingResult) :
    Apart timer bound e (e.answer id number caller code result) := by
  have htold : Apart timer bound e (e.tell number caller code result) := tell _ _ _ _
  unfold Engine.answer
  dsimp only
  split
  · split
    · exact htold.trans (ping (Nat.le_trans hbound htold.nextPing) _ _ _)
    · exact htold
  · exact htold

/-! ## 4. One call -/

/-- Of the calls of a pinger only that of `timer` has the token of the call with this timer. -/
theorem token_ne (htokens : ((e.callsOf id).map Call.token).Nodup) {token : Token}
    (h : e.callOf? id token timer = some (pinger, call)) {other : Call}
    (hother : other ∈ pinger.calls) (hne : otherThan timer bound other.timer) :
    other.token ≠ token := by
  obtain ⟨hp, hcall, htimer⟩ := Engine.callOf?_eq_some h
  rw [Engine.callsOf_eq hp] at htokens
  intro htoken
  have hsame := List.inj_on_of_nodup_map htokens hother (Pinger.mem_of_call? hcall)
    (htoken.trans (Pinger.token_of_call? hcall).symm)
  simp [otherThan, hsame, htimer] at hne

/-- The call is taken off its pinger. -/
theorem take (htokens : ((e.callsOf id).map Call.token).Nodup) {token : Token}
    (h : e.callOf? id token timer = some (pinger, call)) :
    Apart timer bound e (e.updatePinger id fun _ => pinger.without token) := by
  obtain ⟨hp, -, -⟩ := Engine.callOf?_eq_some h
  refine { refl e with calls := ?_ }
  intro other
  rw [Engine.callsOf_updatePinger hp]
  split
  · next hother =>
    rw [hother, Engine.callsOf_eq hp, Pinger.without, List.filter_filter]
    refine List.filter_congr ?_
    intro call' hcall'
    by_cases hne : otherThan timer bound call'.timer
    · simp [hne, token_ne htokens h hcall' hne]
    · simp [hne]
  · rfl

/-- **Ending a call is nothing to the others**, whether it is pending or not. -/
theorem complete (htokens : ((e.callsOf id).map Call.token).Nodup) (hbound : bound ≤ e.nextPing)
    (token : Token) (code : ErrorCode) :
    Apart timer bound e (e.complete id token timer code) := by
  unfold Engine.complete
  split
  · exact refl e
  · next pinger call hfound =>
    have htaken : Apart timer bound e (e.updatePinger id fun _ => pinger.without token) :=
      take htokens hfound
    have hcancelled : Apart timer bound e
        ((e.updatePinger id fun _ => pinger.without token).cancelAlarm (.call id token timer)) :=
      htaken.trans (cancelAlarm id token)
    dsimp only
    split
    · have hgivenUp := hcancelled.trans
        (of_sameCalls (.endReceive (pinger.without token).socket .aborted))
      exact hgivenUp.trans (answer (Nat.le_trans hbound hgivenUp.nextPing) _ _ _ _ _)
    · exact hcancelled.trans (answer (Nat.le_trans hbound hcancelled.nextPing) _ _ _ _ _)

/-- **Noting that a request has left is nothing to the others.** -/
theorem refreshSent (htokens : ((e.callsOf id).map Call.token).Nodup) (token : Token) :
    Apart timer bound e (e.refreshSent id token timer) := by
  unfold Engine.refreshSent
  split
  · exact refl e
  · next pinger call hfound =>
    obtain ⟨hp, -, -⟩ := Engine.callOf?_eq_some hfound
    refine { refl e with calls := ?_ }
    intro other
    rw [Engine.callsOf_updatePinger hp]
    split
    · next hother =>
      rw [hother, Engine.callsOf_eq hp, List.filter_map]
      have hsame : ((fun call => otherThan timer bound call.timer) ∘ fun call : Call =>
          if call.token = token then { call with sent := e.now } else call)
          = fun call => otherThan timer bound call.timer := by
        funext call'
        dsimp only [Function.comp]
        split <;> rfl
      rw [hsame]
      refine (List.map_congr_left ?_).trans (List.map_id _)
      intro call' hcall'
      obtain ⟨hmem, hne⟩ := List.mem_filter.1 hcall'
      exact if_neg (token_ne htokens hfound hmem hne)
    · rfl

theorem callSent (htokens : ((e.callsOf id).map Call.token).Nodup) (hbound : bound ≤ e.nextPing)
    (token : Token) (code : ErrorCode) :
    Apart timer bound e (e.callSent id token timer code) := by
  rcases Engine.callSent_cases (e := e) id token timer code with
    ⟨-, hsent⟩ | ⟨-, next, haside, -, hsent⟩
  · rw [hsent]
    exact refreshSent htokens _
  · have hsame : SameCalls e next := .of_aside haside
    rw [hsent]
    refine (of_aside haside).trans (complete ?_ ?_ _ _)
    · rw [hsame.calls]
      exact htokens
    · rw [hsame.nextPing]
      exact hbound

end Apart

/-! ## 5. Tasks -/

variable {timer bound : PingId} {e : Engine} {id : PingerId} {token : Token} {task : Task}

/-- A task about a call brings the end of no other. -/
theorem Task.brings_of_call (h : task.call? = some (id, token, timer)) :
    task.brings?.any (otherThan timer bound) = false := by
  cases task with
  | rang alarm code =>
    cases alarm with
    | call other token' timer' =>
      obtain ⟨rfl, rfl, rfl⟩ := by simpa [Task.call?] using h
      by_cases hcode : code = .aborted <;> simp [Task.brings?, hcode, otherThan]
    | _ => cases h
  | noPing other number caller code sequence => cases h
  | _ => rfl

namespace Engine

/-- **What a task about a call comes to**: nothing, the end of the call by its timer, or what
follows from the end of its send. -/
theorem perform_call_cases (h : task.call? = some (id, token, timer)) :
    (task.verdict? = none ∧ e.perform task = e) ∨
      (task.verdict? = some PingFault.timeout.code ∧
        e.perform task = e.complete id token timer PingFault.timeout.code) ∨
      ∃ code : ErrorCode, task.verdict? = (if code.isError then some code else none) ∧
        e.perform task = e.callSent id token timer code := by
  cases task with
  | rang alarm code =>
    cases alarm with
    | call other token' timer' =>
      obtain ⟨rfl, rfl, rfl⟩ := by simpa [Task.call?] using h
      by_cases hcode : code = .aborted
      · exact .inl ⟨if_pos hcode, if_pos hcode⟩
      · exact .inr (.inl ⟨if_neg hcode, if_neg hcode⟩)
    | _ => cases h
  | sent client code count =>
    cases client with
    | call other token' timer' =>
      obtain ⟨rfl, rfl, rfl⟩ := by simpa [Task.call?] using h
      exact .inr (.inr ⟨code, rfl, rfl⟩)
    | raw tag => cases h
  | turnedAway sender =>
    cases sender with
    | datagram socket packet destination client =>
      cases client with
      | call other token' timer' =>
        obtain ⟨rfl, rfl, rfl⟩ := by simpa [Task.call?] using h
        exact .inr (.inr ⟨.aborted, rfl, rfl⟩)
      | raw tag => cases h
    | labelled limiter label again => cases h
  | _ => cases h

/-- **A task about one call is nothing to the others.** -/
theorem perform_apart (h : task.call? = some (id, token, timer))
    (htokens : ((e.callsOf id).map Call.token).Nodup) (hbound : bound ≤ e.nextPing) :
    Apart timer bound e (e.perform task) := by
  rcases perform_call_cases (e := e) h with ⟨-, hsame⟩ | ⟨-, hcomplete⟩ | ⟨code, -, hsent⟩
  · rw [hsame]
    exact .refl e
  · rw [hcomplete]
    exact .complete htokens hbound _ _
  · rw [hsent]
    exact .callSent htokens hbound _ _

/-- **What a task about a call tells**: how it ends the call, if that is pending. -/
theorem endings_perform (h : task.call? = some (id, token, timer)) :
    (e.perform task).endings
      = (task.verdict?.map (e.verdict id token timer)).getD [] ++ e.endings := by
  rcases perform_call_cases (e := e) h with
    ⟨hverdict, hsame⟩ | ⟨hverdict, hcomplete⟩ | ⟨code, hverdict, hsent⟩
  · rw [hsame, hverdict]
    rfl
  · rw [hcomplete, hverdict, endings_complete]
    rfl
  · rw [hsent, hverdict, endings_callSent]
    split <;> rfl

/-- **When the call has ended, a task about it is nothing to any call.** -/
theorem perform_of_ended (h : task.call? = some (id, token, timer))
    (hended : e.callOf? id token timer = none) : SameCalls e (e.perform task) := by
  have hcomplete : ∀ (next : Engine) (code : ErrorCode), Aside e next →
      SameCalls e (next.complete id token timer code) := by
    intro next code haside
    have hnone : next.callOf? id token timer = none :=
      (callOf?_congr haside.pingers id token timer).trans hended
    simp only [complete, hnone]
    exact .of_aside haside
  rcases perform_call_cases (e := e) h with ⟨-, hsame⟩ | ⟨-, hperform⟩ | ⟨code, -, hsent⟩
  · rw [hsame]
    exact .refl e
  · rw [hperform]
    exact hcomplete e _ (.refl e)
  · rw [hsent]
    rcases callSent_cases (e := e) id token timer code with
      ⟨-, hrefreshed⟩ | ⟨-, next, haside, -, hfailed⟩
    · simp only [hrefreshed, refreshSent, hended]
      exact .refl e
    · rw [hfailed]
      exact hcomplete next _ haside

/-- **When its request has left**, a call that is pending is noted to have left now. -/
theorem mem_callsOf_refreshSent {pinger : Pinger} {call : Call}
    (h : e.callOf? id token timer = some (pinger, call)) :
    { call with sent := e.now } ∈ (e.refreshSent id token timer).callsOf id := by
  obtain ⟨hp, hcall, -⟩ := callOf?_eq_some h
  simp only [refreshSent, h]
  rw [callsOf_updatePinger hp, if_pos rfl]
  refine List.mem_map.2 ⟨call, Pinger.mem_of_call? hcall, ?_⟩
  exact if_pos (Pinger.token_of_call? hcall)

end Engine

end IcmpEcho
