/-
# A ping from its beginning to its end

What becomes of the invariant when a ping is entered or refused, when its call is taken off the
list, its timer cancelled, its caller told.  Between these the ping is in the hand.
-/
import IcmpEcho.Proofs.Sound

namespace IcmpEcho

variable {e : Engine} {hand : Hand} {id : PingerId} {pinger : Pinger}

/-! ## 1. Asking -/

namespace Sound

/-- Asking for a ping, with a timer for it that no call has yet. -/
theorem noteAsked (hs : Sound hand e) (id : PingerId) (pinger : Pinger) (token : Token)
    (caller : Caller) :
    Sound { hand with ended := e.nextPing :: hand.ended }
      ((e.noteAsked id pinger token caller).ringAfter pinger.timeout
        (.call id token e.nextPing)) := by
  let asked := e.noteAsked id pinger token caller
  have harmed : ∀ alarm, (asked.ringAfter pinger.timeout (.call id token e.nextPing)).armed alarm
      = e.armed alarm + if Alarm.call id token e.nextPing = alarm then 1 else 0 := fun alarm =>
    Engine.armed_ringAfter _ _
  exact {
    wired := { hs.wired with
      later := fun time task ht => by
        rcases Engine.mem_insertAt.1 ht with h | h
        · cases h
        · exact hs.wired.later time task h }
    counted := hs.counted.same ⟨rfl, rfl, rfl, rfl, fun _ => rfl⟩
    settled := fun client hclient => (hs.settled client hclient).congr rfl rfl fun _ => rfl
    ledger := { hs.ledger.noteAsked id pinger token caller with }
    armed := {
      rings := fun other call hcall => by
        have hcall : call ∈ e.callsOf other := hcall
        have hone := hs.armed.rings other call hcall
        have hnew : Alarm.call id token e.nextPing ≠ .call other call.token call.timer := by
          rintro heq
          injection heq with _ _ htimer
          have hlt := hs.armed.fresh other call.token call.timer (by omega)
          rw [← htimer] at hlt
          exact Nat.lt_irrefl _ hlt
        rw [harmed, if_neg hnew, Nat.add_zero]
        exact hone
      fresh := fun other t timer hpos => by
        have hnext : (asked.ringAfter pinger.timeout (.call id token e.nextPing)).nextPing
            = e.nextPing + 1 := rfl
        rw [harmed] at hpos
        rw [hnext]
        by_cases heq : Alarm.call id token e.nextPing = .call other t timer
        · injection heq with _ _ htimer
          rw [← htimer]
          exact Nat.lt_succ_self _
        · rw [if_neg heq, Nat.add_zero] at hpos
          exact Nat.lt_succ_of_lt (hs.armed.fresh other t timer hpos) }
    gone := hs.gone
    targets := hs.targets
    listed := hs.listed.same rfl rfl }

/-- **A ping that is entered is the call of its token.** -/
theorem enterCall (hs : Sound hand e) (hu : hand.unsettled = none)
    (hp : e.pingers[id]? = some pinger) (hg : pinger.gone = false) {token : Token}
    (hfree : pinger.call? token = none) (caller : Caller) :
    Sound { hand with unsettled := some (.pinger id) } (e.enterCall id pinger token caller) := by
  let call : Call := { token, queued := e.now, sent := e.now, timer := e.nextPing, caller }
  have hasked := hs.noteAsked id pinger token caller
  refine hasked.updatePinger hp hg
    (fun pinger => { pinger with calls := call.insert pinger.calls })
    { hand with unsettled := some (.pinger id) } rfl hg (.keeps _ _)
    (fun client hne _ => ?_) (fun h => absurd rfl h) ?_
    (hs.armed.enterCall hp token caller)
  · rw [hu]
    simp
  · have hperm := call.insert_perm pinger.calls
    refine hasked.ledger.moveCalls hp ?_ (fun other ho => ?_) ?_
    · exact (List.perm_middle.trans ((hperm.map Call.timer).symm.append_right _))
    · rcases Call.mem_insert.1 ho with rfl | ho
      · refine ⟨_, (Ledger.ping?_noteAsked id pinger token caller e.nextPing).trans (if_pos rfl), ?_⟩
        exact ⟨rfl, rfl, rfl, rfl⟩
      · refine hasked.ledger.entered id other ?_
        rw [Engine.callsOf_eq (e := (e.noteAsked id pinger token caller).ringAfter _ _) hp]
        exact ho
    · refine ((hperm.map Call.token).nodup_iff).2 (List.nodup_cons.2 ⟨?_, ?_⟩)
      · intro hmem
        obtain ⟨other, hother, htoken⟩ := List.mem_map.1 hmem
        have := List.find?_eq_none.1 hfree other hother
        simp [htoken, call] at this
      · rw [← Engine.callsOf_eq hp]
        exact hs.ledger.tokens id

/-- **A ping that is refused leaves a task behind and nothing else.** -/
theorem refuse (hs : Sound hand e) (id : PingerId) (pinger : Pinger) (token : Token)
    (caller : Caller) {fault : PingFault}
    (hf : fault = .packetTooLarge ∨ fault = .sequenceInFlight) :
    Sound hand (e.refuse id pinger token caller fault) := by
  have hsame : SameReceives e (e.refuse id pinger token caller fault) :=
    ⟨rfl, rfl, rfl, rfl, fun _ => Engine.posted_append_of_ne rfl (by simp [Task.listener?])⟩
  have hping := (Ledger.ping?_noteAsked (e := e) id pinger token caller e.nextPing).trans
    (if_pos rfl)
  exact {
    wired := hs.wired.same hsame
      (fun task ht => (List.mem_append.1 ht).symm.imp
        (fun h => by rw [List.mem_singleton.1 h]; rfl) fun h => h)
      hs.wired.later
    counted := hs.counted.same hsame
    settled := fun client hclient => (hs.settled client hclient).congr rfl rfl fun _ => rfl
    ledger := (hs.ledger.noteAsked id pinger token caller).postRefusal hping hf
    armed := hs.armed.refuse id pinger token caller fault
    gone := hs.gone
    targets := hs.targets
    listed := hs.listed.same rfl rfl }

/-! ## 2. Ending -/

/-- A pinger that has a call is alive. -/
theorem alive_of_call? (hs : Sound hand e) (hp : e.pingers[id]? = some pinger) {token : Token}
    {call : Call} (hcall : pinger.call? token = some call) : pinger.gone = false := by
  by_contra hg
  have hmem := Pinger.mem_of_call? hcall
  rw [hs.gone id pinger hp (by simpa using hg)] at hmem
  cases hmem

/-- **The call of a token is taken off the list, into the hand.** -/
theorem take (hs : Sound hand e) (hp : e.pingers[id]? = some pinger) {token : Token} {call : Call}
    (hcall : pinger.call? token = some call) :
    Sound { hand with ended := call.timer :: hand.ended }
      (e.updatePinger id fun pinger => pinger.without token) := by
  have hmem := Pinger.mem_of_call? hcall
  have hg := hs.alive_of_call? hp hcall
  refine hs.updatePinger hp hg (fun pinger => pinger.without token)
    { hand with ended := call.timer :: hand.ended } rfl hg (.keeps _ _)
    (fun _ _ h => h) (fun hu _ => ?_) (hs.ledger.take hp hcall)
    (hs.armed.updatePinger hp fun other ho => ⟨other, (List.mem_filter.1 ho).1, rfl, rfl⟩)
  exact hs.settled (.pinger id) hu pinger hp hg (List.ne_nil_of_mem hmem)

/-- **All calls are taken off the list, into the hand.** -/
theorem takeAll (hs : Sound hand e) (hp : e.pingers[id]? = some pinger)
    (hg : pinger.gone = false) :
    Sound { hand with ended := pinger.calls.map Call.timer ++ hand.ended }
      (e.updatePinger id fun pinger => { pinger with calls := [] }) := by
  refine hs.updatePinger hp hg (fun pinger => { pinger with calls := [] })
    { hand with ended := pinger.calls.map Call.timer ++ hand.ended } rfl hg
    (.keeps _ _) (fun _ _ h => h) (fun _ h => absurd rfl h) (hs.ledger.takeAll hp)
    (hs.armed.updatePinger hp fun other ho => ?_)
  cases ho

/-- A ping in the hand has no call. -/
theorem timer_ne (hs : Sound hand e) {number : PingId} (hn : number ∈ hand.ended)
    (id : PingerId) : ∀ call ∈ e.callsOf id, call.timer ≠ number := by
  rintro call hcall rfl
  obtain ⟨ping, hping, hrec⟩ := hs.ledger.entered id call hcall
  have hone := hs.ledger.once call.timer ping hping
  have hhand : 0 < hand.ended.count call.timer := List.count_pos_iff.2 hn
  have hentered : 0 < e.entered ping.pinger call.timer := by
    rw [hrec.pinger]
    exact List.countP_pos_iff.2 ⟨call, hcall, by simp⟩
  omega

/-- The timer of a ping in the hand can be cancelled. -/
theorem disarm (hs : Sound hand e) {token : Token} {timer : TimerId} (ht : timer ∈ hand.ended) :
    Sound hand (e.cancelAlarm (.call id token timer)) := by
  have harmed : Armed hand.late (e.cancelAlarm (.call id token timer)) :=
    hs.armed.cancelAlarm fun other => hs.timer_ne ht other
  unfold Engine.cancelAlarm at harmed ⊢
  split
  · next hset =>
    rw [if_pos hset] at harmed
    let timeline := e.timeline.filter fun entry => entry.2 ≠ .ring (.call id token timer)
    let cancelled : Task := .rang (.call id token timer) .aborted
    have hsame : SameReceives e { e with timeline, ready := e.ready ++ [cancelled] } :=
      ⟨rfl, rfl, rfl, rfl, fun _ =>
        Engine.posted_append_of_ne rfl (by simp [cancelled, Task.listener?])⟩
    have hpost : Aside { e with timeline } { e with timeline, ready := e.ready ++ [cancelled] } :=
      .post rfl
    have hledger : Ledger hand.ended { e with timeline } := { hs.ledger with }
    exact {
      wired := hs.wired.same hsame
        (fun task ht => (List.mem_append.1 ht).symm.imp
          (fun h => by rw [List.mem_singleton.1 h]; rfl) fun h => h)
        fun time task ht => hs.wired.later time task (List.mem_filter.1 ht).1
      counted := hs.counted.same hsame
      settled := fun client hclient => (hs.settled client hclient).congr rfl rfl fun _ => rfl
      ledger := hledger.same (.of_aside hpost)
      armed := harmed
      gone := hs.gone
      targets := hs.targets
      listed := hs.listed.same rfl rfl }
  · exact hs

/-- **The caller of a ping in the hand is told.** -/
theorem tell {number : PingId} {ended : List PingId} (hs : Sound hand e)
    (hh : hand.ended = number :: ended) {ping : Ping} (hping : e.ping? number = some ping)
    (code : ErrorCode) {result : PingResult} (hseq : result.sequence = ping.token.sequence) :
    Sound { hand with ended } (e.tell number ping.caller code result) := by
  let ending : Ending := { ping := number, time := e.now, code, result }
  -- everything but the ledger looks at neither endings nor journal
  have hnote : ∀ journal : List Event,
      journal.filterMap Event.done?
        = (e.doneOf ending).toList ++ e.journal.filterMap Event.done? →
      Sound { hand with ended } { e with endings := ending :: e.endings, journal } := by
    intro journal hj
    have hledger : Ledger (ending.ping :: ended) e := hh ▸ hs.ledger
    exact {
      wired := { hs.wired with }
      counted := hs.counted.same ⟨rfl, rfl, rfl, rfl, fun _ => rfl⟩
      settled := fun client hclient => (hs.settled client hclient).congr rfl rfl fun _ => rfl
      ledger := hledger.note hping hseq hj
      armed := { hs.armed with }
      gone := hs.gone
      targets := hs.targets
      listed := hs.listed.same rfl rfl }
  unfold Engine.tell
  cases hcaller : ping.caller with
  | target index =>
    refine (hnote e.journal ?_).aside (.targetAnswered index code result)
    simp only [Engine.doneOf, ending, hping, hcaller, Option.toList_none, List.nil_append]
  | scripted tag again =>
    refine hnote _ ?_
    simp only [Engine.doneOf, ending, hping, hcaller, List.filterMap_cons, Event.done?,
      Option.toList_some, List.cons_append, List.nil_append]

/-- The request of a call is known to have left. -/
theorem refreshSent (hs : Sound hand e) (token : Token) (timer : TimerId) :
    Sound hand (e.refreshSent id token timer) := by
  unfold Engine.refreshSent
  split
  · exact hs
  · next found hfound =>
    obtain ⟨pinger, call⟩ := found
    obtain ⟨hp, hcall, -⟩ := Engine.callOf?_eq_some hfound
    let mark : Call → Call := fun call =>
      if call.token = token then { call with sent := e.now } else call
    have hmark : ∀ call : Call, (mark call).token = call.token ∧
        (mark call).timer = call.timer ∧ (mark call).queued = call.queued ∧
        (mark call).caller = call.caller := by
      intro call
      by_cases h : call.token = token <;> simp [mark, h]
    have htimers : (pinger.calls.map mark).map Call.timer = pinger.calls.map Call.timer := by
      rw [List.map_map]
      exact List.map_congr_left fun call _ => (hmark call).2.1
    have htokens : (pinger.calls.map mark).map Call.token = pinger.calls.map Call.token := by
      rw [List.map_map]
      exact List.map_congr_left fun call _ => (hmark call).1
    have hg := hs.alive_of_call? hp hcall
    refine hs.updatePinger hp hg (fun pinger => { pinger with calls := pinger.calls.map mark }) hand
      rfl hg (.keeps _ _) (fun _ _ h => h) (fun hu _ => ?_) ?_
      (hs.armed.updatePinger hp fun other ho => ?_)
    · exact hs.settled (.pinger id) hu pinger hp hg (List.ne_nil_of_mem (Pinger.mem_of_call? hcall))
    · refine hs.ledger.moveCalls hp ?_ (fun other ho => ?_) ?_
      · simp only [htimers]
        exact .refl _
      · obtain ⟨old, hold, rfl⟩ := List.mem_map.1 ho
        obtain ⟨ping, hping, hrec⟩ := hs.ledger.entered id old (by rwa [Engine.callsOf_eq hp])
        obtain ⟨h1, h2, h3, h4⟩ := hmark old
        exact ⟨ping, by rwa [h2], hrec.pinger, hrec.token.trans h1.symm,
          hrec.caller.trans h4.symm, hrec.asked.trans h3.symm⟩
      · simp only [htokens]
        rw [← Engine.callsOf_eq hp]
        exact hs.ledger.tokens id
    · obtain ⟨old, hold, rfl⟩ := List.mem_map.1 ho
      exact ⟨old, hold, (hmark old).1.symm, (hmark old).2.1.symm⟩

end Sound

end IcmpEcho
