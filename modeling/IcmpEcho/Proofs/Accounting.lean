/-
# What asking, calling and telling do to the ledger

`Ledger hand e` follows a ping through its life.  Asking puts its number into the hand; a refusal
is posted, or a call is entered, and the hand is empty again (`Ledger.noteAsked`,
`Ledger.postRefusal`, `Ledger.moveCalls`).  Whatever ends the ping takes it back into the hand
(`Ledger.moveCalls`, `Ledger.take`), and telling its caller lays it down for good (`Ledger.note`).
-/
import IcmpEcho.Proofs.Ledger

namespace IcmpEcho

variable {e e' : Engine} {hand hand' : List PingId} {id : PingerId} {pinger : Pinger}

/-! ## 1. Calls of one pinger -/

namespace Engine

theorem callsOf_eq (h : e.pingers[id]? = some pinger) : e.callsOf id = pinger.calls := by
  simp only [callsOf, h, Option.map_some, Option.getD_some]

theorem callsOf_updatePinger (h : e.pingers[id]? = some pinger) (change : Pinger → Pinger)
    (other : PingerId) :
    (e.updatePinger id change).callsOf other
      = if other = id then (change pinger).calls else e.callsOf other := by
  simp only [callsOf, updatePinger, Array.getElem?_modify]
  by_cases hid : id = other
  · subst hid; simp [h]
  · simp [hid, Ne.symm hid]

theorem entered_eq_count (id : PingerId) (number : PingId) :
    e.entered id number = ((e.callsOf id).map Call.timer).count number := by
  rw [entered, List.count, List.countP_map]
  refine List.countP_congr fun call _ => ?_
  simp

theorem callOf?_eq_some {token : Token} {timer : TimerId} {call : Call}
    (h : e.callOf? id token timer = some (pinger, call)) :
    e.pingers[id]? = some pinger ∧ pinger.call? token = some call ∧ call.timer = timer := by
  unfold callOf? at h
  split at h
  · cases h
  · next p hp =>
    split at h
    · cases h
    · next c hc =>
      split at h
      · next ht =>
        cases h
        exact ⟨hp, hc, ht⟩
      · cases h

end Engine

theorem Pinger.mem_of_call? {token : Token} {call : Call} (h : pinger.call? token = some call) :
    call ∈ pinger.calls := List.mem_of_find?_eq_some h

theorem Pinger.token_of_call? {token : Token} {call : Call}
    (h : pinger.call? token = some call) : call.token = token := by
  simpa using List.find?_some h

/-- Of distinct tokens, taking one away takes away exactly its call. -/
theorem Pinger.perm_without {token : Token} {call : Call}
    (hn : (pinger.calls.map Call.token).Nodup) (h : pinger.call? token = some call) :
    pinger.calls.Perm (call :: (pinger.without token).calls) := by
  obtain rfl := token_of_call? h
  have hmem := mem_of_call? h
  obtain ⟨front, back, hcalls⟩ := List.append_of_mem hmem
  have hnot : ∀ other ∈ front ++ back, other.token ≠ call.token := by
    rw [hcalls, List.map_append, List.map_cons] at hn
    have hnd := List.nodup_cons.1 ((List.perm_middle).nodup_iff.1 hn)
    intro other ho heq
    exact hnd.1 (by rw [← List.map_append, ← heq]; exact List.mem_map_of_mem ho)
  have hleft : (pinger.without call.token).calls = front ++ back := by
    have hkeep : ∀ part : List Call, (∀ other ∈ part, other.token ≠ call.token) →
        part.filter (fun other => other.token ≠ call.token) = part := fun part hpart =>
      List.filter_eq_self.2 fun other ho => by simpa using hpart other ho
    have hfront := hkeep front fun other ho => hnot other (List.mem_append_left _ ho)
    have hback := hkeep back fun other ho => hnot other (List.mem_append_right _ ho)
    change pinger.calls.filter _ = _
    rw [hcalls, List.filter_append, hfront, List.filter_cons_of_neg (by simp), hback]
  rw [hleft, hcalls]
  exact List.perm_middle

namespace Ledger

/-! ## 2. Asking and refusing -/

theorem ping?_noteAsked (id : PingerId) (pinger : Pinger) (token : Token) (caller : Caller)
    (number : PingId) :
    (e.noteAsked id pinger token caller).ping? number
      = if number = e.nextPing then
          some { number := e.nextPing, pinger := id, token, caller, asked := e.now,
                 timeout := pinger.timeout }
        else e.ping? number := by
  simp only [Engine.ping?, Engine.noteAsked, List.find?_cons]
  by_cases h : number = e.nextPing
  · subst h; simp
  · simp [h, Ne.symm h]

/-- What was known before a ping was asked for is known after. -/
theorem ping?_noteAsked_of_some (hl : Ledger hand e) {token : Token} {caller : Caller}
    {number : PingId} {ping : Ping} (h : e.ping? number = some ping) :
    (e.noteAsked id pinger token caller).ping? number = some ping := by
  have hlt : number < e.nextPing := (hl.known number).1 (by rw [h]; rfl)
  rw [ping?_noteAsked, if_neg (Nat.ne_of_lt hlt), h]

/-- A number that nobody asked under is in no place. -/
theorem count_of_unknown (hl : Ledger hand e) {number : PingId} (hnone : e.ping? number = none) :
    e.told number = 0 ∧ (∀ id, e.entered id number = 0) ∧ e.refused number = 0 := by
  refine ⟨List.countP_eq_zero.2 fun ending he heq => ?_,
    fun id => List.countP_eq_zero.2 fun call hcall heq => ?_,
    List.countP_eq_zero.2 fun task ht heq => ?_⟩
  · obtain ⟨ping, hping, -⟩ := hl.ended ending he
    rw [of_decide_eq_true heq, hnone] at hping
    cases hping
  · obtain ⟨ping, hping, -⟩ := hl.entered id call hcall
    rw [of_decide_eq_true heq, hnone] at hping
    cases hping
  · cases task with
    | noPing id other caller code sequence =>
      obtain rfl := Option.some.inj (of_decide_eq_true heq)
      obtain ⟨ping, hping, -⟩ := hl.refused _ _ _ _ _ ht
      rw [hnone] at hping
      cases hping
    | _ => simp [Task.refusal?] at heq

/-- **Asking puts the new ping into the hand.** -/
theorem noteAsked (hl : Ledger hand e) (id : PingerId) (pinger : Pinger) (token : Token)
    (caller : Caller) :
    Ledger (e.nextPing :: hand) (e.noteAsked id pinger token caller) where
  known number := by
    have hnext : (e.noteAsked id pinger token caller).nextPing = e.nextPing + 1 := rfl
    rw [ping?_noteAsked, hnext]
    split
    · next h => simp [h]
    · next h =>
      rw [hl.known]
      exact ⟨Nat.lt_succ_of_lt, fun hlt => Nat.lt_of_le_of_ne (Nat.le_of_lt_succ hlt) h⟩
  entered other call hcall := by
    obtain ⟨ping, hping, hrec⟩ := hl.entered other call hcall
    exact ⟨ping, hl.ping?_noteAsked_of_some hping, hrec⟩
  refused other number caller' code sequence ht := by
    obtain ⟨ping, hping, hrest⟩ := hl.refused other number caller' code sequence ht
    exact ⟨ping, hl.ping?_noteAsked_of_some hping, hrest⟩
  ended ending he := by
    obtain ⟨ping, hping, hseq⟩ := hl.ended ending he
    exact ⟨ping, hl.ping?_noteAsked_of_some hping, hseq⟩
  held number hn := by
    rcases List.mem_cons.1 hn with rfl | hn
    · exact Nat.lt_succ_self _
    · exact Nat.lt_succ_of_lt (hl.held number hn)
  once number ping hping := by
    rw [ping?_noteAsked] at hping
    split at hping
    · -- the new ping: nothing else carries its number
      next hnew =>
      subst hnew
      have hnone : e.ping? e.nextPing = none := by
        have := (hl.known e.nextPing).not.2 (Nat.lt_irrefl _)
        simpa using this
      obtain ⟨htold, hentered, hrefused⟩ := hl.count_of_unknown hnone
      have hhand : hand.count e.nextPing = 0 :=
        List.count_eq_zero.2 fun hmem => Nat.lt_irrefl _ (hl.held _ hmem)
      have hown := hentered ping.pinger
      simp only [Engine.noteAsked, Engine.told, Engine.entered, Engine.callsOf, Engine.refused]
        at htold hown hrefused ⊢
      rw [List.count_cons_self, htold, hhand, hown, hrefused]
    · next hne =>
      rw [List.count_cons_of_ne (Ne.symm hne)]
      exact hl.once number ping hping
  tokens := hl.tokens
  seen := by
    have hdone : ∀ ending ∈ e.endings,
        (e.noteAsked id pinger token caller).doneOf ending = e.doneOf ending := by
      intro ending he
      obtain ⟨ping, hping, -⟩ := hl.ended ending he
      simp only [Engine.doneOf, hping, hl.ping?_noteAsked_of_some hping]
    refine hl.seen.trans ?_
    exact (List.filterMap_congr hdone).symm

/-- **A refusal lays down the ping that it refuses.** -/
theorem postRefusal {number : PingId} (hl : Ledger (number :: hand) e) {ping : Ping}
    (hping : e.ping? number = some ping) {fault : PingFault}
    (hf : fault = .packetTooLarge ∨ fault = .sequenceInFlight) :
    Ledger hand
      (e.post (.noPing ping.pinger number ping.caller fault.code ping.token.sequence)) :=
  { hl with
    refused := fun other n caller code sequence ht => by
      rcases List.mem_append.1 ht with ht | ht
      · exact hl.refused other n caller code sequence ht
      · obtain ⟨rfl, rfl, rfl, rfl, rfl⟩ := by simpa using ht
        exact ⟨ping, hping, rfl, rfl, rfl, hf.imp (congrArg _) (congrArg _)⟩
    held := fun n hn => hl.held n (List.mem_cons_of_mem _ hn)
    once := fun n p hp => by
      have h := hl.once n p hp
      have hrefused : (e.post (.noPing ping.pinger number ping.caller fault.code
          ping.token.sequence)).refused n = e.refused n + if number = n then 1 else 0 := by
        by_cases hn : number = n <;>
          simp [Engine.refused, Engine.post, List.countP_append, Task.refusal?, hn]
      rw [hrefused]
      rw [List.count_cons] at h
      simp only [beq_iff_eq] at h
      have htold : (e.post (.noPing ping.pinger number ping.caller fault.code
          ping.token.sequence)).told n = e.told n := rfl
      have hentered : (e.post (.noPing ping.pinger number ping.caller fault.code
          ping.token.sequence)).entered p.pinger n = e.entered p.pinger n := rfl
      omega }

/-! ## 3. Calls into the hand and out of it -/

/-- **Calls move between a pinger and the hand.** -/
theorem moveCalls (hl : Ledger hand e) (hp : e.pingers[id]? = some pinger)
    {change : Pinger → Pinger}
    (hperm : (pinger.calls.map Call.timer ++ hand).Perm
      ((change pinger).calls.map Call.timer ++ hand'))
    (hrec : ∀ call ∈ (change pinger).calls,
      ∃ ping, e.ping? call.timer = some ping ∧ call.Records id ping)
    (htokens : ((change pinger).calls.map Call.token).Nodup) :
    Ledger hand' (e.updatePinger id change) := by
  have hcalls := Engine.callsOf_updatePinger hp change
  exact { hl with
    entered := fun other call hcall => by
      rw [hcalls] at hcall
      split at hcall
      · next h => exact h ▸ hrec call hcall
      · exact hl.entered other call hcall
    held := fun number hn => by
      have hmem := hperm.mem_iff.2 (List.mem_append_right _ hn)
      rcases List.mem_append.1 hmem with hmem | hmem
      · obtain ⟨call, hcall, rfl⟩ := List.mem_map.1 hmem
        rw [← Engine.callsOf_eq hp] at hcall
        obtain ⟨ping, hping, -⟩ := hl.entered id call hcall
        exact (hl.known _).1 (by rw [hping]; rfl)
      · exact hl.held number hmem
    once := fun number ping hping => by
      have hping : e.ping? number = some ping := hping
      have h := hl.once number ping hping
      have hcount := hperm.count_eq number
      rw [List.count_append, List.count_append] at hcount
      have htold : (e.updatePinger id change).told number = e.told number := rfl
      have hrefused : (e.updatePinger id change).refused number = e.refused number := rfl
      rw [Engine.entered_eq_count] at h ⊢
      rw [hcalls]
      by_cases hid : ping.pinger = id
      · rw [if_pos hid]
        rw [hid, Engine.callsOf_eq hp] at h
        omega
      · -- no call of this pinger carries the number, before or after
        have hzero : ∀ calls : List Call, (∀ call ∈ calls,
            ∃ ping, e.ping? call.timer = some ping ∧ call.Records id ping) →
            (calls.map Call.timer).count number = 0 := by
          intro calls hc
          refine List.count_eq_zero.2 fun hmem => ?_
          obtain ⟨call, hcall, rfl⟩ := List.mem_map.1 hmem
          obtain ⟨other, hother, hr⟩ := hc call hcall
          rw [hping] at hother
          exact hid ((Option.some.inj hother) ▸ hr.pinger)
        rw [if_neg hid]
        have h1 := hzero pinger.calls fun call hcall =>
          hl.entered id call (by rwa [Engine.callsOf_eq hp])
        have h2 := hzero (change pinger).calls hrec
        omega
    tokens := fun other => by
      rw [hcalls]
      split
      · exact htokens
      · exact hl.tokens other }

/-- Taking the call of a token takes its ping into the hand. -/
theorem take (hl : Ledger hand e) (hp : e.pingers[id]? = some pinger) {token : Token}
    {call : Call} (hcall : pinger.call? token = some call) :
    Ledger (call.timer :: hand) (e.updatePinger id fun pinger => pinger.without token) := by
  have htokens : (pinger.calls.map Call.token).Nodup := by
    rw [← Engine.callsOf_eq hp]; exact hl.tokens id
  have hperm := Pinger.perm_without htokens hcall
  refine hl.moveCalls hp ?_ (fun other ho => ?_) ?_
  · exact ((hperm.map Call.timer).append_right hand).trans (List.perm_middle.symm)
  · refine hl.entered id other ?_
    rw [Engine.callsOf_eq hp]
    exact (List.mem_filter.1 ho).1
  · exact ((hperm.map Call.token).nodup_iff.1 htokens).of_cons

/-- Taking all calls takes all their pings into the hand. -/
theorem takeAll (hl : Ledger hand e) (hp : e.pingers[id]? = some pinger) :
    Ledger (pinger.calls.map Call.timer ++ hand)
      (e.updatePinger id fun pinger => { pinger with calls := [] }) :=
  hl.moveCalls hp (.refl _) (by simp) (by simp)

/-- **A refusal that is taken up puts its ping into the hand.** -/
theorem consume (hl : Ledger [] e) {front back : List Task} {task : Task}
    (hr : e.ready = front ++ task :: back) :
    Ledger task.refusal?.toList { e with ready := front ++ back } := by
  have hsub : ∀ other ∈ front ++ back, other ∈ e.ready := fun other ho =>
    (sublist_of_taken hr).subset ho
  exact { hl with
    refused := fun id number caller code sequence ht =>
      hl.refused id number caller code sequence (hsub _ ht)
    held := fun number hn => by
      cases task with
      | noPing id ping caller code sequence =>
        obtain rfl := List.mem_singleton.1 hn
        obtain ⟨ping, hping, -⟩ := hl.refused id number caller code sequence
          (hr ▸ List.mem_append_right _ List.mem_cons_self)
        exact (hl.known number).1 (by rw [hping]; rfl)
      | _ => cases hn
    once := fun number ping hping => by
      have h := hl.once number ping hping
      have hcount : e.refused number
          = Engine.refused { e with ready := front ++ back } number
            + task.refusal?.toList.count number := by
        simp only [Engine.refused, hr, List.countP_append, List.countP_cons, decide_eq_true_eq]
        cases task.refusal? with
        | none => simp
        | some other => by_cases h : other = number <;> simp [h]; omega
      have htold : Engine.told { e with ready := front ++ back } number = e.told number := rfl
      have hentered : Engine.entered { e with ready := front ++ back } ping.pinger number
          = e.entered ping.pinger number := rfl
      rw [List.count_nil] at h
      omega }

/-! ## 4. Telling -/

/-- **Telling lays down the ping for good.**  The journal shows it if the caller is scripted. -/
theorem note {ending : Ending} (hl : Ledger (ending.ping :: hand) e) {ping : Ping}
    (hping : e.ping? ending.ping = some ping)
    (hseq : ending.result.sequence = ping.token.sequence) {journal : List Event}
    (hj : journal.filterMap Event.done?
      = (e.doneOf ending).toList ++ e.journal.filterMap Event.done?) :
    Ledger hand { e with endings := ending :: e.endings, journal } :=
  { hl with
    ended := fun other ho => by
      rcases List.mem_cons.1 ho with rfl | ho
      · exact ⟨ping, hping, hseq⟩
      · exact hl.ended other ho
    held := fun n hn => hl.held n (List.mem_cons_of_mem _ hn)
    once := fun n p hp => by
      have h := hl.once n p hp
      have htold : Engine.told { e with endings := ending :: e.endings, journal } n
          = e.told n + if ending.ping = n then 1 else 0 := by
        simp only [Engine.told, List.countP_cons, decide_eq_true_eq]
      rw [htold]
      rw [List.count_cons] at h
      simp only [beq_iff_eq] at h
      have hentered : Engine.entered { e with endings := ending :: e.endings, journal }
          p.pinger n = e.entered p.pinger n := rfl
      have hrefused : Engine.refused { e with endings := ending :: e.endings, journal } n
          = e.refused n := rfl
      omega
    seen := by
      change journal.filterMap Event.done?
        = (ending :: e.endings).filterMap e.doneOf
      rw [hj, hl.seen, List.filterMap_cons]
      cases e.doneOf ending <;> rfl }

end Ledger

end IcmpEcho
