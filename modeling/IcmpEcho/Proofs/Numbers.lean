/-
# New numbers for what is new

Every ping gets a number that no earlier one had.  So whatever happens, apart from a timer that
rings, **earlier pings come to nothing new**: no call of an earlier ping is entered, no earlier ping
is refused, and no timer of a call has rung that had not (`Session.Does.numbers`).
-/
import IcmpEcho.Proofs.Uninvolved

namespace IcmpEcho

variable {e e' e'' : Engine} {hand hand' : Hand} {id : PingerId} {pinger : Pinger}

/-- The timer of a call has rung. -/
def Task.isRung (task : Task) : Bool := task.rings?.any Alarm.isCall

theorem Task.isCall_of_isRung {task : Task} (h : task.isRung) : task.isCall := by
  simp only [Task.isCall, Bool.or_eq_true]
  exact .inr h

/-- `e'` comes from `e`, and earlier pings have come to nothing new. -/
structure Numbers (e e' : Engine) : Prop where
  next : e.nextPing ≤ e'.nextPing
  calls : ∀ id, ∀ call ∈ e'.callsOf id, call.timer < e.nextPing →
    ∃ old ∈ e.callsOf id, old.timer = call.timer
  refused : ∀ number, number < e.nextPing → e'.refused number ≤ e.refused number
  rung : ∀ task ∈ e'.ready, task.isRung → task ∈ e.ready

namespace Numbers

theorem of_sameCalls (h : SameCalls e e') : Numbers e e' where
  next := Nat.le_of_eq h.nextPing.symm
  calls id call hcall _ := ⟨call, by rwa [← h.calls], rfl⟩
  refused number _ := Nat.le_of_eq (h.refused number)
  rung _ ht hrung := mem_of_filter_eq h.ready ht (Task.isCall_of_isRung hrung)

theorem refl (e : Engine) : Numbers e e := of_sameCalls (.refl e)

theorem trans (h : Numbers e e') (h' : Numbers e' e'') : Numbers e e'' where
  next := Nat.le_trans h.next h'.next
  calls id call hcall hlt := by
    obtain ⟨mid, hmid, htimer⟩ := h'.calls id call hcall (Nat.lt_of_lt_of_le hlt h.next)
    obtain ⟨old, hold, hsame⟩ := h.calls id mid hmid (htimer ▸ hlt)
    exact ⟨old, hold, hsame.trans htimer⟩
  refused number hlt :=
    Nat.le_trans (h'.refused number (Nat.lt_of_lt_of_le hlt h.next)) (h.refused number hlt)
  rung task ht hrung := h.rung task (h'.rung task ht hrung) hrung

theorem foldl {α : Type} {f : Engine → α → Engine} (hf : ∀ e a, Numbers e (f e a)) (l : List α)
    (e : Engine) : Numbers e (l.foldl f e) :=
  List.foldlRecOn l f (refl e) fun next h a _ => h.trans (hf next a)

/-! ## 1. Acts -/

/-- A pinger may lose calls. -/
theorem updatePinger (hp : e.pingers[id]? = some pinger) {change : Pinger → Pinger}
    (hc : ∀ call ∈ (change pinger).calls, ∃ old ∈ pinger.calls, old.timer = call.timer) :
    Numbers e (e.updatePinger id change) where
  next := Nat.le_refl _
  calls other call hcall _ := by
    rw [Engine.callsOf_updatePinger hp] at hcall
    split at hcall
    · next heq =>
      rw [heq, Engine.callsOf_eq hp]
      exact hc call hcall
    · exact ⟨call, hcall, rfl⟩
  refused _ _ := Nat.le_refl _
  rung _ ht _ := ht

theorem cancelAlarm (alarm : Alarm) : Numbers e (e.cancelAlarm alarm) := by
  unfold Engine.cancelAlarm
  split
  · refine ⟨Nat.le_refl _, fun id call hcall _ => ⟨call, hcall, rfl⟩, fun number _ => ?_,
      fun task ht hrung => ?_⟩
    · simp [Engine.refused, List.countP_append, Task.refusal?]
    · rcases List.mem_append.1 ht with hold | hnew
      · exact hold
      · rw [List.mem_singleton.1 hnew] at hrung
        simp [Task.isRung, Task.rings?] at hrung
  · exact refl e

/-- A call that is entered has a new number. -/
theorem enterCall (hp : e.pingers[id]? = some pinger) (token : Token) (caller : Caller) :
    Numbers e (e.enterCall id pinger token caller) where
  next := Nat.le_succ _
  calls other call hcall hlt := by
    have hp' : (e.noteAsked id pinger token caller).pingers[id]? = some pinger := hp
    let entered : Call :=
      { token, queued := e.now, sent := e.now, timer := e.nextPing, caller }
    have hcall : call ∈ ((e.noteAsked id pinger token caller).updatePinger id fun pinger =>
        { pinger with calls := entered.insert pinger.calls }).callsOf other := hcall
    rw [Engine.callsOf_updatePinger hp'] at hcall
    split at hcall
    · next heq =>
      rcases Call.mem_insert.1 hcall with rfl | hold
      · exact absurd hlt (Nat.lt_irrefl _)
      · rw [heq, Engine.callsOf_eq hp]
        exact ⟨call, hold, rfl⟩
    · exact ⟨call, hcall, rfl⟩
  refused _ _ := Nat.le_refl _
  rung _ ht _ := ht

/-- A ping that is refused has a new number. -/
theorem refuse (id : PingerId) (pinger : Pinger) (token : Token) (caller : Caller)
    (fault : PingFault) : Numbers e (e.refuse id pinger token caller fault) where
  next := Nat.le_succ _
  calls other call hcall _ := ⟨call, hcall, rfl⟩
  refused number hlt := by
    simp only [Engine.refused, Engine.refuse, Engine.post, Engine.noteAsked, List.countP_append,
      List.countP_singleton, Task.refusal?]
    rw [if_neg (by simpa using Nat.ne_of_gt hlt)]
    exact Nat.le_refl _
  rung task ht hrung := by
    rcases List.mem_append.1 ht with hold | hnew
    · exact hold
    · rw [List.mem_singleton.1 hnew] at hrung
      cases hrung

theorem ping (id : PingerId) (sequence : UInt16) (caller : Caller) :
    Numbers e (e.ping id sequence caller) := by
  unfold Engine.ping
  split
  · exact refl e
  · next pinger hp =>
    dsimp only
    split
    · exact refuse _ _ _ _ _
    · split
      · exact refuse _ _ _ _ _
      · exact ((enterCall hp _ _).trans (of_sameCalls (.startReceive _))).trans
          (of_sameCalls (.of_aside (.submit _ _ _ _)))

theorem tell (number : PingId) (caller : Caller) (code : ErrorCode) (result : PingResult) :
    Numbers e (e.tell number caller code result) := by
  have hnoted : Numbers e
      { e with endings := { ping := number, time := e.now, code, result } :: e.endings } :=
    ⟨Nat.le_refl _, fun _ call hcall _ => ⟨call, hcall, rfl⟩, fun _ _ => Nat.le_refl _,
      fun _ ht _ => ht⟩
  cases caller with
  | scripted tag again =>
    exact hnoted.trans ⟨Nat.le_refl _, fun _ call hcall _ => ⟨call, hcall, rfl⟩,
      fun _ _ => Nat.le_refl _, fun _ ht _ => ht⟩
  | target index => exact hnoted.trans (of_sameCalls (.of_aside (.targetAnswered _ _ _)))

/-- **Acts bring nothing new for earlier pings.** -/
theorem act (h : Act hand e hand' e') : Numbers e e' := by
  cases h with
  | aside h => exact of_sameCalls (.of_aside h)
  | shut socket => exact of_sameCalls (.updateSocket _ _)
  | fail hcode hf hubs => exact of_sameCalls (.updateSocket _ _)
  | receive hb fits hroom => exact of_sameCalls (.receive _ _ _)
  | askMail hb fits => exact of_sameCalls (.askMail _ _)
  | endReceive socket => exact of_sameCalls (.endReceive _ _)
  | closeMail hr hbox => exact of_sameCalls (.closeMail _ _)
  | hub hh socket entries registry frame fatal hu lends => exact of_sameCalls (.updateHub _ _)
  | pinger hp hg alike hu lends =>
    exact updatePinger hp fun call hcall => ⟨call, alike.calls ▸ hcall, rfl⟩
  | sent id token timer =>
    unfold Engine.refreshSent
    split
    · exact refl e
    · next found hcall =>
      have hp : e.pingers[id]? = some found.1 :=
        (@Engine.callOf?_eq_some e id found.1 token timer found.2 hcall).1
      refine updatePinger hp fun call hmem => ?_
      obtain ⟨old, hold, rfl⟩ := List.mem_map.1 hmem
      refine ⟨old, hold, ?_⟩
      split <;> rfl
  | enter hu hp hg hi hfree => exact enterCall hp _ _
  | refuse hp hf => exact refuse _ _ _ _ _
  | take hp hcall =>
    exact updatePinger hp fun call hmem => ⟨call, (List.mem_filter.1 hmem).1, rfl⟩
  | takeAll hp hg => exact updatePinger hp fun call hmem => absurd hmem List.not_mem_nil
  | disarm id token ht => exact cancelAlarm _
  | tell hh hping hseq => exact tell _ _ _ _
  | settle hu h => exact refl e
  | unsettle client hu => exact refl e
  | rest hb hl => exact refl e
  | punctual hl hno => exact refl e

theorem acts (h : Acts hand e hand' e') : Numbers e e' := by
  induction h with
  | nil => exact refl _
  | cons head rest ih => exact (act head).trans ih

/-! ## 2. Tasks and items -/

theorem perform (hs : Sound {} e) {front back : List Task} {task : Task}
    (h : e.ready = front ++ task :: back) :
    Numbers e ({ e with ready := front ++ back }.perform task) := by
  let rest : Engine := { e with ready := front ++ back }
  obtain ⟨hsound, htaken⟩ := hs.consume h
  have hsub : (front ++ back).Sublist e.ready := sublist_of_taken h
  have hrest : Numbers e rest :=
    ⟨Nat.le_refl _, fun _ call hcall _ => ⟨call, hcall, rfl⟩, fun _ _ => hsub.countP_le,
      fun _ ht _ => hsub.subset ht⟩
  have hoffered : SameCalls rest (rest.offered task) := by
    unfold Engine.offered
    split
    · split
      · exact .refl _
      · unfold Engine.hubOffer
        split
        · exact .refl _
        · exact .offerMail _ _
    · exact .refl _
  exact (hrest.trans (of_sameCalls hoffered)).trans (acts (Acts.perform hsound htaken))

/-- An item of the timeline that is no timer of a call. -/
theorem item (hw : Wired e) {front back : List (Time × Happening)} {time : Time} {item : Happening}
    (ht : e.timeline = front ++ (time, item) :: back) (hitem : item.isCall = false) :
    Numbers e ({ e with timeline := front ++ back }.happen item) := by
  have hrest : Numbers e { e with timeline := front ++ back } :=
    ⟨Nat.le_refl _, fun _ call hcall _ => ⟨call, hcall, rfl⟩, fun _ _ => Nat.le_refl _,
      fun _ ht _ => ht⟩
  cases item with
  | ring alarm =>
    refine hrest.trans (of_sameCalls (.post ?_))
    cases alarm with
    | call id token timer => cases hitem
    | _ => rfl
  | ready task =>
    have hcore : task.isCore = false :=
      hw.later time task (ht ▸ List.mem_append_right _ List.mem_cons_self)
    exact hrest.trans (of_sameCalls (.of_aside (.post hcore)))
  | deliver source data => exact hrest.trans (of_sameCalls (.deliver _ _))
  | signal number =>
    simp only [Engine.happen]
    split
    · have hcalm : SameCalls { e with timeline := front ++ back }
          { e with timeline := front ++ back, awaitsSignal := false } := { SameCalls.refl _ with }
      exact hrest.trans (of_sameCalls (hcalm.trans (.post rfl)))
    · exact hrest

end Numbers

/-! ## 3. Deeds -/

namespace Session

variable {s s' : Session} {deed : Deed}

/-- A pinger that is used by name, if the name is one of a pinger. -/
theorem usePinger_numbers (s : Session) (name : String) {act : Engine → PingerId → Engine}
    (hact : ∀ e id, Numbers e (act e id)) :
    Numbers s.engine (s.use name fun engine handle =>
      match handle with
      | .pinger pinger => act engine pinger
      | _ => engine).engine := by
  unfold Session.use
  split
  · exact .refl _
  · next handle _ =>
    cases handle with
    | pinger id => exact hact _ _
    | _ => exact .refl _

/-- **Whatever happens brings nothing new for earlier pings**, but for a timer that rings. -/
theorem Does.numbers (h : Does s deed s') (hs : s.Sound)
    (hring : ∀ item, deed = .item item → item.isCall = false) : Numbers s.engine s'.engine := by
  cases h with
  | step step hrun =>
    cases hpings : step.pings with
    | false => exact .of_sameCalls (perform_sameCalls s hrun hpings)
    | true =>
      cases step with
      | ping name sequence tag again => exact usePinger_numbers s name fun e id => .ping _ _ _
      | burst name sequence count =>
        exact usePinger_numbers s name fun e id => .foldl (fun e i => .ping _ _ _) _ _
      | _ => cases hpings
  | task h => exact (Numbers.perform hs.engine h).trans (.of_sameCalls .sweep)
  | item h =>
    exact (Numbers.item hs.engine.wired h (hring _ rfl)).trans (.of_sameCalls .sweep)
  | clock now => exact .of_sameCalls { SameCalls.refl _ with }
  | network network => exact .of_sameCalls { SameCalls.refl _ with }
  | openService config => exact .of_sameCalls (.openService config)
  | startService =>
    have hwaits : Aside s.engine { s.engine with awaitsSignal := true } := .awaitsSignal true
    have hbegun := hwaits.trans (.logDated .warn ("pingmux service started with "
      ++ toString ((s.engine.service.map fun service => service.targets.size).getD 0)
      ++ " target(s)"))
    exact (Numbers.of_sameCalls (.of_aside hbegun)).trans
      (.acts (.startRound (Moved.of_aside hs.engine hbegun).sound))
  | endService => exact .of_sameCalls (.of_aside .endService)

end Session

end IcmpEcho
