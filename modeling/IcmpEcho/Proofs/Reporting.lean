/-
# What the service is told by tasks

When all pings are the service's, a task that neither begins a round nor brings a signal is a row of
two things (`Reports`): chores, and telling the service how one of its pings ended.  The ping is one
that was asked for, and the target told is the one that asked for it.

A single task may tell the service of many pings: the receive that all calls of a pinger depend on
has failed, and each of them ends.  The service can stop in the middle of such a row.
-/
import IcmpEcho.Proofs.Offstage
import IcmpEcho.Proofs.Performing
import IcmpEcho.Proofs.Uninvolved

namespace IcmpEcho

variable {e e' e'' : Engine} {hand : Hand} {id : PingerId} {number : PingId} {ping : Ping}

/-! ## 1. The relation -/

/-- Every ping was asked for by a target. -/
def Engine.Aimed (e : Engine) : Prop := ∀ ping ∈ e.pings, ∃ index, ping.caller = .target index

/-- `e'` comes from `e` by telling the service how pings of its targets ended, and by chores. -/
inductive Reports : Engine → Engine → Prop
  | nil (e : Engine) : Reports e e
  | apart {e e' e'' : Engine} (head : Chores e e') (rest : Reports e' e'') : Reports e e''
  | tell {e e'' : Engine} {number : PingId} {ping : Ping} {index : Nat} {code : ErrorCode}
    {result : PingResult} (known : e.ping? number = some ping) (caller : ping.caller = .target index)
    (rest : Reports (e.tell number (.target index) code result) e'') : Reports e e''

/-- Telling the service changes none of the pings. -/
theorem Engine.pings_tell (number : PingId) (index : Nat) (code : ErrorCode) (result : PingResult) :
    (e.tell number (.target index) code result).pings = e.pings := by
  let noted : Engine :=
    { e with endings := { ping := number, time := e.now, code, result } :: e.endings }
  have haside : Aside noted (noted.targetAnswered index code result) := .targetAnswered _ _ _
  exact haside.pings

namespace Reports

theorem one (h : Chores e e') : Reports e e' := .apart h (.nil _)

theorem trans (h : Reports e e') (h' : Reports e' e'') : Reports e e'' := by
  induction h with
  | nil => exact h'
  | apart head _ ih => exact .apart head (ih h')
  | tell known caller _ ih => exact .tell known caller (ih h')

theorem pings (h : Reports e e') : e'.pings = e.pings := by
  induction h with
  | nil => rfl
  | apart head _ ih => exact ih.trans (Unbooked.of_chores head).pings
  | tell _ _ _ ih => exact ih.trans (Engine.pings_tell _ _ _ _)

/-! ## 2. How a ping ends -/

/-- Whoever is told is a target, and does not go on by itself. -/
theorem answer (haimed : e.Aimed) {caller : Caller} (hping : e.ping? number = some ping)
    (hcaller : ping.caller = caller) (code : ErrorCode) (result : PingResult) :
    Reports e (e.answer id number caller code result) := by
  obtain ⟨index, hindex⟩ := haimed ping (List.mem_of_find?_eq_some hping)
  rw [← hcaller, hindex]
  exact .tell hping hindex (.nil _)

/-- There are chores, and then a ping ends. -/
theorem apart_answer (haimed : e.Aimed) (h : Chores e e') {caller : Caller}
    (hping : e.ping? number = some ping) (hcaller : ping.caller = caller) (code : ErrorCode)
    (result : PingResult) : Reports e (e'.answer id number caller code result) := by
  have hsame := (Unbooked.of_chores h).pings
  have haimed' : e'.Aimed := fun ping hmem => haimed ping (hsame ▸ hmem)
  have hping' : e'.ping? number = some ping := by rwa [Engine.ping?, hsame]
  exact .apart h (answer haimed' hping' hcaller code result)

theorem complete (hl : Ledger hand.ended e) (haimed : e.Aimed) (token : Token) (timer : TimerId)
    (code : ErrorCode) : Reports e (e.complete id token timer code) := by
  unfold Engine.complete
  cases hfound : e.callOf? id token timer with
  | none => exact .nil e
  | some found =>
    obtain ⟨pinger, call⟩ := found
    obtain ⟨hp, hcall, -⟩ := Engine.callOf?_eq_some hfound
    obtain ⟨ping, hping, hrecords⟩ := hl.entered id call (by
      rw [Engine.callsOf_eq hp]
      exact Pinger.mem_of_call? hcall)
    have hwithout : Chores e (e.updatePinger id fun _ => pinger.without token) := by
      refine .one (.pinger (fun other hother => ?_) fun other hother => ?_) <;>
        (obtain rfl := Option.some.inj (hp.symm.trans hother); rfl)
    have hquiet := hwithout.trans (.cancelCall id token timer)
    dsimp only
    split
    · exact apart_answer haimed (hquiet.trans (.inward (.endReceive _ _))) hping hrecords.caller _ _
    · exact apart_answer haimed hquiet hping hrecords.caller _ _

theorem callSent (hl : Ledger hand.ended e) (haimed : e.Aimed) (token : Token) (timer : TimerId)
    (code : ErrorCode) : Reports e (e.callSent id token timer code) := by
  unfold Engine.callSent
  split
  · exact .one (.refreshSent _ _ _)
  · dsimp only
    split
    · split
      · exact complete hl haimed _ _ _
      · have hlogged : ∀ address message, Inward e (e.logAbout address .warn message) :=
          fun _ _ => .logAbout _ _ _
        have hsame := hlogged ‹Pinger›.destination ("send failed: " ++ code.message)
        refine .apart (.inward hsame) (complete (hl.same (.of_aside (.logAbout _ _ _))) ?_ _ _ _)
        exact fun ping hmem => haimed ping (hsame.pings ▸ hmem)
    · exact complete hl haimed _ _ _

/-- Calls end one after another. -/
theorem failEach (id : PingerId) (code : ErrorCode) :
    ∀ (calls : List Call) {e : Engine}, e.Aimed →
      (∀ call ∈ calls, ∃ ping, e.ping? call.timer = some ping ∧ ping.caller = call.caller) →
      Reports e (calls.foldl (Engine.failCall id code) e)
  | [], e, _, _ => .nil e
  | call :: calls, e, haimed, hknown => by
    obtain ⟨ping, hping, hcaller⟩ := hknown call List.mem_cons_self
    have hfirst : Reports e (Engine.failCall id code e call) :=
      apart_answer haimed (.cancelCall _ _ _) hping hcaller _ _
    refine hfirst.trans (failEach id code calls (fun ping hmem => haimed ping (hfirst.pings ▸ hmem)) ?_)
    intro other hother
    obtain ⟨ping, hping, hcaller⟩ := hknown other (List.mem_cons_of_mem _ hother)
    exact ⟨ping, by rwa [Engine.ping?, hfirst.pings], hcaller⟩

theorem failCalls (haimed : e.Aimed) {pinger : Pinger}
    (hknown : ∀ call ∈ pinger.calls, ∃ ping, e.ping? call.timer = some ping ∧
      ping.caller = call.caller) (code : ErrorCode) : Reports e (e.failCalls id pinger code) := by
  have hcleared : Chores e (e.updatePinger id fun pinger => { pinger with calls := [] }) :=
    .updatePinger id (fun _ => rfl) fun _ => rfl
  have hrest : ∀ next, Chores e next →
      Reports e (pinger.calls.foldl (Engine.failCall id code) next) := by
    intro next h
    have hsame := (Unbooked.of_chores h).pings
    refine .apart h (failEach id code _ (fun ping hmem => haimed ping (hsame ▸ hmem)) ?_)
    intro call hcall
    obtain ⟨ping, hping, hcaller⟩ := hknown call hcall
    exact ⟨ping, by rwa [Engine.ping?, hsame], hcaller⟩
  unfold Engine.failCalls
  dsimp only
  split
  · exact hrest _ hcleared
  · exact hrest _ (hcleared.trans (.inward (.logAbout _ _ _)))

theorem pingerDatagram (haimed : e.Aimed) {pinger : Pinger}
    (hknown : ∀ call ∈ pinger.calls, ∃ ping, e.ping? call.timer = some ping ∧
      ping.caller = call.caller) (received : Time) (source : Address) (data : Bytes) :
    Reports e (e.pingerDatagram id pinger received source data) := by
  have hlogged : Chores e
      (e.logMalformed source (decode pinger.destination.family data source)) :=
    .inward (.logMalformed _ _)
  unfold Engine.pingerDatagram
  dsimp only
  split
  · exact .one (hlogged.trans (.startReceive _))
  · next call reply hmatched =>
    obtain ⟨-, -, hcall⟩ := Engine.matched?_eq_some_iff.1 hmatched
    obtain ⟨ping, hping, hcaller⟩ := hknown call (Pinger.mem_of_call? hcall)
    have hwithout : ∀ next : Engine,
        Chores next (next.updatePinger id fun pinger => pinger.without call.token) :=
      fun _ => .updatePinger id (fun _ => rfl) fun _ => rfl
    exact apart_answer haimed
      (((hlogged.trans (hwithout _)).trans (.startReceive _)).trans (.cancelCall _ _ _))
      hping hcaller _ _

theorem pingerReceived (hl : Ledger hand.ended e) (haimed : e.Aimed) (code : ErrorCode)
    (received : Time) (source : Address) (data : Bytes) :
    Reports e (e.pingerReceived id code received source data) := by
  have hflagged : Chores e (e.updatePinger id fun pinger => { pinger with receiving := false }) :=
    .updatePinger id (fun _ => rfl) fun _ => rfl
  unfold Engine.pingerReceived
  split
  · exact .nil e
  · next pinger hp =>
    have hknown : ∀ call ∈ pinger.calls, ∃ ping, e.ping? call.timer = some ping ∧
        ping.caller = call.caller := by
      intro call hcall
      obtain ⟨ping, hping, hrecords⟩ := hl.entered id call (Engine.callsOf_eq hp ▸ hcall)
      exact ⟨ping, hping, hrecords.caller⟩
    let flagged := e.updatePinger id fun pinger => { pinger with receiving := false }
    have hstill : flagged.Aimed := haimed
    have hcalled : ∀ call ∈ pinger.calls, ∃ ping, flagged.ping? call.timer = some ping ∧
        ping.caller = call.caller := hknown
    split
    · exact .nil e
    · dsimp only
      split
      · exact .apart hflagged (pingerDatagram hstill hcalled _ _ _)
      · split
        · exact .one (hflagged.trans (.startReceive _))
        · exact .apart hflagged (failCalls hstill hcalled _)

/-! ## 3. Tasks -/

theorem sendEnded (hl : Ledger hand.ended e) (haimed : e.Aimed) (client : SendClient)
    (code : ErrorCode) (count : Nat) : Reports e (e.sendEnded client code count) := by
  cases client with
  | raw tag => exact .one (.record _)
  | call id token timer => exact callSent hl haimed _ _ _

theorem receiveEnded (hl : Ledger hand.ended e) (haimed : e.Aimed) (client : ReceiveClient)
    (code : ErrorCode) (source : Address) (data : Bytes) :
    Reports e (e.receiveEnded client code source data) := by
  cases client with
  | raw tag => exact .one (.record _)
  | pinger id => exact pingerReceived hl haimed _ _ _ _
  | hub id => exact .one (.inward (.hubReceived _ _ _ _))

/-- **A task that neither begins a round nor brings a signal tells the service of its pings.** -/
theorem perform {task : Task} (hl : Ledger hand.ended e) (haimed : e.Aimed) (ht : e.Taken task)
    (hcue : task.isCue = false) : Reports e (e.perform task) := by
  cases task with
  | rang alarm code =>
    unfold Engine.perform Engine.rang
    dsimp only
    split
    · exact .nil e
    · next hcode =>
      cases alarm with
      | call id token timer => exact complete hl haimed _ _ _
      | limiter limiter => exact .one (.wakeLimiter _)
      | round => simp [Task.isCue, hcode] at hcue
  | turnedAway sender =>
    cases sender with
    | datagram socket packet destination client => exact sendEnded hl haimed _ _ _
    | labelled limiter label again => exact .one (.answerLabelled _ _ _ _)
  | sent client code count => exact sendEnded hl haimed _ _ _
  | received socket client code source data =>
    unfold Engine.perform Engine.socketReceived
    dsimp only
    split
    · exact receiveEnded hl haimed _ _ _ _
    · split
      · exact receiveEnded hl haimed _ _ _ _
      · have hfailed : Chores e (e.failSocket socket code) := .failSocket _ _
        refine .apart hfailed (receiveEnded (hl.same (.failSocket _ _)) ?_ _ _ _ _)
        exact fun ping hmem => haimed ping ((Unbooked.of_chores hfailed).pings ▸ hmem)
  | noReceive client code => exact receiveEnded hl haimed _ _ _ _
  | mail reader code letter =>
    cases reader with
    | labelled box label again => exact .one (.answerReader _ _ _ _ _)
    | pinger id =>
      unfold Engine.perform Engine.mailArrived
      dsimp only
      split
      · exact .nil e
      · exact pingerReceived hl haimed _ _ _ _
  | noPing id number caller code sequence =>
    obtain ⟨ping, hping, hcaller, -⟩ := ht.refusal _ _ _ _ _ rfl
    exact answer haimed hping hcaller _ _
  | signalled code signal =>
    have herror : code.isError := by simpa [Task.isCue] using hcue
    simp only [Engine.perform, Engine.signalled, if_pos herror]
    exact .nil e

end Reports

end IcmpEcho
