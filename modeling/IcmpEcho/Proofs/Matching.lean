/-
# Which call a datagram answers

A datagram that reaches a pinger ends a call exactly if it is an echo reply, its source is the
pinger's destination and the token of the reply is pending (`Session.datagram_answers`).  Then
**that one call ends**, with what the reply says; otherwise nobody is told and no call ends.

The caller who is told may ping again at once.  So what is said about calls after the datagram is
about those that were there before (`Quiet`): the numbers of pings only grow.
-/
import IcmpEcho.Proofs.Runs

namespace IcmpEcho

variable {e e' e'' : Engine} {id : PingerId} {pinger : Pinger}

/-! ## 1. Where a reply comes from -/

/-- The source of a reply is that of the IP header; over IPv6 it is where the datagram came from. -/
def replySource (family : Family) (data : Bytes) (source : Address) : Address :=
  match family with
  | .v4 => (Ipv4Header.read data).source
  | .v6 => source

theorem source_of_decode {family : Family} {data : Bytes} {source : Address} {reply : EchoReply}
    (h : decode family data source = .reply reply) :
    reply.source = replySource family data source := by
  cases family with
  | v4 =>
    simp only [decode, decodeV4] at h
    split at h
    · cases h
    · split at h
      · cases h
      · simp only [decodeMessageV4] at h
        split at h
        · cases h
        · split at h
          · cases h
          · split at h
            · cases h
            · split at h
              · cases h
              · cases h
                rfl
  | v6 =>
    simp only [decode, decodeV6] at h
    split at h
    · cases h
    · split at h
      · cases h
      · split at h
        · cases h
        · cases h
          rfl

/-! ## 2. Quiet -/

namespace Engine

/-- A pinger without calls does not listen. -/
def Idle (e : Engine) (id : PingerId) : Prop :=
  ∀ pinger, e.pingers[id]? = some pinger → pinger.calls = [] → pinger.receiving = false

/-- The calls of a pinger whose numbers are below a bound. -/
def callsBelow (e : Engine) (id : PingerId) (bound : PingId) : List Call :=
  (e.callsOf id).filter fun call => call.timer < bound

theorem callsBelow_of_le {bound bound' : PingId} (h : bound ≤ bound') :
    (e.callsOf id).filter (fun call => call.timer < bound)
      = (e.callsBelow id bound').filter fun call => call.timer < bound := by
  rw [callsBelow, List.filter_filter]
  refine List.filter_congr fun call _ => ?_
  by_cases hlt : call.timer < bound
  · simp [hlt, Nat.lt_of_lt_of_le hlt h]
  · simp [hlt]

end Engine

theorem Call.filter_insert_of_neg {call : Call} {p : Call → Bool} (h : p call = false) :
    ∀ calls : List Call, (call.insert calls).filter p = calls.filter p
  | [] => by simp [insert, h]
  | head :: rest => by
    simp only [insert]
    split
    · rw [List.filter_cons_of_neg (by simp [h])]
    · rw [List.filter_cons, List.filter_cons, filter_insert_of_neg h rest]

/-- Nobody is told, and no call of `id` ends; new calls may be entered.  Other pingers' calls
stay. -/
structure Quiet (id : PingerId) (e e' : Engine) : Prop where
  endings : e'.endings = e.endings
  nextPing : e.nextPing ≤ e'.nextPing
  old : e'.callsBelow id e.nextPing = e.callsBelow id e.nextPing
  others : ∀ other, other ≠ id → e'.callsOf other = e.callsOf other
  idle : e.Idle id → e'.Idle id

namespace Quiet

theorem refl (e : Engine) : Quiet id e e :=
  ⟨rfl, Nat.le_refl _, rfl, fun _ _ => rfl, fun h => h⟩

theorem trans (h : Quiet id e e') (h' : Quiet id e' e'') : Quiet id e e'' where
  endings := h'.endings.trans h.endings
  nextPing := Nat.le_trans h.nextPing h'.nextPing
  old := by
    rw [Engine.callsBelow, Engine.callsBelow_of_le h.nextPing, h'.old,
      ← Engine.callsBelow_of_le h.nextPing]
    exact h.old
  others other hother := (h'.others other hother).trans (h.others other hother)
  idle hidle := h'.idle (h.idle hidle)

/-- Nothing happens to pingers. -/
theorem of_pingers (pingers : e'.pingers = e.pingers) (nextPing : e'.nextPing = e.nextPing)
    (endings : e'.endings = e.endings) : Quiet id e e' where
  endings := endings
  nextPing := Nat.le_of_eq nextPing.symm
  old := by simp only [Engine.callsBelow, Engine.callsOf, pingers]
  others other _ := by simp only [Engine.callsOf, pingers]
  idle hidle pinger hp := hidle pinger (by rwa [← pingers])

theorem of_aside (h : Aside e e') : Quiet id e e' :=
  of_pingers h.pingers h.nextPing h.endings

theorem of_sameParts (h : SameParts e e') : Quiet id e e' :=
  of_pingers h.pingers h.nextPing h.endings

theorem cancelAlarm (alarm : Alarm) : Quiet id e (e.cancelAlarm alarm) := by
  unfold Engine.cancelAlarm
  split
  · exact of_pingers rfl rfl rfl
  · exact refl e

/-- A pinger with calls starts to listen. -/
theorem startReceive : Quiet id e (e.startReceive id) := by
  unfold Engine.startReceive
  split
  · exact refl e
  · next pinger hp =>
    split
    · exact refl e
    · next hneeds =>
      let change : Pinger → Pinger := fun pinger => { pinger with receiving := true }
      have hcalls : SameCalls e (e.updatePinger id change) := .updatePinger fun _ => rfl
      have hflag : Quiet id e (e.updatePinger id change) := {
        endings := rfl
        nextPing := Nat.le_refl _
        old := by simp only [Engine.callsBelow, hcalls.calls]
        others := fun other _ => hcalls.calls other
        idle := fun _ pinger' hp' hempty => by
          rw [Engine.pingers_updatePinger hp, if_pos rfl] at hp'
          obtain rfl := Option.some.inj hp'
          have hempty : pinger.calls = [] := hempty
          simp [hempty] at hneeds }
      simp only []
      split
      · exact hflag.trans (of_sameParts (.askMail _ _))
      · exact hflag.trans (of_sameParts (.receive _ _ _))

/-- A call is entered under a number that no earlier call has. -/
theorem enterCall (hp : e.pingers[id]? = some pinger) (token : Token) (caller : Caller) :
    Quiet id e (e.enterCall id pinger token caller) := by
  let call : Call := { token, queued := e.now, sent := e.now, timer := e.nextPing, caller }
  have hentered : (e.enterCall id pinger token caller).pingers[id]?
      = some { pinger with calls := call.insert pinger.calls } := by
    have hp' : (e.noteAsked id pinger token caller).pingers[id]? = some pinger := hp
    exact (Engine.pingers_updatePinger hp' _ id).trans (if_pos rfl)
  have hcall : call ∈ call.insert pinger.calls := Call.mem_insert.2 (.inl rfl)
  exact {
    endings := rfl
    nextPing := Nat.le_succ _
    old := by
      rw [Engine.callsBelow, Engine.callsBelow, Engine.callsOf_eq hp, Engine.callsOf_eq hentered]
      exact Call.filter_insert_of_neg (by simp [call]) _
    others := fun other hother => by
      simp [Engine.enterCall, Engine.callsOf, Engine.ringAfter, Engine.schedule,
        Engine.updatePinger, Engine.noteAsked, Array.getElem?_modify, Ne.symm hother]
    idle := fun _ pinger' hp' hempty => by
      obtain rfl := Option.some.inj (hentered.symm.trans hp')
      have hempty : call.insert pinger.calls = [] := hempty
      rw [hempty] at hcall
      cases hcall }

/-- **Pinging tells nobody**, and leaves all earlier calls alone. -/
theorem ping (id : PingerId) (sequence : UInt16) (caller : Caller) :
    Quiet id e (e.ping id sequence caller) := by
  have hrefuse : ∀ pinger token fault, Quiet id e (e.refuse id pinger token caller fault) :=
    fun _ _ _ => ⟨rfl, Nat.le_succ _, rfl, fun _ _ => rfl, fun h => h⟩
  unfold Engine.ping
  split
  · exact refl e
  · next pinger hp =>
    simp only []
    split
    · exact hrefuse _ _ _
    · split
      · exact hrefuse _ _ _
      · exact ((enterCall hp _ caller).trans startReceive).trans (of_aside (.submit _ _ _ _))

end Quiet

/-- Telling a caller adds one ending, and does nothing to pingers. -/
theorem Engine.tell_spec (number : PingId) (caller : Caller) (code : ErrorCode)
    (result : PingResult) :
    let next := e.tell number caller code result
    next.endings = { ping := number, time := e.now, code, result } :: e.endings ∧
      next.pingers = e.pingers ∧ next.nextPing = e.nextPing := by
  cases caller with
  | scripted tag again => exact ⟨rfl, rfl, rfl⟩
  | target index =>
    let noted : Engine :=
      { e with endings := { ping := number, time := e.now, code, result } :: e.endings }
    have haside : Aside noted (noted.targetAnswered index code result) := .targetAnswered _ _ _
    exact ⟨haside.endings, haside.pingers, haside.nextPing⟩

/-! ## 3. One datagram -/

/-- One caller is told that the ping of `call` succeeded; of the earlier calls of `id` just that one
is gone. -/
structure Succeeds (id : PingerId) (call : Call) (reply : EchoReply) (e e' : Engine) : Prop where
  told : ∃ time roundTrip, e'.endings
    = { ping := call.timer, time, code := .success,
        result := { sequence := call.token.sequence, reply := some reply, roundTrip } } :: e.endings
  nextPing : e.nextPing ≤ e'.nextPing
  old : e'.callsBelow id e.nextPing
    = (e.callsBelow id e.nextPing).filter fun other => other.token ≠ call.token
  others : ∀ other, other ≠ id → e'.callsOf other = e.callsOf other
  idle : e.Idle id → e'.Idle id

namespace Succeeds

variable {call : Call} {reply : EchoReply}

theorem quiet (h : Succeeds id call reply e e') (h' : Quiet id e' e'') :
    Succeeds id call reply e e'' where
  told := by rw [h'.endings]; exact h.told
  nextPing := Nat.le_trans h.nextPing h'.nextPing
  old := by
    rw [Engine.callsBelow, Engine.callsBelow_of_le h.nextPing, h'.old,
      ← Engine.callsBelow_of_le h.nextPing]
    exact h.old
  others other hother := (h'.others other hother).trans (h.others other hother)
  idle hidle := h'.idle (h.idle hidle)

theorem after (h : Quiet id e e') (hnext : e'.nextPing = e.nextPing)
    (h' : Succeeds id call reply e' e'') : Succeeds id call reply e e'' where
  told := by rw [← h.endings]; exact h'.told
  nextPing := hnext ▸ h'.nextPing
  old := by rw [← h.old, ← hnext]; exact h'.old
  others other hother := (h'.others other hother).trans (h.others other hother)
  idle hidle := h'.idle (h.idle hidle)

/-- **The call that is answered ends, and no other.** -/
theorem succeed (hp : e.pingers[id]? = some pinger) (hidle : pinger.receiving = false)
    (hcall : pinger.call? { identifier := reply.identifier, sequence := reply.sequence }
      = some call) (received : Time) :
    Succeeds id call reply e (e.succeed id call reply received) := by
  have hsequence : reply.sequence = call.token.sequence := by
    rw [Pinger.token_of_call? hcall]
  let taken := e.updatePinger id fun pinger => pinger.without call.token
  have hp' : taken.pingers[id]? = some (pinger.without call.token) := by
    rw [Engine.pingers_updatePinger hp, if_pos rfl]
  let ready := (taken.startReceive id).cancelAlarm (.call id call.token call.timer)
  have hready : Quiet id taken ready := Quiet.startReceive.trans (.cancelAlarm _)
  let result : PingResult :=
    { sequence := reply.sequence, reply := some reply, roundTrip := Engine.roundTrip call received }
  obtain ⟨hendings, hpingers, hnext⟩ :=
    Engine.tell_spec (e := ready) call.timer call.caller .success result
  let told := ready.tell call.timer call.caller .success result
  have htold : Succeeds id call reply e told := {
    told := ⟨ready.now, Engine.roundTrip call received, by
      rw [hendings, hready.endings, ← hsequence]
      rfl⟩
    nextPing := by rw [hnext]; exact hready.nextPing
    old := by
      have hsame : told.callsOf id = ready.callsOf id := by
        simp only [Engine.callsOf, told, hpingers]
      rw [Engine.callsBelow, hsame]
      refine (hready.old.trans ?_)
      rw [Engine.callsBelow, Engine.callsBelow, Engine.callsOf_eq hp', Engine.callsOf_eq hp]
      exact List.filter_comm _ _ _
    others := fun other hother => by
      have hsame : told.callsOf other = ready.callsOf other := by
        simp only [Engine.callsOf, told, hpingers]
      rw [hsame, hready.others other hother]
      simp [taken, Engine.callsOf, Engine.updatePinger, Array.getElem?_modify, Ne.symm hother]
    idle := fun _ pinger' hpinger' => by
      refine hready.idle (fun other hother _ => ?_) pinger' (by rwa [← hpingers])
      obtain rfl := Option.some.inj (hp'.symm.trans hother)
      exact hidle }
  unfold Engine.succeed Engine.answer
  simp only []
  split
  · split
    · exact htold.quiet (.ping _ _ _)
    · exact htold
  · exact htold

end Succeeds

/-! ## 4. What a datagram does -/

/-- The datagram that a pinger gets with a task, and where it came from.  A mailbox holds only
what came from the destination of its pinger. -/
def Task.datagram? (id : PingerId) (pinger : Pinger) : Task → Option (Address × Bytes)
  | .received _ (.pinger reader) code source data =>
    if reader = id ∧ code.isError = false then some (source, data) else none
  | .mail (.pinger reader) code letter =>
    if reader = id ∧ code.isError = false then some (pinger.destination, letter.packet) else none
  | _ => none

/-- When the datagram of a task was received: now, or when it was put into the mailbox. -/
def Task.receivedAt (now : Time) : Task → Time
  | .mail _ _ letter => letter.time
  | _ => now

/-- The datagram is a reply from the pinger's destination to a call that is pending. -/
structure Pinger.Answered (pinger : Pinger) (source : Address) (data : Bytes) (call : Call)
    (reply : EchoReply) : Prop where
  decoded : decode pinger.destination.family data source = .reply reply
  source : reply.source = pinger.destination
  pending : pinger.call? { identifier := reply.identifier, sequence := reply.sequence } = some call

namespace Engine

/-- A pinger that got a datagram has its receive behind it. -/
def heard (e : Engine) (id : PingerId) : Engine :=
  e.updatePinger id fun pinger => { pinger with receiving := false }

/-- **A task that brings a datagram** hands it to its pinger. -/
theorem perform_datagram {task : Task} {source : Address} {data : Bytes}
    (hp : e.pingers[id]? = some pinger) (hg : pinger.gone = false)
    (h : task.datagram? id pinger = some (source, data)) :
    e.perform task
      = (e.heard id).pingerDatagram id pinger (task.receivedAt e.now) source data := by
  have hreceived : ∀ code received source data, code.isError = false →
      e.pingerReceived id code received source data
        = (e.heard id).pingerDatagram id pinger received source data := by
    intro code received source data hcode
    simp [pingerReceived, hp, hg, hcode, heard]
  unfold Task.datagram? at h
  split at h
  · next socket reader code source' data' =>
    split at h
    · next hall =>
      obtain ⟨rfl, hcode⟩ := hall
      obtain ⟨rfl, rfl⟩ := Prod.mk.inj (Option.some.inj h)
      simp [perform, socketReceived, receiveEnded, hcode, hreceived, Task.receivedAt]
    · cases h
  · next reader code letter =>
    split at h
    · next hall =>
      obtain ⟨rfl, hcode⟩ := hall
      obtain ⟨rfl, rfl⟩ := Prod.mk.inj (Option.some.inj h)
      simp [perform, mailArrived, hp, hcode, hreceived, Task.receivedAt]
    · cases h
  · cases h

/-- **What a datagram does**: it ends the call it answers, or it does nothing. -/
theorem pingerDatagram_cases (hp : e.pingers[id]? = some { pinger with receiving := false })
    (received : Time) (source : Address) (data : Bytes) :
    let next := e.pingerDatagram id pinger received source data
    (∃ call reply, pinger.Answered source data call reply ∧ Succeeds id call reply e next) ∨
      (¬ ∃ call reply, pinger.Answered source data call reply) ∧ Quiet id e next ∧
        next.nextPing = e.nextPing := by
  let decoded := decode pinger.destination.family data source
  have hlog : Aside e (e.logMalformed source decoded) := .logMalformed _ _
  unfold pingerDatagram
  simp only []
  split
  · next hnone =>
    have hstart : SameCalls (e.logMalformed source decoded) _ := .startReceive id
    refine .inr ⟨?_, (Quiet.of_aside hlog).trans .startReceive, hstart.nextPing.trans hlog.nextPing⟩
    rintro ⟨call, reply, hanswered⟩
    have hmatch := matched?_eq_some_iff.2 ⟨hanswered.decoded, hanswered.source, hanswered.pending⟩
    rw [hnone] at hmatch
    cases hmatch
  · next call reply hmatch =>
    obtain ⟨hdecoded, hsource, hpending⟩ := matched?_eq_some_iff.1 hmatch
    rw [← hlog.pingers] at hp
    exact .inl ⟨call, reply, ⟨hdecoded, hsource, hpending⟩,
      (Succeeds.succeed hp rfl hpending received).after (.of_aside hlog) hlog.nextPing⟩

/-- **What becomes of a task that brings a datagram.**  Afterwards the pinger listens only if it has
calls. -/
theorem perform_datagram_cases {task : Task} {source : Address} {data : Bytes}
    (hp : e.pingers[id]? = some pinger) (hg : pinger.gone = false)
    (h : task.datagram? id pinger = some (source, data)) :
    (e.perform task).Idle id ∧
      ((∃ call reply, pinger.Answered source data call reply ∧
          Succeeds id call reply e (e.perform task)) ∨
        (¬ ∃ call reply, pinger.Answered source data call reply) ∧ Quiet id e (e.perform task) ∧
          (e.perform task).nextPing = e.nextPing) := by
  have hpheard : (e.heard id).pingers[id]? = some { pinger with receiving := false } :=
    (pingers_updatePinger hp _ id).trans (if_pos rfl)
  have hidle : (e.heard id).Idle id := by
    intro pinger' hp' _
    obtain rfl := Option.some.inj (hpheard.symm.trans hp')
    rfl
  have hcalls : SameCalls e (e.heard id) := .updatePinger fun _ => rfl
  have hheard : Quiet id e (e.heard id) := {
    endings := rfl
    nextPing := Nat.le_refl _
    old := by simp only [callsBelow, hcalls.calls]
    others := fun other _ => hcalls.calls other
    idle := fun _ => hidle }
  rw [perform_datagram hp hg h]
  rcases pingerDatagram_cases hpheard (task.receivedAt e.now) source data with
    ⟨call, reply, hanswered, hsucceeds⟩ | ⟨hnone, hquiet, hnext⟩
  · exact ⟨hsucceeds.idle hidle, .inl ⟨call, reply, hanswered, hsucceeds.after hheard rfl⟩⟩
  · exact ⟨hquiet.idle hidle, .inr ⟨hnone, hheard.trans hquiet, hnext⟩⟩

end Engine

/-- All calls have numbers that were given out. -/
theorem Sound.callsBelow_eq {hand : Hand} (hs : Sound hand e) {bound : PingId}
    (hb : e.nextPing ≤ bound) : e.callsBelow id bound = e.callsOf id := by
  refine List.filter_eq_self.2 fun call hcall => ?_
  obtain ⟨ping, hping, -⟩ := hs.ledger.entered id call hcall
  have hlt := (hs.ledger.known call.timer).1 (by rw [hping]; rfl)
  exact decide_eq_true (Nat.lt_of_lt_of_le hlt hb)

/-- A pinger listens exactly while it has calls, if it is idle without any. -/
theorem Sound.outstanding_pinger (hs : Sound {} e) (hp : e.pingers[id]? = some pinger)
    (hg : pinger.gone = false) (hidle : e.Idle id) :
    e.outstanding (.pinger id) = if (e.callsOf id).isEmpty then 0 else 1 := by
  have hcount := hs.counted.exact (.pinger id) pinger.receiving (by simp [Engine.listens?, hp, hg])
  have hsettled := hs.settled (.pinger id) (by simp) pinger hp hg
  rw [Engine.callsOf_eq hp]
  by_cases hcalls : pinger.calls = []
  · simpa [hcalls, hidle pinger hp hcalls] using hcount
  · simpa [hcalls, hsettled hcalls] using hcount

/-- Only one call has the token of a call. -/
theorem Sound.filter_ne {hand : Hand} (hs : Sound hand e) (hp : e.pingers[id]? = some pinger)
    {token : Token} {call : Call} (hcall : pinger.call? token = some call) :
    (pinger.calls.filter fun other => other.token ≠ call.token)
      = pinger.calls.filter fun other => other ≠ call := by
  have htokens := hs.ledger.tokens id
  rw [Engine.callsOf_eq hp] at htokens
  refine List.filter_congr fun other hother => ?_
  have hiff : other.token = call.token ↔ other = call :=
    ⟨List.inj_on_of_nodup_map htokens hother (Pinger.mem_of_call? hcall), congrArg _⟩
  simp only [ne_eq, hiff]

namespace Session

variable {s s' : Session}

/-- **Every datagram that reaches a pinger ends one call or none.**

It ends the call that it answers, and then of all calls that were pending just that one; its
caller is told what the reply says, which are the identifier and the sequence number that the call
was made with and the pinger's destination.  A datagram that answers no call changes no calls and
nobody is told.  In either case a receive is outstanding afterwards exactly if calls are. -/
theorem datagram_answers {task : Task} {source : Address} {data : Bytes} (hr : Reachable s)
    (hd : Does s (.task task) s') (hp : s.engine.pingers[id]? = some pinger)
    (hg : pinger.gone = false) (hdatagram : task.datagram? id pinger = some (source, data)) :
    ((∃ call reply ping time roundTrip, pinger.Answered source data call reply ∧
        reply.source = replySource pinger.destination.family data source ∧
        s.engine.ping? call.timer = some ping ∧ ping.pinger = id ∧
        ping.token = { identifier := reply.identifier, sequence := reply.sequence } ∧
        s'.engine.endings =
          { ping := call.timer, time, code := .success,
            result := { sequence := ping.token.sequence, reply := some reply, roundTrip } }
            :: s.engine.endings ∧
        s'.engine.callsBelow id s.engine.nextPing
          = pinger.calls.filter fun other => other ≠ call) ∨
      (¬ ∃ call reply, pinger.Answered source data call reply) ∧
        s'.engine.endings = s.engine.endings ∧ s'.engine.callsOf id = pinger.calls) ∧
    (∀ other, other ≠ id → s'.engine.callsOf other = s.engine.callsOf other) ∧
    s'.engine.outstanding (.pinger id) = if (s'.engine.callsOf id).isEmpty then 0 else 1 := by
  have he := hr.sound.engine
  cases hd with
  | @task front back _ hready =>
    obtain ⟨hsound, hsteady⟩ := he.perform hready
    obtain ⟨hidle, hcases⟩ := Engine.perform_datagram_cases
      (e := { s.engine with ready := front ++ back }) hp hg hdatagram
    have hsweep := Retires.sweep hsound
    generalize Engine.perform { s.engine with ready := front ++ back } task = next
      at hsound hsteady hidle hcases hsweep ⊢
    -- the sweep is nothing to calls, endings and receives
    have hswept : ∀ other, next.sweep.callsOf other = next.callsOf other := hsweep.calls
    obtain ⟨pinger', hp', hfollows⟩ := hsteady.pingers id pinger hp
    have hport : next.port? (.pinger id) = some pinger'.port := by
      simp only [Engine.port?, hp', Option.map_some]
    have houtstanding : next.sweep.outstanding (.pinger id)
        = if (next.sweep.callsOf id).isEmpty then 0 else 1 := by
      rw [hswept]
      exact (hsweep.outstanding (.pinger id) pinger'.port hport).trans
        (hsound.outstanding_pinger hp' (hfollows.gone.trans hg) hidle)
    have hcalls : s.engine.callsBelow id s.engine.nextPing = pinger.calls := by
      rw [he.callsBelow_eq (Nat.le_refl _), Engine.callsOf_eq hp]
    have hbelow : next.sweep.callsBelow id s.engine.nextPing
        = next.callsBelow id s.engine.nextPing := by
      rw [Engine.callsBelow, Engine.callsBelow, hswept]
    rcases hcases with ⟨call, reply, hanswered, hsucceeds⟩ | ⟨hnone, hquiet, hnext⟩
    · obtain ⟨time, roundTrip, htold⟩ := hsucceeds.told
      obtain ⟨ping, hping, hrecords⟩ := he.ping?_of_call? hp hanswered.pending
      have htoken := Pinger.token_of_call? hanswered.pending
      refine ⟨.inl ⟨call, reply, ping, time, roundTrip, hanswered,
        source_of_decode hanswered.decoded, hping, hrecords.pinger, hrecords.token.trans htoken,
        ?_, ?_⟩, fun other hother => ?_, houtstanding⟩
      · rw [hsweep.endings, hrecords.token]
        exact htold
      · rw [hbelow, ← he.filter_ne hp hanswered.pending, ← hcalls]
        exact hsucceeds.old
      · rw [hswept]
        exact hsucceeds.others other hother
    · refine ⟨.inr ⟨hnone, ?_, ?_⟩, fun other hother => ?_, houtstanding⟩
      · rw [hsweep.endings]
        exact hquiet.endings
      · rw [hswept, ← hcalls, ← hsound.callsBelow_eq (Nat.le_of_eq hnext)]
        exact hquiet.old
      · rw [hswept]
        exact hquiet.others other hother

/-- A pinger with one call, and the reply to it next to the end of its send.  The reply is taken
first: the call ends and nothing is listened for. -/
theorem datagram_answers_of_reply :
    let source := Address.ofOctets 10 0 0 1
    let header : Bytes := [69, 0, 0, 28, 0, 0, 0, 0, 64, 1, 0, 0, 10, 0, 0, 1, 10, 0, 0, 9]
    let data : Bytes := header ++ [0, 0, 239, 254, 16, 0, 0, 1]
    let created := ((fresh {} 1 none [] []).perform (.create "pinger" source {})).1
    let pinged := (created.perform (.ping "pinger" 1 "tag" [])).1
    let s := (pinged.perform (.deliver source data 1 none)).1
    ∃ s', Does s (.task (.received 0 (.pinger 0) .success source data)) s' ∧
      s'.engine.callsOf 0 = [] ∧ s'.engine.outstanding (.pinger 0) = 0 := by
  intro source header data created pinged s
  have hr : Reachable s := (((Reachable.fresh _ _ _ _ _).perform _).perform _).perform _
  let sent : Task := .sent (.call 0 { identifier := 4096, sequence := 1 } 0) .success 64
  let task : Task := .received 0 (.pinger 0) .success source data
  have hready : s.engine.ready = [sent] ++ task :: [] := by decide +kernel
  obtain ⟨pinger, hp⟩ : ∃ pinger, s.engine.pingers[0]? = some pinger :=
    Option.isSome_iff_exists.1 (by decide +kernel)
  have hgone : pinger.gone = false := by
    have halive : s.engine.pingers[0]?.map Pinger.gone = some false := by decide +kernel
    rw [hp] at halive
    exact Option.some.inj halive
  have hdatagram : task.datagram? 0 pinger = some (source, data) := by rfl
  let next : Session :=
    { s with engine := ({ s.engine with ready := [sent] ++ [] }.perform task).sweep }
  have hd : Does s (.task task) next := .task hready
  have hempty : next.engine.callsOf 0 = [] := by decide +kernel
  have hreceives := (datagram_answers hr hd hp hgone hdatagram).2.2
  rw [hempty] at hreceives
  exact ⟨next, hd, hempty, hreceives⟩

end Session

end IcmpEcho
