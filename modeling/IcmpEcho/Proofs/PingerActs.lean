/-
# Pingers act by acts

Every function by which a pinger starts a ping, ends one or takes what it received is a row of acts
(`Acts`).  Such a function starts and ends with nothing in the hand but what its statement says;
pings whose callers are still to be told later may stay there (`ended`).
-/
import Mathlib.Data.List.Nodup
import IcmpEcho.Proofs.Act

namespace IcmpEcho

variable {e e' : Engine} {id : PingerId} {pinger : Pinger} {ended : List PingId}
  {late : Option Alarm} {unsettled : Option ReceiveClient} {may : HubId → Address → Prop}

/-! ## 1. Asking -/

/-- **Only its size can be wrong with a request.** -/
theorem encodeRequest_eq_error_iff {family : Family} {identifier sequence : UInt16} {size : Nat}
    {fault : PingFault} :
    encodeRequest family identifier sequence size = .error fault ↔
      maxPayload family < size ∧ fault = .packetTooLarge := by
  unfold encodeRequest
  split
  · next h => simp [h, eq_comm]
  · next h => cases family <;> simp [h]

namespace Engine

theorem settled_pinger (hp : e.pingers[id]? = some pinger)
    (h : pinger.calls ≠ [] → pinger.receiving = true) : e.Settled (.pinger id) := by
  intro other hother _ hcalls
  obtain rfl := Option.some.inj (hp.symm.trans hother)
  exact h hcalls

/-- A function that changes one pinger may look at it first. -/
theorem updatePinger_const (hp : e.pingers[id]? = some pinger) (change : Pinger → Pinger) :
    (e.updatePinger id fun _ => change pinger) = e.updatePinger id change := by
  have harray : e.pingers.modify id (fun _ => change pinger) = e.pingers.modify id change := by
    refine Array.ext_getElem? fun i => ?_
    rw [Array.getElem?_modify, Array.getElem?_modify]
    split
    · next h => subst h; simp [hp]
    · rfl
  simp only [updatePinger, harray]

end Engine

namespace Acts

/-- **A pinger starts the receive that its calls need.** -/
theorem startReceive (hs : Sound ⟨none, unsettled, ended, late, may⟩ e)
    (hu : unsettled = none ∨ unsettled = some (.pinger id)) (hp : e.pingers[id]? = some pinger)
    (hg : pinger.gone = false) :
    Acts ⟨none, unsettled, ended, late, may⟩ e ⟨none, none, ended, late, may⟩ (e.startReceive id) := by
  unfold Engine.startReceive
  simp only [hp]
  split
  · -- it listens already, or it has no calls
    next hlistens =>
    rcases hu with rfl | rfl
    · exact .nil _ _
    · refine .one (.settle rfl (Engine.settled_pinger hp fun hcalls => ?_))
      simpa [hcalls] using hlistens
  · next hneeds =>
    have hflag : pinger.receiving = false := by
      cases hr : pinger.receiving with
      | false => rfl
      | true => simp [hr] at hneeds
    let flagged := e.updatePinger id fun pinger => { pinger with receiving := true }
    have hset : Act ⟨none, unsettled, ended, late, may⟩ e
        ⟨some (.pinger id), some (.pinger id), ended, late, may⟩ flagged :=
      .pinger hp hg ⟨rfl, rfl, rfl, rfl, rfl⟩ hu (by rw [hflag]; exact .sets)
    have hp' : flagged.pingers[id]? = some { pinger with receiving := true } := by
      rw [Engine.pingers_updatePinger hp, if_pos rfl]
    have hsettle : Act ⟨some (.pinger id), some (.pinger id), ended, late, may⟩ flagged
        ⟨some (.pinger id), none, ended, late, may⟩ flagged :=
      .settle rfl (Engine.settled_pinger hp' fun _ => rfl)
    have hport : flagged.port? (.pinger id) = some pinger.port := by
      simp only [Engine.port?, hp', Option.map_some]
      rfl
    refine .cons hset (.cons hsettle ?_)
    split
    · next box hbox =>
      have hfits : flagged.Fits (.pinger id) (.box box) :=
        Engine.fits_of_port? (by rw [hport, Pinger.port, hbox])
      exact .one (.askMail rfl hfits)
    · next hbox =>
      have hfits : flagged.Fits (.pinger id) (.socket pinger.socket) :=
        Engine.fits_of_port? (by rw [hport, Pinger.port, hbox])
      exact .one (.receive rfl hfits (by simp))

/-- **Pinging is done by acts.** -/
theorem ping (hs : Sound ⟨none, none, ended, late, may⟩ e)
    (hg : ∀ pinger : Pinger, e.pingers[id]? = some pinger → pinger.gone = false)
    (sequence : UInt16) (caller : Caller) :
    Acts ⟨none, none, ended, late, may⟩ e ⟨none, none, ended, late, may⟩
      (e.ping id sequence caller) := by
  unfold Engine.ping
  split
  · exact .nil _ _
  · next pinger hp =>
    simp only []
    split
    · next fault hfault =>
      obtain ⟨-, rfl⟩ := encodeRequest_eq_error_iff.1 hfault
      exact .one (.refuse hp (.inl rfl))
    · next packet hpacket =>
      split
      · exact .one (.refuse hp (.inr rfl))
      · next hfree =>
        let token : Token := { identifier := pinger.identifier, sequence }
        have hnone : pinger.call? token = none := by
          cases hc : pinger.call? token with
          | none => rfl
          | some call => simp [token, hc] at hfree
        have hact : Act ⟨none, none, ended, late, may⟩ e ⟨none, some (.pinger id), ended, late, may⟩
            (e.enterCall id pinger token caller) :=
          .enter rfl hp (hg pinger hp) rfl hnone
        have hs' := hact.sound hs
        obtain ⟨pinger', hp', hfollows⟩ := (hact.steady hs).pingers id pinger hp
        have hstart := startReceive hs' (.inr rfl) hp' (hfollows.gone.trans (hg pinger hp))
        exact .cons hact (hstart.trans (.aside (.submit _ _ _ _)))

/-! ## 2. Telling -/

/-- **Telling a caller is done by acts, also when the caller pings again.** -/
theorem answer {number : PingId} {ping : Ping} {caller : Caller}
    (hs : Sound ⟨none, none, number :: ended, late, may⟩ e) (hping : e.ping? number = some ping)
    (hcaller : ping.caller = caller) (id : PingerId) (code : ErrorCode) {result : PingResult}
    (hseq : result.sequence = ping.token.sequence) :
    Acts ⟨none, none, number :: ended, late, may⟩ e ⟨none, none, ended, late, may⟩
      (e.answer id number caller code result) := by
  subst hcaller
  have htell : Act ⟨none, none, number :: ended, late, may⟩ e ⟨none, none, ended, late, may⟩
      (e.tell number ping.caller code result) := .tell rfl hping hseq
  unfold Engine.answer
  simp only []
  split
  · split
    · next halive =>
      refine .cons htell (Acts.ping (htell.sound hs) (fun pinger hp => ?_) _ _)
      simpa [Engine.isAlive, hp] using halive
    · exact .one htell
  · exact .one htell

end Acts

/-! ## 3. One call -/

theorem Sound.callOf?_of_mem {hand : Hand} (hs : Sound hand e) {call : Call}
    (hcall : call ∈ e.callsOf id) :
    ∃ pinger, e.callOf? id call.token call.timer = some (pinger, call) := by
  cases hp : e.pingers[id]? with
  | none => simp [Engine.callsOf, hp] at hcall
  | some pinger =>
    rw [Engine.callsOf_eq hp] at hcall
    have htokens : (pinger.calls.map Call.token).Nodup := by
      rw [← Engine.callsOf_eq hp]
      exact hs.ledger.tokens id
    have hfound : pinger.call? call.token = some call := by
      obtain ⟨other, hother⟩ : ∃ other, pinger.call? call.token = some other := by
        refine Option.isSome_iff_exists.1 (List.find?_isSome.2 ⟨call, hcall, by simp⟩)
      rw [hother]
      have htoken := Pinger.token_of_call? hother
      exact congrArg some
        (List.inj_on_of_nodup_map htokens (Pinger.mem_of_call? hother) hcall htoken)
    exact ⟨pinger, by simp only [Engine.callOf?, hp, hfound, if_true]⟩

/-- What the ledger knows of a call. -/
theorem Sound.ping?_of_call? {hand : Hand} (hs : Sound hand e) (hp : e.pingers[id]? = some pinger)
    {token : Token} {call : Call} (hcall : pinger.call? token = some call) :
    ∃ ping, e.ping? call.timer = some ping ∧ call.Records id ping :=
  hs.ledger.entered id call (by rw [Engine.callsOf_eq hp]; exact Pinger.mem_of_call? hcall)

namespace Acts

/-- **Ending a call is done by acts.**  If it was its timer, that timer is late no more. -/
theorem complete {token : Token} {timer : TimerId} (hs : Sound ⟨none, none, ended, late, may⟩ e)
    (hl : late = none ∨ late = some (.call id token timer)) (code : ErrorCode) :
    Acts ⟨none, none, ended, late, may⟩ e ⟨none, none, ended, none, may⟩
      (e.complete id token timer code) := by
  unfold Engine.complete
  split
  · next hnone =>
    rcases hl with rfl | rfl
    · exact .nil _ _
    · refine .one (.punctual rfl fun other call hcall heq => ?_)
      injection heq with hid htoken htimer
      subst hid htoken htimer
      obtain ⟨pinger, hfound⟩ := hs.callOf?_of_mem hcall
      rw [hnone] at hfound
      cases hfound
  · next pinger call hfound =>
    obtain ⟨hp, hcall, htimer⟩ := Engine.callOf?_eq_some hfound
    obtain ⟨ping, hping, hrecords⟩ := hs.ping?_of_call? hp hcall
    simp only [Engine.updatePinger_const hp fun pinger => pinger.without token]
    -- the call is taken, its timer is no longer late, and is not set any more
    have htake : Act ⟨none, none, ended, late, may⟩ e ⟨none, none, call.timer :: ended, late, may⟩
        (e.updatePinger id fun pinger => pinger.without token) := .take hp hcall
    have hs₁ := htake.sound hs
    have hpunctual : Acts ⟨none, none, call.timer :: ended, late, may⟩
        (e.updatePinger id fun pinger => pinger.without token)
        ⟨none, none, call.timer :: ended, none, may⟩
        (e.updatePinger id fun pinger => pinger.without token) := by
      rcases hl with rfl | rfl
      · exact .nil _ _
      · refine .one (.punctual rfl fun other call' hcall' heq => ?_)
        injection heq with _ _ htimer'
        exact hs₁.timer_ne (List.mem_cons_self) other call' hcall' (by rw [← htimer', htimer])
    have hdisarm : Act ⟨none, none, call.timer :: ended, none, may⟩
        (e.updatePinger id fun pinger => pinger.without token)
        ⟨none, none, call.timer :: ended, none, may⟩
        ((e.updatePinger id fun pinger => pinger.without token).cancelAlarm
          (.call id token timer)) :=
      .disarm id token (by rw [htimer]; exact List.mem_cons_self)
    have hgiveUp : ∀ (e : Engine) (idle : Bool), Acts ⟨none, none, call.timer :: ended, none, may⟩ e
        ⟨none, none, call.timer :: ended, none, may⟩
        (if idle then e.cancelSocket (pinger.without token).socket else e) := by
      intro e idle
      cases idle with
      | true => exact .one (.endReceive _ _ _)
      | false => exact .nil _ _
    have hrow := ((Acts.cons htake hpunctual).trans (.one hdisarm)).trans
      (hgiveUp _ ((pinger.without token).calls.isEmpty && (pinger.without token).receiving
        && !(pinger.without token).isMultiplexed))
    refine hrow.trans (answer (hrow.sound hs) ((hrow.steady hs).ping? _ _ hping) hrecords.caller id
      code ?_)
    rw [hrecords.token, Pinger.token_of_call? hcall]

/-- **The end of a send is dealt with by acts.** -/
theorem callSent (hs : Sound ⟨none, none, ended, none, may⟩ e) (id : PingerId) (token : Token)
    (timer : TimerId) (code : ErrorCode) :
    Acts ⟨none, none, ended, none, may⟩ e ⟨none, none, ended, none, may⟩
      (e.callSent id token timer code) := by
  unfold Engine.callSent
  split
  · exact .one (.sent _ _ _ _ _)
  · have hlog : ∀ next : Engine, Aside e next →
        Acts ⟨none, none, ended, none, may⟩ e ⟨none, none, ended, none, may⟩
          (next.complete id token timer code) := fun next haside =>
      (Acts.aside haside).trans (complete (hs.aside haside) (.inl rfl) code)
    simp only []
    refine hlog _ ?_
    split
    · split
      · exact .refl e
      · exact .logAbout _ _ _
    · exact .refl e

/-! ## 4. All calls -/

/-- The callers of calls in the hand are told one after another. -/
theorem failEach (id : PingerId) (code : ErrorCode) :
    ∀ (calls : List Call) (e : Engine), Sound ⟨none, none, calls.map Call.timer, none, may⟩ e →
      (∀ call ∈ calls, ∃ ping, e.ping? call.timer = some ping ∧ call.Records id ping) →
      Acts ⟨none, none, calls.map Call.timer, none, may⟩ e ⟨none, none, [], none, may⟩
        (calls.foldl (Engine.failCall id code) e)
  | [], e, _, _ => .nil _ _
  | call :: calls, e, hs, hknown => by
    obtain ⟨ping, hping, hrecords⟩ := hknown call List.mem_cons_self
    have hdisarm : Act ⟨none, none, (call :: calls).map Call.timer, none, may⟩ e
        ⟨none, none, (call :: calls).map Call.timer, none, may⟩
        (e.cancelAlarm (.call id call.token call.timer)) := .disarm _ _ List.mem_cons_self
    have hsequence : ({ sequence := call.token.sequence } : PingResult).sequence
        = ping.token.sequence := by rw [hrecords.token]
    have hanswer := answer (hdisarm.sound hs) ((hdisarm.steady hs).ping? _ _ hping)
      hrecords.caller id code hsequence
    have hrow := Acts.cons hdisarm hanswer
    refine hrow.trans (failEach id code calls _ (hrow.sound hs) fun other hother => ?_)
    obtain ⟨ping, hping, hrecords⟩ := hknown other (List.mem_cons_of_mem _ hother)
    exact ⟨ping, (hrow.steady hs).ping? _ _ hping, hrecords⟩

/-- **A receive that failed for good ends every call, by acts.** -/
theorem failCalls {pinger' : Pinger} (hs : Sound ⟨none, some (.pinger id), [], none, may⟩ e)
    (hp : e.pingers[id]? = some pinger') (hg : pinger'.gone = false)
    (hcalls : pinger'.calls = pinger.calls) (code : ErrorCode) :
    Acts ⟨none, some (.pinger id), [], none, may⟩ e ⟨none, none, [], none, may⟩
      (e.failCalls id pinger code) := by
  let cleared := e.updatePinger id fun pinger => { pinger with calls := [] }
  have htake : Act ⟨none, some (.pinger id), [], none, may⟩ e
      ⟨none, some (.pinger id), pinger.calls.map Call.timer, none, may⟩ cleared := by
    have h : Act ⟨none, some (.pinger id), [], none, may⟩ e
        ⟨none, some (.pinger id), pinger'.calls.map Call.timer ++ [], none, may⟩ cleared :=
      .takeAll hp hg
    rwa [List.append_nil, hcalls] at h
  have hp' : cleared.pingers[id]? = some { pinger' with calls := [] } := by
    rw [Engine.pingers_updatePinger hp, if_pos rfl]
  have hsettle : Act ⟨none, some (.pinger id), pinger.calls.map Call.timer, none, may⟩ cleared
      ⟨none, none, pinger.calls.map Call.timer, none, may⟩ cleared :=
    .settle rfl (Engine.settled_pinger hp' fun h => absurd rfl h)
  have hrest : ∀ next, Aside cleared next →
      Acts ⟨none, some (.pinger id), [], none, may⟩ e ⟨none, none, [], none, may⟩
        (pinger.calls.foldl (Engine.failCall id code) next) := by
    intro next haside
    have hrow := (Acts.cons htake (.one hsettle)).trans (.aside haside)
    refine hrow.trans (failEach id code _ _ (hrow.sound hs) fun call hcall => ?_)
    obtain ⟨ping, hping, hrecords⟩ := hs.ledger.entered id call
      (by rwa [Engine.callsOf_eq hp, hcalls])
    exact ⟨ping, (hrow.steady hs).ping? _ _ hping, hrecords⟩
  unfold Engine.failCalls
  refine hrest _ ?_
  split
  · exact .refl _
  · exact .logAbout _ _ _

end Acts

/-! ## 5. What was received -/

/-- **Which call a datagram answers**: the one that has the token of the reply, if the reply comes
from the destination. -/
theorem Engine.matched?_eq_some_iff {decoded : Decoded} {call : Call} {reply : EchoReply} :
    Engine.matched? pinger decoded = some (call, reply) ↔
      decoded = .reply reply ∧ reply.source = pinger.destination ∧
        pinger.call? { identifier := reply.identifier, sequence := reply.sequence } = some call := by
  unfold Engine.matched?
  constructor
  · intro h
    split at h
    · next other =>
      split at h
      · next found hfound =>
        split at h
        · next hanswers =>
          obtain ⟨rfl, rfl⟩ := Prod.mk.inj (Option.some.inj h)
          have hanswers := of_decide_eq_true hanswers
          exact ⟨rfl, hanswers.1, hfound⟩
        · cases h
      · cases h
    · cases h
  · rintro ⟨rfl, hsource, hcall⟩
    have htoken := Pinger.token_of_call? hcall
    simp [hcall, EchoReply.answers, hsource, htoken]

namespace Acts

/-- **Ending a call with its reply is done by acts.** -/
theorem succeed (hs : Sound ⟨none, some (.pinger id), [], none, may⟩ e)
    (hp : e.pingers[id]? = some pinger) (hg : pinger.gone = false) {call : Call}
    {reply : EchoReply}
    (hcall : pinger.call? { identifier := reply.identifier, sequence := reply.sequence }
      = some call) (received : Time) :
    Acts ⟨none, some (.pinger id), [], none, may⟩ e ⟨none, none, [], none, may⟩
      (e.succeed id call reply received) := by
  have htoken := Pinger.token_of_call? hcall
  rw [← htoken] at hcall
  obtain ⟨ping, hping, hrecords⟩ := hs.ping?_of_call? hp hcall
  have htake : Act ⟨none, some (.pinger id), [], none, may⟩ e
      ⟨none, some (.pinger id), [call.timer], none, may⟩
      (e.updatePinger id fun pinger => pinger.without call.token) := .take hp hcall
  obtain ⟨pinger', hp', hfollows⟩ := (htake.steady hs).pingers id _ hp
  have hstart := startReceive (htake.sound hs) (.inr rfl) hp' (hfollows.gone.trans hg)
  have hdisarm : Act ⟨none, none, [call.timer], none, may⟩
      ((e.updatePinger id fun pinger => pinger.without call.token).startReceive id)
      ⟨none, none, [call.timer], none, may⟩
      (((e.updatePinger id fun pinger => pinger.without call.token).startReceive
        id).cancelAlarm (.call id call.token call.timer)) :=
    .disarm id call.token List.mem_cons_self
  have hrow := (Acts.cons htake hstart).trans (.one hdisarm)
  refine hrow.trans (answer (hrow.sound hs) ((hrow.steady hs).ping? _ _ hping) hrecords.caller
    id .success ?_)
  rw [hrecords.token, htoken]

/-- **A datagram is taken by acts.** -/
theorem pingerDatagram (hs : Sound ⟨none, some (.pinger id), [], none, may⟩ e)
    (hp : e.pingers[id]? = some { pinger with receiving := false }) (hg : pinger.gone = false)
    (received : Time) (source : Address) (data : Bytes) :
    Acts ⟨none, some (.pinger id), [], none, may⟩ e ⟨none, none, [], none, may⟩
      (e.pingerDatagram id pinger received source data) := by
  have hlog := Aside.logMalformed (e := e) source (decode pinger.destination.family data source)
  have hs' := hs.aside hlog
  rw [← hlog.pingers] at hp
  unfold Engine.pingerDatagram
  refine (Acts.aside hlog).trans ?_
  simp only []
  split
  · exact startReceive hs' (.inr rfl) hp hg
  · next call reply hfound =>
    exact succeed hs' hp hg (Engine.matched?_eq_some_iff.1 hfound).2.2 received

/-- **The end of a pinger's receive is dealt with by acts.** -/
theorem pingerReceived (hs : Sound ⟨some (.pinger id), none, [], none, may⟩ e) (code : ErrorCode)
    (received : Time) (source : Address) (data : Bytes) :
    Acts ⟨some (.pinger id), none, [], none, may⟩ e ⟨none, none, [], none, may⟩
      (e.pingerReceived id code received source data) := by
  unfold Engine.pingerReceived
  split
  · next hnone => exact .one (.rest rfl (by simp [Engine.listens?, hnone]))
  · next pinger hp =>
    split
    · next hgone => exact .one (.rest rfl (by simp [Engine.listens?, hp, hgone]))
    · next hgone =>
      have hg : pinger.gone = false := by simpa using hgone
      have hflag : pinger.receiving = true := by
        have hcount := hs.counted.exact (.pinger id) pinger.receiving
          (by simp [Engine.listens?, hp, hg])
        by_contra hno
        simp [hno] at hcount
      let heard := e.updatePinger id fun pinger => { pinger with receiving := false }
      have hclear : Act ⟨some (.pinger id), none, [], none, may⟩ e
          ⟨none, some (.pinger id), [], none, may⟩ heard :=
        .pinger hp hg ⟨rfl, rfl, rfl, rfl, rfl⟩ (.inl rfl) (by rw [hflag]; exact .clears)
      have hp' : heard.pingers[id]? = some { pinger with receiving := false } := by
        rw [Engine.pingers_updatePinger hp, if_pos rfl]
      have hs' := hclear.sound hs
      refine .cons hclear ?_
      simp only []
      split
      · exact pingerDatagram hs' hp' hg _ _ _
      · split
        · exact startReceive hs' (.inr rfl) hp' hg
        · exact failCalls hs' hp' hg rfl code

end Acts

end IcmpEcho
