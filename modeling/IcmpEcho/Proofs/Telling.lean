/-
# Who is told by which task

Whoever is told how a ping ended is told while a task is performed, and the task decides who that
can be (`Engine.Tells`):

* a task about one call, its timer or the end of its send, tells the caller of that call and nobody
  else, and only while the call is pending (`Task.call?`, `Engine.verdict`);
* a refusal tells the caller whom it refuses;
* a datagram tells the caller whose call it answers;
* a receive that failed tells the callers of the pinger that listened, with the reason.

**Nobody is told in any other way** (`Engine.perform_tells`), and nothing but tasks tells anybody
(`Session.Does.tells`).  While a task is performed the clock stands still, so each is told at the
time at which the task began.
-/
import IcmpEcho.Proofs.Matching
import IcmpEcho.Proofs.Uninvolved

namespace IcmpEcho

variable {e e' : Engine} {id : PingerId} {pinger : Pinger} {call : Call}

namespace Engine

/-! ## 1. The clock stands still -/

/-- What no step of a fold changes the fold does not change. -/
theorem foldl_eq {α β : Type} {f : Engine → α → Engine} {g : Engine → β}
    (hf : ∀ e a, g (f e a) = g e) (l : List α) (e : Engine) : g (l.foldl f e) = g e :=
  List.foldlRecOn (motive := fun next => g next = g e) l f rfl
    fun next h a _ => (hf next a).trans h

@[simp] theorem now_cancelAlarm (alarm : Alarm) : (e.cancelAlarm alarm).now = e.now := by
  unfold cancelAlarm
  split <;> rfl

theorem now_setAlarm (alarm : Alarm) (wait : Time) : (e.setAlarm alarm wait).now = e.now :=
  now_cancelAlarm alarm

theorem now_log (severity : Severity) (message : String) :
    (e.log severity message).now = e.now := by
  unfold log
  split
  · rfl
  · dsimp only
    split <;> rfl

theorem now_logDated (severity : Severity) (message : String) :
    (e.logDated severity message).now = e.now := by
  unfold logDated
  split
  · rfl
  · exact now_log _ _

@[simp] theorem now_logAbout (address : Address) (severity : Severity) (message : String) :
    (e.logAbout address severity message).now = e.now := by
  unfold logAbout
  split
  · rfl
  · exact now_logDated _ _

@[simp] theorem now_logMalformed (source : Address) (decoded : Decoded) :
    (e.logMalformed source decoded).now = e.now := by
  unfold logMalformed
  split
  · exact now_logAbout _ _ _
  · rfl

theorem now_scheduleAnswer (host : Host) (family : Family) (packet : Bytes) :
    (e.scheduleAnswer host family packet).now = e.now := by
  unfold scheduleAnswer
  split
  · rfl
  · refine foldl_eq (g := Engine.now) ?_ _ _
    intro e datagram
    rfl

theorem now_completeSend (client : SendClient) (code : ErrorCode) (count : Nat) :
    (e.completeSend client code count).now = e.now := by
  unfold completeSend
  split <;> rfl

theorem now_transmit (socket : SocketId) (packet : Bytes) (destination : Address)
    (client : SendClient) : (e.transmit socket packet destination client).now = e.now := by
  unfold transmit
  dsimp only
  split
  · exact now_completeSend _ _ _
  · split
    · exact now_completeSend _ _ _
    · exact (now_completeSend _ _ _).trans (now_scheduleAnswer _ _ _)

theorem now_launch (socket : SocketId) (packet : Bytes) (destination : Address)
    (client : SendClient) : (e.launch socket packet destination client).now = e.now := by
  unfold launch
  dsimp only
  split
  · rfl
  · exact now_transmit _ _ _ _

theorem now_submit (socket : SocketId) (packet : Bytes) (destination : Address)
    (client : SendClient) : (e.submit socket packet destination client).now = e.now := by
  unfold submit
  split
  · rfl
  · split
    · rfl
    · split
      · rfl
      · dsimp only
        split
        · rfl
        · exact now_setAlarm _ _
        · exact now_launch _ _ _ _

theorem now_receive (socket : SocketId) (client : ReceiveClient) (room : Nat) :
    (e.receive socket client room).now = e.now := by
  unfold receive
  split
  · rfl
  · split
    · rfl
    · split <;> rfl

@[simp] theorem now_endReceive (socket : SocketId) (code : ErrorCode) :
    (e.endReceive socket code).now = e.now := by
  unfold endReceive
  split <;> rfl

theorem now_askMail (box : MailboxId) (reader : Reader) : (e.askMail box reader).now = e.now := by
  unfold askMail
  split
  · rfl
  · dsimp only
    split <;> rfl

@[simp] theorem now_startReceive (id : PingerId) : (e.startReceive id).now = e.now := by
  unfold startReceive
  split
  · rfl
  · split
    · rfl
    · dsimp only
      split
      · exact now_askMail _ _
      · exact now_receive _ _ _

theorem now_ping (id : PingerId) (sequence : UInt16) (caller : Caller) :
    (e.ping id sequence caller).now = e.now := by
  unfold ping
  split
  · rfl
  · dsimp only
    split
    · rfl
    · split
      · rfl
      · exact (now_submit _ _ _ _).trans (now_startReceive _)

theorem now_stopService : e.stopService.now = e.now := by
  unfold stopService stop cancelSignal
  dsimp only
  split <;> exact now_cancelAlarm _

theorem now_targetAnswered (index : Nat) (code : ErrorCode) (result : PingResult) :
    (e.targetAnswered index code result).now = e.now := by
  unfold targetAnswered finishIfIdle
  split
  · rfl
  · split
    · rfl
    · split
      · exact now_stopService
      · rfl

theorem now_tell (number : PingId) (caller : Caller) (code : ErrorCode) (result : PingResult) :
    (e.tell number caller code result).now = e.now := by
  cases caller with
  | scripted tag again => rfl
  | target index => exact now_targetAnswered _ _ _

@[simp] theorem now_answer (id : PingerId) (number : PingId) (caller : Caller) (code : ErrorCode)
    (result : PingResult) : (e.answer id number caller code result).now = e.now := by
  unfold answer
  dsimp only
  split
  · split
    · exact (now_ping _ _ _).trans (now_tell _ _ _ _)
    · exact now_tell _ _ _ _
  · exact now_tell _ _ _ _

end Engine

/-! ## 2. What can be told -/

/-- What the caller of a call is told when it ends without a reply. -/
def Call.ended (call : Call) (now : Time) (code : ErrorCode) : Ending :=
  { ping := call.timer, time := now, code, result := { sequence := call.token.sequence } }

/-- What the caller of a call is told when a reply came. -/
def Call.answered (call : Call) (now : Time) (reply : EchoReply) (received : Time) : Ending :=
  { ping := call.timer, time := now, code := .success,
    result :=
      { sequence := reply.sequence, reply := some reply,
        roundTrip := Engine.roundTrip call received } }

/-- The call that a task is about: its timer has rung, or its send has ended. -/
def Task.call? : Task → Option (PingerId × Token × TimerId)
  | .rang (.call id token timer) _ => some (id, token, timer)
  | .sent (.call id token timer) _ _ => some (id, token, timer)
  | .turnedAway (.datagram _ _ _ (.call id token timer)) => some (id, token, timer)
  | _ => none

/-- The code with which a task about a call ends it, if it does.  A timer that was cancelled and a
send that succeeded end nothing. -/
def Task.verdict? : Task → Option ErrorCode
  | .rang _ code => if code = .aborted then none else some PingFault.timeout.code
  | .sent _ code _ => if code.isError then some code else none
  | .turnedAway _ => some .aborted
  | _ => none

/-- The pinger whose receive has failed with a task, and why. -/
def Task.failure? : Task → Option (PingerId × ErrorCode)
  | .received _ (.pinger id) code _ _ => if code.isError then some (id, code) else none
  | .noReceive (.pinger id) code => some (id, code)
  | .mail (.pinger id) code _ => if code.isError then some (id, code) else none
  | _ => none

namespace Engine

/-- What is told when a call is ended with a code, if it has not ended before. -/
def verdict (e : Engine) (id : PingerId) (token : Token) (timer : TimerId) (code : ErrorCode) :
    List Ending :=
  match e.callOf? id token timer with
  | none => []
  | some (_, call) => [call.ended e.now code]

/-- **What a task can tell.** -/
inductive Tells (e : Engine) (task : Task) : Ending → Prop
  /-- The task is about a call that is pending, and ends it. -/
  | ended {id : PingerId} {token : Token} {timer : TimerId} {code : ErrorCode} {pinger : Pinger}
    {call : Call} (about : task.call? = some (id, token, timer))
    (verdict : task.verdict? = some code)
    (pending : e.callOf? id token timer = some (pinger, call)) :
    Tells e task (call.ended e.now code)
  /-- The task refuses a ping. -/
  | refused {id : PingerId} {number : PingId} {caller : Caller} {code : ErrorCode}
    {sequence : UInt16} (refusal : task = .noPing id number caller code sequence) :
    Tells e task { ping := number, time := e.now, code, result := { sequence } }
  /-- The task brings a datagram that answers a call. -/
  | answered {id : PingerId} {pinger : Pinger} {source : Address} {data : Bytes} {call : Call}
    {reply : EchoReply} (listens : e.pingers[id]? = some pinger)
    (datagram : task.datagram? id pinger = some (source, data))
    (answers : pinger.Answered source data call reply) :
    Tells e task (call.answered e.now reply (task.receivedAt e.now))
  /-- The task brings the failure of a receive, which ends a call of the pinger that listened. -/
  | failed {id : PingerId} {pinger : Pinger} {code : ErrorCode} {call : Call}
    (listens : e.pingers[id]? = some pinger) (failure : task.failure? = some (id, code))
    (pending : call ∈ pinger.calls) : Tells e task (call.ended e.now code)

theorem callOf?_congr (h : e'.pingers = e.pingers) (id : PingerId) (token : Token)
    (timer : TimerId) : e'.callOf? id token timer = e.callOf? id token timer := by
  unfold callOf?
  rw [h]

/-- What a task can tell shows in the pingers and on the clock. -/
theorem Tells.congr {task : Task} {ending : Ending} (h : e'.Tells task ending)
    (hpingers : e'.pingers = e.pingers) (hnow : e'.now = e.now) : e.Tells task ending := by
  cases h with
  | ended about verdict pending =>
    rw [hnow]
    exact .ended about verdict ((callOf?_congr hpingers _ _ _).symm.trans pending)
  | refused refusal =>
    rw [hnow]
    exact .refused refusal
  | answered listens datagram answers =>
    rw [hnow]
    exact .answered (hpingers ▸ listens) datagram answers
  | failed listens failure pending =>
    rw [hnow]
    exact .failed (hpingers ▸ listens) failure pending

/-! ## 3. How pings end -/

theorem endings_cancelAlarm (alarm : Alarm) : (e.cancelAlarm alarm).endings = e.endings := by
  unfold cancelAlarm
  split <;> rfl

theorem endings_answer (id : PingerId) (number : PingId) (caller : Caller) (code : ErrorCode)
    (result : PingResult) :
    (e.answer id number caller code result).endings
      = { ping := number, time := e.now, code, result } :: e.endings := by
  have htold := (tell_spec (e := e) number caller code result).1
  unfold answer
  dsimp only
  split
  · split
    · exact (Quiet.ping id _ _).endings.trans htold
    · exact htold
  · exact htold

theorem endings_complete (id : PingerId) (token : Token) (timer : TimerId) (code : ErrorCode) :
    (e.complete id token timer code).endings = e.verdict id token timer code ++ e.endings := by
  unfold complete verdict
  cases hfound : e.callOf? id token timer with
  | none => exact (List.nil_append _).symm
  | some found =>
    obtain ⟨pinger, call⟩ := found
    obtain ⟨-, hcall, -⟩ := callOf?_eq_some hfound
    have htaken : SameCalls ((e.updatePinger id fun _ => pinger.without token).cancelAlarm
        (.call id token timer)) _ := .endReceive (pinger.without token).socket .aborted
    have hcancelled : ((e.updatePinger id fun _ => pinger.without token).cancelAlarm
        (.call id token timer)).endings = e.endings := endings_cancelAlarm _
    dsimp only
    rw [endings_answer, List.singleton_append, Call.ended, Pinger.token_of_call? hcall]
    split
    · rw [cancelSocket, now_endReceive, now_cancelAlarm, htaken.endings, hcancelled]
      rfl
    · rw [now_cancelAlarm, hcancelled]
      rfl

theorem endings_refreshSent (id : PingerId) (token : Token) (timer : TimerId) :
    (e.refreshSent id token timer).endings = e.endings := by
  unfold refreshSent
  split <;> rfl

/-- When a send has ended its call is noted to have left or, if the send failed, is ended. -/
theorem callSent_cases (id : PingerId) (token : Token) (timer : TimerId) (code : ErrorCode) :
    (code.isError = false ∧ e.callSent id token timer code = e.refreshSent id token timer) ∨
      (code.isError ∧ ∃ next : Engine, Aside e next ∧ next.now = e.now ∧
        e.callSent id token timer code = next.complete id token timer code) := by
  unfold callSent
  split
  · next hok => exact .inl ⟨by simpa using hok, rfl⟩
  · next herror =>
    refine .inr ⟨by simpa using herror, ?_⟩
    dsimp only
    split
    · split
      · exact ⟨e, .refl e, rfl, rfl⟩
      · exact ⟨_, .logAbout _ _ _, now_logAbout _ _ _, rfl⟩
    · exact ⟨e, .refl e, rfl, rfl⟩

theorem endings_callSent (id : PingerId) (token : Token) (timer : TimerId) (code : ErrorCode) :
    (e.callSent id token timer code).endings
      = (if code.isError then e.verdict id token timer code else []) ++ e.endings := by
  rcases callSent_cases (e := e) id token timer code with
    ⟨hok, hsent⟩ | ⟨herror, next, haside, hnow, hsent⟩
  · rw [hsent, endings_refreshSent, hok]
    rfl
  · rw [hsent, endings_complete, haside.endings, verdict, verdict, callOf?_congr haside.pingers,
      hnow, if_pos herror]

theorem endings_failEach (id : PingerId) (code : ErrorCode) (calls : List Call) :
    ∀ e : Engine, (calls.foldl (failCall id code) e).endings
      = (calls.map fun call => call.ended e.now code).reverse ++ e.endings := by
  induction calls with
  | nil => exact fun _ => rfl
  | cons call calls ih =>
    intro e
    have hfirst : (failCall id code e call).endings = call.ended e.now code :: e.endings := by
      rw [failCall, endings_answer, now_cancelAlarm, endings_cancelAlarm]
      rfl
    have hnow : (failCall id code e call).now = e.now := by
      rw [failCall, now_answer, now_cancelAlarm]
    rw [List.foldl_cons, ih, hfirst, hnow, List.map_cons, List.reverse_cons, List.append_assoc,
      List.singleton_append]

/-- **When a receive failed**, the callers of all calls are told why. -/
theorem endings_failCalls (id : PingerId) (pinger : Pinger) (code : ErrorCode) :
    (e.failCalls id pinger code).endings
      = (pinger.calls.map fun call => call.ended e.now code).reverse ++ e.endings := by
  unfold failCalls
  dsimp only
  rw [endings_failEach]
  split
  · rfl
  · rw [now_logAbout, (Aside.logAbout _ _ _).endings]
    rfl

/-- **When a datagram has come**, the caller whose call it answers is told. -/
theorem endings_pingerDatagram (id : PingerId) (pinger : Pinger) (received : Time)
    (source : Address) (data : Bytes) :
    (e.pingerDatagram id pinger received source data).endings
      = (match matched? pinger (decode pinger.destination.family data source) with
          | none => []
          | some (call, reply) => [call.answered e.now reply received]) ++ e.endings := by
  have hlog : Aside e (e.logMalformed source (decode pinger.destination.family data source)) :=
    .logMalformed _ _
  unfold pingerDatagram
  dsimp only
  cases matched? pinger (decode pinger.destination.family data source) with
  | none =>
    dsimp only
    rw [List.nil_append, (SameCalls.startReceive id).endings]
    exact hlog.endings
  | some found =>
    obtain ⟨call, reply⟩ := found
    have hnow : (e.logMalformed source (decode pinger.destination.family data source)).now
        = e.now := now_logMalformed _ _
    unfold succeed
    dsimp only
    rw [List.singleton_append, endings_answer, now_cancelAlarm, now_startReceive,
      endings_cancelAlarm, (SameCalls.startReceive id).endings]
    exact congrArg₂ List.cons (congrArg (call.answered · reply received) hnow) hlog.endings

/-! ## 4. Tasks -/

/-- Whatever was told on the way from one engine to another satisfies `P`. -/
def Adds (P : Ending → Prop) (e e' : Engine) : Prop :=
  ∃ fresh, e'.endings = fresh ++ e.endings ∧ ∀ ending ∈ fresh, P ending

theorem Adds.of_same {P : Ending → Prop} (h : e'.endings = e.endings) : Adds P e e' :=
  ⟨[], h, fun _ hmem => nomatch hmem⟩

theorem pingers_failSocket (socket : SocketId) (code : ErrorCode) :
    (e.failSocket socket code).pingers = e.pingers := by
  unfold failSocket
  split
  · rfl
  · exact (Aside.logDated _ _).pingers

theorem now_failSocket (socket : SocketId) (code : ErrorCode) :
    (e.failSocket socket code).now = e.now := by
  unfold failSocket
  split
  · rfl
  · exact now_logDated _ _

/-- **A failed receive** tells callers of the pinger that listened. -/
theorem Adds.failure {task : Task} {code : ErrorCode} (hcode : code.isError)
    (hfailure : task.failure? = some (id, code)) {next : Engine}
    (hpingers : next.pingers = e.pingers) (hnow : next.now = e.now)
    (hendings : next.endings = e.endings) (received : Time) (source : Address) (data : Bytes) :
    Adds (e.Tells task) e (next.pingerReceived id code received source data) := by
  unfold pingerReceived
  split
  · exact .of_same hendings
  · next pinger hp =>
    rw [hpingers] at hp
    split
    · exact .of_same hendings
    · dsimp only
      split
      · next hok => simp [hcode] at hok
      · split
        · exact .of_same ((SameCalls.startReceive id).endings.trans hendings)
        · refine ⟨(pinger.calls.map fun call => call.ended e.now code).reverse, ?_, ?_⟩
          · rw [endings_failCalls, ← hendings, ← hnow]
            rfl
          · intro ending hending
            obtain ⟨call, hcall, rfl⟩ := List.mem_map.1 (List.mem_reverse.1 hending)
            exact .failed hp hfailure hcall

/-- **A datagram** tells the caller whose call it answers. -/
theorem Adds.datagram {task : Task} {code : ErrorCode} (hcode : code.isError = false)
    {source : Address} {data : Bytes} (hdatagram : ∀ pinger, e.pingers[id]? = some pinger →
      task.datagram? id pinger = some (source, data)) :
    Adds (e.Tells task) e (e.pingerReceived id code (task.receivedAt e.now) source data) := by
  unfold pingerReceived
  split
  · exact .of_same rfl
  · next pinger hp =>
    split
    · exact .of_same rfl
    · dsimp only
      split
      · refine ⟨_, endings_pingerDatagram _ _ _ _ _, ?_⟩
        intro ending hending
        split at hending
        · cases hending
        · next call reply hmatch =>
          obtain rfl := List.mem_singleton.1 hending
          obtain ⟨hdecoded, hsource, hpending⟩ := matched?_eq_some_iff.1 hmatch
          exact .answered hp (hdatagram pinger hp) ⟨hdecoded, hsource, hpending⟩
      · next herror => simp [hcode] at herror

/-- Whoever is told by a verdict is told by the task that passes it. -/
theorem Tells.of_verdict {task : Task} {token : Token} {timer : TimerId} {code : ErrorCode}
    {ending : Ending} (habout : task.call? = some (id, token, timer))
    (hverdict : task.verdict? = some code) (hending : ending ∈ e.verdict id token timer code) :
    e.Tells task ending := by
  unfold verdict at hending
  split at hending
  · cases hending
  · next hpending =>
    obtain rfl := List.mem_singleton.1 hending
    exact .ended habout hverdict hpending

/-- **The end of a call's send** tells its caller, if it failed. -/
theorem Adds.callSent {task : Task} {token : Token} {timer : TimerId} {code : ErrorCode}
    (habout : task.call? = some (id, token, timer))
    (hverdict : code.isError → task.verdict? = some code) :
    Adds (e.Tells task) e (e.callSent id token timer code) := by
  refine ⟨_, endings_callSent _ _ _ _, ?_⟩
  intro ending hending
  split at hending
  · next herror => exact .of_verdict habout (hverdict herror) hending
  · cases hending

theorem endings_pingTarget (sequence : UInt16) (index : Nat) :
    (pingTarget sequence e index).endings = e.endings := by
  unfold pingTarget
  split
  · rfl
  · next target htarget => exact (Quiet.ping target.pinger _ _).endings

/-- **Beginning a round** tells nobody. -/
theorem endings_startRound : e.startRound.endings = e.endings := by
  unfold startRound
  split
  · rfl
  · split
    · rfl
    · next service hservice hstopped =>
      have hpinged := foldl_eq (g := Engine.endings)
        (fun e index => endings_pingTarget (e := e) service.round.toUInt16 index)
        (List.range service.targets.size) e
      dsimp only
      split
      · exact hpinged
      · exact (Aside.setAlarm rfl).endings.trans hpinged

theorem endings_happen (item : Happening) : (e.happen item).endings = e.endings := by
  cases item with
  | ring alarm => rfl
  | ready task => rfl
  | deliver source data => exact (SameCalls.deliver source data).endings
  | signal number =>
    unfold happen
    dsimp only
    split <;> rfl

/-- A timer that rang tells nobody but the call whose time is up. -/
theorem rang_tells (alarm : Alarm) (code : ErrorCode) :
    Adds (e.Tells (.rang alarm code)) e (e.perform (.rang alarm code)) := by
  unfold perform rang
  dsimp only
  split
  · exact .of_same rfl
  · next hcode =>
    cases alarm with
    | call id token timer =>
      refine ⟨_, endings_complete _ _ _ _, ?_⟩
      intro ending hending
      exact .of_verdict rfl (if_neg hcode) hending
    | limiter limiter => exact .of_same (Aside.wakeLimiter limiter).endings
    | round => exact .of_same endings_startRound

/-- A receive that failed is told to everybody who waits for its pinger. -/
theorem receiveEnded_tells {socket : SocketId} {client : ReceiveClient} {code : ErrorCode}
    (herror : code.isError) (source : Address) (data : Bytes) {next : Engine}
    (hpingers : next.pingers = e.pingers) (hnow : next.now = e.now)
    (hendings : next.endings = e.endings) :
    Adds (e.Tells (.received socket client code source data)) e
      (next.receiveEnded client code .any []) := by
  cases client with
  | raw tag => exact .of_same hendings
  | pinger id =>
    have hfailure : Task.failure? (.received socket (.pinger id) code source data)
        = some (id, code) := if_pos herror
    exact .failure herror hfailure hpingers hnow hendings _ _ _
  | hub id => exact .of_same ((SameCalls.hubReceived _ _ _ _).endings.trans hendings)

/-- A datagram is told to the call that it answers. -/
theorem received_tells (socket : SocketId) (client : ReceiveClient) (code : ErrorCode)
    (source : Address) (data : Bytes) :
    Adds (e.Tells (.received socket client code source data)) e
      (e.perform (.received socket client code source data)) := by
  unfold perform socketReceived
  dsimp only
  split
  · next hok =>
    have hok : code.isError = false := by simpa using hok
    cases client with
    | raw tag => exact .of_same rfl
    | pinger id => exact .datagram hok fun pinger _ => if_pos ⟨rfl, hok⟩
    | hub id => exact .of_same (SameCalls.hubReceived id code source data).endings
  · next herror =>
    have herror : code.isError := by simpa using herror
    split
    · exact receiveEnded_tells herror source data rfl rfl rfl
    · exact receiveEnded_tells herror source data (pingers_failSocket _ _) (now_failSocket _ _)
        (SameCalls.failSocket _ _).endings

/-- A letter is told to the call that it answers, and the end of a mailbox to all calls. -/
theorem mail_tells (reader : Reader) (code : ErrorCode) (letter : Letter) :
    Adds (e.Tells (.mail reader code letter)) e (e.perform (.mail reader code letter)) := by
  cases reader with
  | labelled box label again =>
    exact .of_same (SameCalls.answerReader box label again code letter).endings
  | pinger id =>
    unfold perform mailArrived
    dsimp only
    split
    · exact .of_same rfl
    · next pinger hp =>
      by_cases hcode : code.isError
      · have hfailure : Task.failure? (.mail (.pinger id) code letter) = some (id, code) :=
          if_pos hcode
        exact .failure hcode hfailure rfl rfl rfl _ _ _
      · have hok : code.isError = false := by simpa using hcode
        have hdatagram : ∀ other, e.pingers[id]? = some other →
            Task.datagram? id other (.mail (.pinger id) code letter)
              = some (pinger.destination, letter.packet) := by
          intro other hother
          obtain rfl := Option.some.inj (hp.symm.trans hother)
          exact if_pos ⟨rfl, hok⟩
        exact .datagram hok hdatagram

/-- **Nobody else is told by a task.** -/
theorem perform_tells {task : Task} (hproper : e.Proper task) :
    Adds (e.Tells task) e (e.perform task) := by
  cases task with
  | rang alarm code => exact rang_tells alarm code
  | turnedAway sender =>
    cases sender with
    | datagram socket packet destination client =>
      cases client with
      | raw tag => exact .of_same rfl
      | call id token timer => exact .callSent rfl fun _ => rfl
    | labelled limiter label again =>
      exact .of_same (Aside.answerLabelled limiter label again .aborted).endings
  | sent client code count =>
    cases client with
    | raw tag => exact .of_same rfl
    | call id token timer => exact .callSent rfl fun herror => if_pos herror
  | received socket client code source data => exact received_tells socket client code source data
  | noReceive client code =>
    cases client with
    | raw tag => exact .of_same rfl
    | pinger id => exact .failure hproper.1 rfl rfl rfl rfl _ _ _
    | hub id => exact .of_same (SameCalls.hubReceived id code .any []).endings
  | mail reader code letter => exact mail_tells reader code letter
  | noPing id number caller code sequence =>
    refine ⟨[_], endings_answer id number caller code _, ?_⟩
    intro ending hending
    obtain rfl := List.mem_singleton.1 hending
    exact .refused rfl
  | signalled code number => exact .of_same (Aside.signalled code number).endings

end Engine

namespace Session

open Engine

variable {s s' : Session}

/-! ## 5. Whatever happens -/

theorem endings_usePinger (s : Session) (name : String) {act : Engine → PingerId → Engine}
    (hact : ∀ e id, (act e id).endings = e.endings) :
    (s.use name fun engine handle =>
      match handle with
      | .pinger id => act engine id
      | _ => engine).engine.endings = s.engine.endings := by
  unfold use
  split
  · rfl
  · next handle hhandle =>
    cases handle with
    | pinger id => exact hact _ _
    | _ => rfl

/-- **Asking for pings tells nobody.** -/
theorem endings_step (s : Session) {step : Step} (hrun : ∀ duration, step ≠ .run duration) :
    (s.perform step).1.engine.endings = s.engine.endings := by
  cases hpings : step.pings with
  | false => exact (perform_sameCalls s hrun hpings).endings
  | true =>
    cases step with
    | ping name sequence tag again =>
      exact endings_usePinger s name fun e id =>
        (Quiet.ping id sequence (.scripted tag again)).endings
    | burst name sequence count =>
      refine endings_usePinger s name ?_
      intro e id
      exact foldl_eq (g := Engine.endings) (fun e i => (Quiet.ping id _ _).endings) _ _
    | _ => cases hpings

/-- **Only tasks tell anybody**, and only whom they can tell. -/
theorem Does.tells {deed : Deed} (h : Does s deed s') (hs : s.Sound) :
    Adds (fun ending => ∃ task, deed = .task task ∧ s.engine.Tells task ending) s.engine
      s'.engine := by
  cases h with
  | step step hrun => exact .of_same (endings_step s hrun)
  | @task front back task hready =>
    have hproper : s.engine.Proper task := hs.engine.wired.tasks task (by rw [hready]; simp)
    obtain ⟨fresh, hfresh, htold⟩ :=
      @perform_tells { s.engine with ready := front ++ back } task hproper
    refine ⟨fresh, SameCalls.sweep.endings.trans hfresh, ?_⟩
    intro ending hending
    exact ⟨task, rfl, (htold ending hending).congr rfl rfl⟩
  | item hitem => exact .of_same (SameCalls.sweep.endings.trans (endings_happen _))
  | clock now => exact .of_same rfl
  | network network => exact .of_same rfl
  | openService config => exact .of_same (SameCalls.openService config).endings
  | startService => exact .of_same (endings_startRound.trans (Aside.logDated _ _).endings)
  | endService => exact .of_same Aside.endService.endings

end Session

end IcmpEcho
