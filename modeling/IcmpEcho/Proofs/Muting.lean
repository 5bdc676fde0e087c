/-
# Sends on a socket that has failed

A pinger whose socket has failed goes on submitting the requests of its calls there, and each of
them ends at once with the reason of the failure.  So sends of the pinger that end otherwise, or are
held by a limiter, can only be from before the failure: their number (`Engine.late`) does not grow,
whatever happens (`Session.Does.mutes`), and if there are none there never are any.  There are none
for a pinger that is yet to come (`Session.Reachable.sends_eq_zero`).
-/
import IcmpEcho.Proofs.SocketLife
import IcmpEcho.Proofs.Telling

namespace IcmpEcho

variable {e e' e'' : Engine} {id : PingerId} {pinger : Pinger} {record : RawSocket}

/-- The client is a call of the pinger. -/
def SendClient.isOf (id : PingerId) : SendClient → Bool
  | .call other _ _ => other = id
  | .raw _ => false

namespace Engine

/-- The sends of a pinger that are held, or are to end. -/
def sends (e : Engine) (id : PingerId) : Nat :=
  e.held (SendClient.isOf id) + e.due (SendClient.isOf id) fun _ => true

/-- The sends of a pinger that are held, or are to end with another code. -/
def late (e : Engine) (id : PingerId) (code : ErrorCode) : Nat :=
  e.held (SendClient.isOf id) + e.due (SendClient.isOf id) (· ≠ code)

/-- Every code is the one or another. -/
theorem due_true (q : SendClient → Bool) (code : ErrorCode) :
    e.due q (fun _ => true) = e.due q (· = code) + e.due q (· ≠ code) := by
  have hsplit : ∀ {α : Type} (ends : (ErrorCode → Bool) → α → Bool) (l : List α)
      (_ : ∀ a, (ends (fun _ => true) a).toNat
        = (ends (· = code) a).toNat + (ends (· ≠ code) a).toNat),
      l.countP (ends fun _ => true) = l.countP (ends (· = code)) + l.countP (ends (· ≠ code)) := by
    intro α ends l hone
    induction l with
    | nil => rfl
    | cons a l ih =>
      have hone := hone a
      simp only [List.countP_cons, ih]
      revert hone
      cases ends (fun _ => true) a <;> cases ends (· = code) a <;> cases ends (· ≠ code) a <;> simp <;>
        omega
  have htask : ∀ task : Task, (task.ends q fun _ => true).toNat
      = (task.ends q (· = code)).toNat + (task.ends q (· ≠ code)).toNat := by
    have hcode : ∀ (is : Bool) (other : ErrorCode), (is && true).toNat
        = (is && decide (other = code)).toNat + (is && decide (other ≠ code)).toNat := by
      intro is other
      by_cases h : other = code <;> cases is <;> simp [h]
    intro task
    cases task with
    | sent client other count => exact hcode (q client) other
    | turnedAway sender => exact hcode (sender.isOf q) .aborted
    | _ => rfl
  have hready := hsplit (fun p task => task.ends q p) e.ready htask
  have htimeline := hsplit (fun p (entry : Time × Happening) => entry.2.ends q p) e.timeline
    fun entry => by
      obtain ⟨time, item⟩ := entry
      cases item with
      | ready task => exact htask task
      | _ => rfl
  have hsum := congrArg₂ (· + ·) hready htimeline
  simp only [due]
  exact hsum.trans (Nat.add_add_add_comm _ _ _ _)

theorem late_le_sends (e : Engine) (id : PingerId) (code : ErrorCode) :
    e.late id code ≤ e.sends id := by
  have hsplit := e.due_true (SendClient.isOf id) code
  simp only [late, sends]
  omega

theorem pingers_closeSocket (k : SocketId) : (e.closeSocket k).pingers = e.pingers := by
  unfold closeSocket
  split
  · rfl
  · refine ((Inward.endReceive _ _).pingers.trans (Aside.cancelLimiter _).pingers).trans ?_
    split <;> rfl

theorem pingers_struck (task : Task) : (e.struck task).pingers = e.pingers := by
  cases task with
  | received k client code source data =>
    simp only [struck]
    split
    · exact pingers_failSocket _ _
    · rfl
  | _ => rfl

end Engine

/-! ## 1. The relation -/

/-- `e'` comes from `e`: failed sockets stay as they failed and pingers keep their sockets; a pinger
that is yet to come has sent nothing anew, and one whose socket has failed nothing that is late. -/
structure Mutes (e e' : Engine) : Prop where
  fatal : ∀ (k : SocketId) (record : RawSocket), e.sockets[k]? = some record →
    record.fatal.isError → ∃ record', e'.sockets[k]? = some record' ∧ record'.fatal = record.fatal
  owners : ∀ (id : PingerId) (pinger : Pinger), e.pingers[id]? = some pinger →
    ∃ pinger', e'.pingers[id]? = some pinger' ∧ pinger'.socket = pinger.socket
  strangers : ∀ id : PingerId, e'.pingers[id]? = none → e'.sends id ≤ e.sends id
  late : ∀ (id : PingerId) (pinger : Pinger) (record : RawSocket), e.pingers[id]? = some pinger →
    e.sockets[pinger.socket]? = some record → record.fatal.isError →
    e'.late id record.fatal ≤ e.late id record.fatal

namespace Mutes

/-- What is submitted ends with the code. -/
theorem late_le {clients : List SendClient} {code : ErrorCode}
    (total : e'.sends id ≤ e.sends id + clients.countP (SendClient.isOf id))
    (due : e.due (SendClient.isOf id) (· = code) + clients.countP (SendClient.isOf id)
      ≤ e'.due (SendClient.isOf id) (· = code)) : e'.late id code ≤ e.late id code := by
  have hbefore := e.due_true (SendClient.isOf id) code
  have hafter := e'.due_true (SendClient.isOf id) code
  simp only [Engine.late, Engine.sends] at total ⊢
  omega

theorem refl (e : Engine) : Mutes e e :=
  ⟨fun _ record hr _ => ⟨record, hr, rfl⟩, fun _ pinger hp => ⟨pinger, hp, rfl⟩,
    fun _ _ => Nat.le_refl _, fun _ _ _ _ _ _ => Nat.le_refl _⟩

theorem trans (h : Mutes e e') (h' : Mutes e' e'') : Mutes e e'' where
  fatal k record hrecord hf := by
    obtain ⟨record', hrecord', hfatal⟩ := h.fatal k record hrecord hf
    obtain ⟨record'', hrecord'', hfatal'⟩ := h'.fatal k record' hrecord' (hfatal ▸ hf)
    exact ⟨record'', hrecord'', hfatal'.trans hfatal⟩
  owners id pinger hp := by
    obtain ⟨pinger', hp', hsocket⟩ := h.owners id pinger hp
    obtain ⟨pinger'', hp'', hsocket'⟩ := h'.owners id pinger' hp'
    exact ⟨pinger'', hp'', hsocket'.trans hsocket⟩
  strangers id hnone := by
    refine Nat.le_trans (h'.strangers id hnone) (h.strangers id ?_)
    cases hp : e'.pingers[id]? with
    | none => rfl
    | some pinger =>
      obtain ⟨pinger'', hp'', -⟩ := h'.owners id pinger hp
      rw [hnone] at hp''
      cases hp''
  late id pinger record hp hrecord hf := by
    obtain ⟨pinger', hp', hsocket⟩ := h.owners id pinger hp
    obtain ⟨record', hrecord', hfatal⟩ := h.fatal _ record hrecord hf
    have hrest := h'.late id pinger' record' hp' (hsocket ▸ hrecord') (hfatal ▸ hf)
    rw [hfatal] at hrest
    exact hrest.trans (h.late id pinger record hp hrecord hf)

/-- Nothing of any pinger is submitted, and nothing is told. -/
theorem of_conveys {wakes : SocketId → Prop} {fails : SocketId → ErrorCode → Prop}
    {told : List Event} {clients : List SendClient}
    (h : Conveys wakes fails (fun _ _ => 0) told clients e e')
    (hnone : ∀ id, clients.countP (SendClient.isOf id) = 0)
    (owners : ∀ (id : PingerId) (pinger : Pinger), e.pingers[id]? = some pinger →
      ∃ pinger', e'.pingers[id]? = some pinger' ∧ pinger'.socket = pinger.socket) : Mutes e e' where
  fatal k record hrecord hf := by
    obtain ⟨record', hrecord', hkeeps, -⟩ := h.sockets k record hrecord
    exact ⟨record', hrecord', hkeeps hf⟩
  owners := owners
  strangers id _ := by
    have htotal := h.total (SendClient.isOf id)
    rw [hnone] at htotal
    exact Nat.le_of_eq htotal
  late id pinger record hp hrecord hf := by
    refine late_le (Nat.le_of_eq (h.total _)) ?_
    rw [hnone]
    exact h.due _ _

theorem of_ferries {clients : List SendClient} (h : Ferries clients e e')
    (hnone : ∀ id, clients.countP (SendClient.isOf id) = 0)
    (owners : ∀ (id : PingerId) (pinger : Pinger), e.pingers[id]? = some pinger →
      ∃ pinger', e'.pingers[id]? = some pinger' ∧ pinger'.socket = pinger.socket) : Mutes e e' := by
  have hconveys : Conveys (fun _ => False) (fun _ _ => False) (fun _ _ => 0) [] clients e e' :=
    .of_ferries h
  exact of_conveys hconveys hnone owners

theorem of_beside (h : Beside e e') (hm : e.Metered) : Mutes e e' :=
  of_ferries (.of_beside h hm) (fun _ => rfl) h.owners

/-- Tasks may be taken. -/
theorem of_taken {ready : List Task} (h : ready.Sublist e.ready) :
    Mutes e { e with ready } where
  fatal _ record hr _ := ⟨record, hr, rfl⟩
  owners _ pinger hp := ⟨pinger, hp, rfl⟩
  strangers _ _ := Nat.add_le_add_left (Nat.add_le_add_right h.countP_le _) _
  late _ _ _ _ _ _ := Nat.add_le_add_left (Nat.add_le_add_right h.countP_le _) _

/-- **The request of a call ends at once**, if the socket of its pinger has failed. -/
theorem submit (hm : e.Metered) (hp : e.pingers[id]? = some pinger) (token : Token) (timer : TimerId)
    (packet : Bytes) (destination : Address) :
    Mutes e (e.submit pinger.socket packet destination (.call id token timer)) := by
  let client : SendClient := .call id token timer
  obtain ⟨clients, hall, hferries⟩ :=
    Ferries.submit_any hm pinger.socket packet destination client
  have hpingers : (e.submit pinger.socket packet destination client).pingers = e.pingers :=
    (Aside.submit _ _ _ _).pingers
  have hnone : ∀ other, other ≠ id → clients.countP (SendClient.isOf other) = 0 := by
    intro other hne
    refine List.countP_eq_zero.2 fun sender hsender => ?_
    rw [hall sender hsender]
    simpa [client, SendClient.isOf] using Ne.symm hne
  refine ⟨fun k record hrecord hf => ?_, fun other pinger' hp' => ⟨pinger', by rwa [hpingers], rfl⟩,
    fun other hother => ?_, fun other pinger' record hp' hrecord hf => ?_⟩
  · obtain ⟨record', hrecord', hages⟩ := hferries.sockets k record hrecord
    exact ⟨record', hrecord', hages.fatal hf⟩
  · have hne : other ≠ id := by
      rintro rfl
      rw [hpingers, hp] at hother
      cases hother
    have htotal := hferries.total (SendClient.isOf other)
    rw [hnone other hne] at htotal
    exact Nat.le_of_eq htotal
  · by_cases heq : other = id
    · subst heq
      obtain rfl := Option.some.inj (hp.symm.trans hp')
      have hsubmit : e.submit pinger.socket packet destination client
          = e.post (.sent client record.fatal 0) := by
        simp only [Engine.submit, hrecord, hf, if_true]
      have hends := Ends.post (e := e) pinger.socket client record.fatal 0
      have hself : client.isOf other = true := by simp [client, SendClient.isOf]
      rw [hsubmit]
      simp only [Engine.late, hends.held, hends.due, hself, Bool.true_and]
      simp
    · refine late_le (Nat.le_of_eq (hferries.total _)) ?_
      rw [hnone other heq]
      exact hferries.due _ _

/-- **No row makes a send late.** -/
theorem hauls (h : Engine.Hauls e e') (hm : e.Metered) : Mutes e e' := by
  let R : Engine → Engine → Prop := fun e e' => e.Metered → Mutes e e' ∧ e'.Metered
  have hrow : R e e' := by
    refine h.lift (R := R) (fun _ hm => ⟨refl _, hm⟩) (fun h h' hm => ?_) (fun {e e'} h hm => ?_)
    · obtain ⟨hfirst, hmid⟩ := h hm
      obtain ⟨hrest, hlast⟩ := h' hmid
      exact ⟨hfirst.trans hrest, hlast⟩
    · obtain ⟨clients, -, hferries⟩ := Ferries.hauls (.one h) hm
      refine ⟨?_, hferries.metered⟩
      cases h with
      | beside h => exact of_beside h hm
      | submit hp token timer packet destination =>
        exact submit hm hp token timer packet destination
      | closeSocket k =>
        refine of_ferries (.closeSocket hm k) (fun _ => rfl) fun id pinger hp => ⟨pinger, ?_, rfl⟩
        rwa [Engine.pingers_closeSocket]
      | openSocket settings =>
        refine of_ferries (.openSocket hm settings) (fun _ => rfl) fun id pinger hp => ?_
        obtain ⟨record, slot, -, -, -, -, hbeside, -⟩ := Engine.openSocket_beside _ settings
        exact hbeside.owners id pinger hp
  exact (hrow hm).1

end Mutes

/-! ## 2. Deeds -/

namespace Session

variable {s s' : Session} {deed : Deed}

/-- Whatever is asked of the session from outside makes no send late. -/
theorem Stocked.mutes_step (hm : s.Stocked) (hs : s.Sound) {step : Step}
    (hrun : ∀ duration, step ≠ .run duration) : Mutes s.engine (s.perform step).1.engine := by
  have hmetered := hm.metered
  by_cases hraw : step.isRaw = false
  · exact .hauls (.outers (hs.perform_outers hrun hraw)) hmetered
  · cases step with
    | send name destination data tag =>
      have hengine : (s.perform (.send name destination data tag)).1.engine = _ :=
        engine_useSocket fun e k => e.submit k data destination (.raw tag)
      rw [hengine]
      split
      · next k hhandle =>
        obtain ⟨clients, hall, hferries⟩ :=
          Ferries.submit_any hmetered k data destination (.raw tag)
        refine .of_ferries hferries (fun other => ?_) fun other pinger' hp' =>
          ⟨pinger', by rwa [(Aside.submit _ _ _ _).pingers], rfl⟩
        refine List.countP_eq_zero.2 fun client hclient => ?_
        rw [hall client hclient]
        simp [SendClient.isOf]
      · exact .refl _
    | receive name room tag =>
      have hengine : (s.perform (.receive name room tag)).1.engine = _ :=
        engine_useSocket fun e k => e.receive k (.raw tag) room
      rw [hengine]
      split
      · exact .of_beside (.receive _ _ _) hmetered
      · exact .refl _
    | _ => exact absurd rfl hraw

/-- A task makes no send late: one that stands apart conveys, another strikes a socket first. -/
theorem Stocked.mutes_task (hm : s.Stocked) (hs : s.Sound) {front back : List Task} {task : Task}
    (h : s.engine.ready = front ++ task :: back) :
    Mutes s.engine ({ s.engine with ready := front ++ back }.perform task).sweep := by
  let rest : Engine := { s.engine with ready := front ++ back }
  obtain ⟨hrest, hplain⟩ : rest.Metered ∧ task.isPlain := hm.metered.taken h
  refine (Mutes.of_taken (sublist_of_taken h)).trans ?_
  cases hapart : task.isApart with
  | true =>
    have hperform : Conveys (fun _ => True) (fun _ _ => True) (fun _ _ => 0) (task.tells rest.now)
        [] rest (rest.perform task) := .perform_apart hrest hapart hplain (by simp) (by simp)
    have hperformed : Mutes rest (rest.perform task) :=
      .of_conveys hperform (fun _ => rfl) fun other pinger hp => by
        obtain ⟨pinger', hp', hfollows⟩ := (hs.engine.perform h).2.pingers other pinger hp
        exact ⟨pinger', hp', hfollows.socket⟩
    exact hperformed.trans (.hauls .sweep hperform.metered)
  | false =>
    have hstruck : Conveys (fun _ => True) (fun _ _ => True) (fun _ _ => 0) [] [] rest
        (rest.struck task) := .struck hrest (by simp)
    have hfirst : Mutes rest (rest.struck task) :=
      .of_conveys hstruck (fun _ => rfl) fun other pinger hp =>
        ⟨pinger, by rwa [Engine.pingers_struck], rfl⟩
    exact hfirst.trans (.hauls ((Engine.Hauls.perform hapart).trans .sweep) hstruck.metered)

/-- **Whatever happens makes no send late** of a pinger whose socket has failed. -/
theorem Does.mutes (h : Does s deed s') (hs : s.Sound) (hm : s.Stocked) :
    Mutes s.engine s'.engine := by
  have hmetered := hm.metered
  cases h with
  | step step hrun => exact hm.mutes_step hs hrun
  | task h => exact hm.mutes_task hs h
  | @item front back time item h =>
    have hhappened := Ferries.item hmetered h
    have hitem : Mutes s.engine ({ s.engine with timeline := front ++ back }.happen item) :=
      .of_ferries hhappened (fun _ => rfl) fun other pinger' hp' =>
        ⟨pinger', by rw [Engine.pingers_happen]; exact hp', rfl⟩
    exact hitem.trans (.hauls .sweep hhappened.metered)
  | clock now => exact .of_beside { Beside.refl s.engine with } hmetered
  | network network => exact .of_beside { Beside.refl s.engine with } hmetered
  | openService config =>
    exact .hauls (.outers (.openService hs.engine hs.remembers config)) hmetered
  | startService => exact .hauls .startService hmetered
  | endService => exact .hauls .endService hmetered

theorem Run.mutes {past : List (Session × Deed)} (h : Run s past s') (hs : s.Sound)
    (hm : s.Stocked) : Mutes s.engine s'.engine := by
  induction h with
  | nil s => exact .refl _
  | cons head rest ih =>
    exact (head.mutes hs hm).trans (ih (head.leads hs).sound (head.stocked hs hm))

/-- In every reachable session a pinger that is yet to come has sent nothing. -/
theorem Reachable.sends_eq_zero (hr : Reachable s) (hnone : s.engine.pingers[id]? = none) :
    s.engine.sends id = 0 := by
  obtain ⟨network, logLevel, logFile, files, signals, past, hrun⟩ := hr
  let start : Engine := { network, logLevel, logFile, files }
  have hsignals : Beside start (start.withSignals signals) :=
    List.foldlRecOn _ _ (.refl start) fun next h signal _ => h.trans (.schedule rfl)
  have hempty : (start.withSignals signals).sends id = 0 := by
    rw [Engine.sends, hsignals.held, hsignals.due]
    rfl
  have hmutes := hrun.mutes (sound_fresh network logLevel logFile files signals)
    (stocked_fresh network logLevel logFile files signals)
  exact Nat.le_zero.1 (hempty ▸ hmutes.strangers id hnone)

end Session

end IcmpEcho
