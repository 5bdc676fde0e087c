/-
# What the service has to show for itself

The service of a configuration is opened in a fresh session and begun.  Then it runs, in whatever
way tasks, timers, datagrams and failures come (`Session.Serving`), with its tasks in a queue
(`Session.Queued`).

**At any time its account is right** (`Balanced`): no counter has wrapped, each target was pinged
once in each round, and a line was written for each ping that ended.  The lines that tell of a reply
are as many as the target received, and the others tell of timeouts and errors (`Tallies`).

**The run ends when the service stops, and not before.**  If no signal comes it stops in one state
only: all rounds have begun and every ping has ended, so there are as many lines for a target as
there were rounds (`Finished`).  Once it has stopped, because it was done, because of a signal or
from outside, no round begins and no line is written any more (`Session.Over`).
-/
import IcmpEcho.Proofs.Lines
import IcmpEcho.Proofs.RoundTrips
import IcmpEcho.Proofs.ServiceRuns

namespace IcmpEcho

variable {e : Engine} {service service' : Service} {config : Config} {begun count : Nat}

/-! ## 1. The service is opened -/

/-- A service that has begun no round. -/
structure Service.Unused (config : Config) (count : Nat) (service : Service) : Prop where
  config : service.config = config
  size : service.targets.size = count
  round : service.round = 0
  outstanding : service.outstanding = 0
  stopped : service.stopped = false
  targets : ∀ (index : Nat) (target : Target), service.targets[index]? = some target →
    target.transmitted = 0 ∧ target.received = 0

namespace Service.Unused

theorem hubFor (h : Unused config count service) (family : Family) {hub : HubId}
    (hok : (e.hubFor service family).2 = .ok (service', hub)) : Unused config count service' := by
  unfold Engine.hubFor at hok
  dsimp only at hok
  split at hok
  · obtain ⟨rfl, -⟩ := Prod.mk.inj (Except.ok.inj hok)
    exact h
  · split at hok
    · cases hok
    · split at hok
      · cases hok
      · obtain ⟨rfl, -⟩ := Prod.mk.inj (Except.ok.inj hok)
        cases family <;> exact ⟨h.config, h.size, h.round, h.outstanding, h.stopped, h.targets⟩

theorem pingerFor (h : Unused config count service) (address : Address) {id : PingerId}
    (hok : (e.pingerFor service address).2 = .ok (service', id)) : Unused config count service' := by
  unfold Engine.pingerFor at hok
  split at hok
  · split at hok
    · cases hok
    · next hhub =>
      have hhub' := h.hubFor address.family (congrArg Prod.snd hhub)
      split at hok
      · cases hok
      · obtain ⟨rfl, -⟩ := Prod.mk.inj (Except.ok.inj hok)
        exact hhub'
  · split at hok
    · cases hok
    · split at hok
      · cases hok
      · obtain ⟨rfl, -⟩ := Prod.mk.inj (Except.ok.inj hok)
        exact h

theorem addTarget (h : Unused config count service) (name : String)
    (hok : (e.addTarget service name).2 = .ok service') : Unused config (count + 1) service' := by
  unfold Engine.addTarget at hok
  split at hok
  · cases hok
  · next address _ =>
    split at hok
    · cases hok
    · next hpinger =>
      have hfor := h.pingerFor address (congrArg Prod.snd hpinger)
      obtain rfl := Except.ok.inj hok
      refine ⟨hfor.config, by rw [Array.size_push, hfor.size], hfor.round, hfor.outstanding,
        hfor.stopped, fun index target htarget => ?_⟩
      rw [Array.getElem?_push] at htarget
      split at htarget
      · obtain rfl := Option.some.inj htarget
        exact ⟨rfl, rfl⟩
      · exact hfor.targets index target htarget

theorem addTargets : ∀ (names : List String) {e : Engine} {count : Nat} {service : Service},
    Unused config count service → (e.addTargets service names).2 = .ok service' →
      Unused config (count + names.length) service'
  | [], _, _, _, h, hok => by
    obtain rfl := Except.ok.inj hok
    exact h
  | name :: names, e, count, service, h, hok => by
    unfold Engine.addTargets at hok
    split at hok
    · cases hok
    · next hadded =>
      have hfirst := h.addTarget name (congrArg Prod.snd hadded)
      have hrest := addTargets names hfirst hok
      rwa [List.length_cons, Nat.add_comm names.length, ← Nat.add_assoc]

end Service.Unused

/-- **A service that was opened has begun no round**, and has a target for each name. -/
theorem Engine.openService_unused (hok : (e.openService config).2 = .ok ()) :
    ∃ service, (e.openService config).1.service = some service ∧
      service.Unused config config.targets.length ∧ 0 < config.targets.length := by
  unfold openService at hok ⊢
  dsimp only at hok ⊢
  split at hok
  · cases hok
  · next hsome =>
    rw [if_neg hsome]
    split at hok
    · cases hok
    · next service hadded =>
      have hfresh : Service.Unused config 0 { config } :=
        ⟨rfl, rfl, rfl, rfl, rfl, fun _ _ h => nomatch h⟩
      have hunused := hfresh.addTargets config.targets (congrArg Prod.snd hadded)
      rw [Nat.zero_add] at hunused
      refine ⟨service, rfl, hunused, List.length_pos_iff.2 fun hnil => hsome ?_⟩
      rw [hnil]
      rfl

/-- **Before the first round** there is nothing in the books, and nothing in the ledger. -/
theorem Books.of_unused (hs : Sound {} e) (hservice : e.service = some service)
    (hunused : service.Unused config count) (hpings : e.pings = []) (hnext : e.nextPing = 0)
    (hendings : e.endings = []) (houtput : e.output = []) : Books 0 service e where
  serves := hservice
  numbers := by rw [hpings, hnext]; rfl
  known ending hmem := by rw [hendings] at hmem; cases hmem
  owned ping hmem := by rw [hpings] at hmem; cases hmem
  entries index target htarget := by
    have hfound : (e.service.bind fun service => service.targets[index]?) = some target := by
      rw [hservice, Option.bind_some, htarget]
    obtain ⟨⟨pinger, hp, -⟩, -⟩ := hs.kept_of_target hfound
    obtain ⟨htransmitted, hreceived⟩ := hunused.targets index target htarget
    refine ⟨⟨pinger, hp⟩, ?_, ?_, ?_⟩
    · rw [Engine.askedBy, hpings, hunused.round]
      rfl
    · rw [Engine.askedBy, hpings, htransmitted]
      rfl
    · rw [Engine.repliesTo, hendings, hreceived]
      rfl
  outstanding := by rw [hunused.outstanding, hpings, hendings]; rfl
  output := by rw [houtput, hendings]; rfl
  rounds := by rw [hunused.round]; exact UInt32.zero_le

namespace Session

/-- Nothing has happened, and nothing is to come but signals. -/
structure Untouched (signals : List (Time × Int)) (e : Engine) : Prop where
  stopped : e.stopped = false
  ready : e.ready = []
  endings : e.endings = []
  pings : e.pings = []
  nextPing : e.nextPing = 0
  output : e.output = []
  timeline : ∀ entry ∈ e.timeline, (∃ number, entry.2 = .signal number) ∧ signals ≠ []

theorem untouched_fresh (network : Network) (logLevel : Int) (logFile : Option String)
    (files : List (String × String)) (signals : List (Time × Int)) :
    Untouched signals (fresh network logLevel logFile files signals).engine := by
  refine List.foldlRecOn (motive := Untouched signals) signals _
    ⟨rfl, rfl, rfl, rfl, rfl, rfl, fun _ h => nomatch h⟩ ?_
  rintro e he ⟨time, number⟩ hmem
  refine { he with timeline := fun entry hentry => ?_ }
  rcases Engine.mem_insertAt.1 hentry with rfl | hentry
  · exact ⟨⟨number, rfl⟩, List.ne_nil_of_mem hmem⟩
  · exact he.timeline entry hentry

theorem Untouched.armed {signals : List (Time × Int)} (h : Untouched signals e) :
    e.armed .round = 0 := by
  refine Engine.armed_eq_zero_iff.2 ⟨fun task hmem => ?_, fun entry hmem hring => ?_⟩
  · rw [h.ready] at hmem
    cases hmem
  · obtain ⟨⟨number, hnumber⟩, -⟩ := h.timeline entry hmem
    rw [hnumber] at hring
    cases hring

/-- **When the service has been opened and begun**, the first round has begun and the books agree
with the ledger. -/
theorem standing_of_begun {network : Network} {logLevel : Int} {logFile : Option String}
    {files : List (String × String)} {signals : List (Time × Int)} {signalled : Prop}
    {opened begun : Session} (hopened : Does (fresh network logLevel logFile files signals)
      (.openService config) opened) (hbegun : Does opened .startService begun)
    (hok : ((fresh network logLevel logFile files signals).engine.openService config).2 = .ok ())
    (hcount : config.count ≠ 0) (hmany : config.targets.length ≤ 32768) :
    0 < config.targets.length ∧ begun.Sound ∧ begun.engine.endings = [] ∧
      ∃ service, Standing (signals ≠ []) signalled config config.targets.length service
        begun.engine := by
  have hs := sound_fresh network logLevel logFile files signals
  have huntouched := untouched_fresh network logLevel logFile files signals
  have hs' := (hopened.leads hs).sound
  have hbegunSound := (hbegun.leads hs').sound
  generalize fresh network logLevel logFile files signals = s at *
  obtain ⟨service, hservice, hunused, hsome⟩ := Engine.openService_unused hok
  refine ⟨hsome, hbegunSound, ?_⟩
  cases hopened with
  | openService =>
    cases hbegun with
    | startService =>
      have hsound := hs'.engine
      have hoffstage : Offstage s.engine (s.engine.openService config).1 :=
        .outers (.openService hs.engine hs.remembers config)
      have hcalls : SameCalls s.engine (s.engine.openService config).1 := .openService config
      have hrefusals : (s.engine.openService config).1.refusals = s.engine.refusals :=
        countP_eq_of_filter_eq hcalls.ready fun task hrefusal => by simp [Task.isCall, hrefusal]
      generalize (s.engine.openService config).1 = e at *
      have hbooks : Books 0 service e := .of_unused hsound hservice hunused
        (hcalls.pings.trans huntouched.pings) (hcalls.nextPing.trans huntouched.nextPing) (hcalls.endings.trans huntouched.endings)
        (hoffstage.output.trans huntouched.output)
      have hwaits : Unbooked e { e with awaitsSignal := true } := { Unbooked.refl e with }
      let targets := (e.service.map fun service => service.targets.size).getD 0
      have hlogged := hwaits.trans (.of_inward (.logDated .warn
        ("pingmux service started with " ++ toString targets ++ " target(s)")))
      have hstarted := hoffstage.trans hlogged.toOffstage
      have hdue : Due (signals ≠ []) signalled service _ := {
        running := hstarted.stopped.trans huntouched.stopped
        going := hunused.stopped
        begun := by simp [Service.roundsBegun, hunused.round, hunused.config, hcount]
        unset := hstarted.armed.trans huntouched.armed
        rested := hlogged.refusals_eq.trans (hrefusals.trans (by rw [Engine.refusals, huntouched.ready]; rfl))
        planned := hstarted.planned fun entry hmem _ => .inr (huntouched.timeline entry hmem)
        cues := hstarted.cues fun task hmem => by rw [huntouched.ready] at hmem; cases hmem }
      have hquiet := hstarted.endings.trans huntouched.endings
      refine ⟨Engine.endings_startRound.trans hquiet, ?_⟩
      refine (hbooks.unbooked hlogged).standing_of_startRound hdue hunused.config hunused.size ?_
        hcount hsome hmany (.refl _) hbegunSound.engine
      rw [hquiet]
      exact Nat.zero_le _

/-- Whoever was told of a success was told of a reply. -/
theorem Run.replied {s s' : Session} {past : List (Session × Deed)} (h : Run s past s')
    (hs : s.Sound)
    (hbefore : ∀ ending ∈ s.engine.endings, ending.code.isError = false →
      ending.result.reply.isSome) :
    ∀ ending ∈ s'.engine.endings, ending.code.isError = false → ending.result.reply.isSome := by
  induction h with
  | nil => exact hbefore
  | @cons s next s' deed past head rest ih =>
    obtain ⟨fresh, hfresh, -⟩ := head.tells hs
    refine ih (head.leads hs).sound fun ending hending hok => ?_
    rw [hfresh] at hending
    rcases List.mem_append.1 hending with hnew | hold
    · obtain ⟨-, -, -, -, -, -, -, -, -, -, -, -, rfl⟩ := head.of_success hs hfresh hnew hok
      rfl
    · exact hbefore ending hold hok

end Session

/-! ## 2. The lines of a target -/

/-- How many lines of a kind were written for a target. -/
def Engine.linesFor (e : Engine) (index : Nat) (kind : LineKind) : Nat :=
  (e.endings.zip e.output).countP fun entry =>
    e.toldTo entry.1 = some index && LineKind.of? entry.2 = some kind

namespace Books

/-- **Each line is of the kind that its ending has.** -/
theorem kinds (hb : Books begun service e)
    (hreplied : ∀ ending ∈ e.endings, ending.code.isError = false → ending.result.reply.isSome) :
    e.output.map LineKind.of? = e.endings.map fun ending => some (LineKind.ofCode ending.code) := by
  have hkind : ∀ ending ∈ e.endings,
      (e.lineOf service ending).bind LineKind.of? = some (LineKind.ofCode ending.code) := by
    intro ending hmem
    have hwritten : e.lineOf service ending ∈ e.output.map some :=
      hb.output ▸ List.mem_map_of_mem hmem
    obtain ⟨line, -, hline⟩ := List.mem_map.1 hwritten
    obtain ⟨index, -, htarget⟩ := Option.bind_eq_some_iff.1 hline.symm
    obtain ⟨target, -, rfl⟩ := Option.map_eq_some_iff.1 htarget
    rw [← hline, Option.bind_some]
    exact target.kind_resultLine (hreplied ending hmem)
  calc e.output.map LineKind.of?
      = (e.output.map some).map fun line => line.bind LineKind.of? := by
        rw [List.map_map]
        rfl
    _ = e.endings.map fun ending => (e.lineOf service ending).bind LineKind.of? := by
        rw [hb.output, List.map_map]
        rfl
    _ = _ := List.map_congr_left hkind

/-- **The lines of a kind are the endings that are to be reported so.** -/
theorem linesFor_eq (hb : Books begun service e)
    (hreplied : ∀ ending ∈ e.endings, ending.code.isError = false → ending.result.reply.isSome)
    (index : Nat) (kind : LineKind) :
    e.linesFor index kind = e.endings.countP fun ending =>
      e.toldTo ending = some index && LineKind.ofCode ending.code = kind := by
  let reported : Ending × Option LineKind → Bool := fun entry =>
    e.toldTo entry.1 = some index && entry.2 = some kind
  calc e.linesFor index kind
      = (e.endings.zip (e.output.map LineKind.of?)).countP reported := by
        rw [List.zip_map_right, List.countP_map]
        rfl
    _ = (e.endings.map fun ending => (ending, some (LineKind.ofCode ending.code))).countP reported := by
        rw [hb.kinds hreplied, List.map_prod_left_eq_zip]
    _ = _ := by
        rw [List.countP_map]
        simp [reported, Function.comp_def]

end Books

/-! ## 3. The account -/

/-- The account of one target. -/
structure Tallies (round : UInt32) (e : Engine) (index : Nat) (target : Target) : Prop where
  transmitted : target.transmitted = round
  asked : e.askedBy index = round.toNat
  received : target.received.toNat = e.linesFor index .reply
  /-- Each reply has its line, and so has each other ending. -/
  replies : e.repliesTo index = e.linesFor index .reply
  failures : e.failuresOf index = e.linesFor index .timeout + e.linesFor index .error
  answers : e.answersTo index = e.repliesTo index + e.failuresOf index
  bounded : target.received.toNat + e.linesFor index .timeout + e.linesFor index .error
    ≤ target.transmitted.toNat

/-- **The account of the service.** -/
structure Balanced (config : Config) (service : Service) (e : Engine) : Prop where
  serves : e.service = some service
  configured : service.config = config
  size : service.targets.size = config.targets.length
  rounds : service.round ≤ config.count
  /-- The counter is the number of pings that have not ended; so it never falls below zero. -/
  outstanding : service.outstanding.toNat = e.pending.length
  pings : e.pings.length = e.endings.length + e.pending.length
  targets : ∀ (index : Nat) (target : Target), service.targets[index]? = some target →
    Tallies service.round e index target
  /-- No ping ended twice, and for each that ended there is its line, in the same order and of the
  kind that its code has. -/
  once : (e.endings.map Ending.ping).Nodup
  output : e.output.map some = e.endings.map (e.lineOf service)
  kinds : e.output.map LineKind.of? = e.endings.map fun ending => some (LineKind.ofCode ending.code)
  replied : ∀ ending ∈ e.endings, ending.code.isError = false → ending.result.reply.isSome

/-- **All is done**: every round has begun, every ping has ended, and each target has a line for
each round. -/
structure Finished (config : Config) (service : Service) (e : Engine) : Prop where
  rounds : service.round = config.count
  outstanding : service.outstanding = 0
  told : ∀ ping ∈ e.pings, e.told ping.number = 1
  targets : ∀ (index : Nat) (target : Target), service.targets[index]? = some target →
    target.transmitted = config.count ∧
      target.received.toNat + e.linesFor index .timeout + e.linesFor index .error
        = config.count.toNat

/-- An error is reported as a timeout or as another error. -/
theorem Engine.failuresOf_eq (e : Engine) (index : Nat) :
    e.failuresOf index
      = (e.endings.countP fun ending =>
          e.toldTo ending = some index && LineKind.ofCode ending.code = .timeout)
        + e.endings.countP fun ending =>
          e.toldTo ending = some index && LineKind.ofCode ending.code = .error := by
  unfold failuresOf
  induction e.endings with
  | nil => rfl
  | cons ending rest ih =>
    have hreply := @LineKind.ofCode_eq_reply_iff ending.code
    simp only [List.countP_cons, ih]
    cases hkind : LineKind.ofCode ending.code <;> by_cases h : e.toldTo ending = some index <;>
      simp_all <;> omega

namespace Books

theorem tallies (hb : Books 0 service e) (hs : Sound {} e)
    (hreplied : ∀ ending ∈ e.endings, ending.code.isError = false → ending.result.reply.isSome)
    {index : Nat} {target : Target} (htarget : service.targets[index]? = some target) :
    Tallies service.round e index target := by
  have hentry := hb.entries index target htarget
  have hasked : e.askedBy index = service.round.toNat := by simpa using hentry.asked
  have htransmitted : target.transmitted = service.round := by
    rw [hentry.transmitted, hasked, UInt32.ofNat_toNat]
  have hanswers := Engine.answersTo_eq (e := e) index
  have hle := hb.askedBy_eq hs index
  have hmax := service.round.toNat_lt
  have hreplies : e.repliesTo index = e.linesFor index .reply := by
    rw [hb.linesFor_eq hreplied]
    refine List.countP_congr fun ending _ => ?_
    simp [LineKind.ofCode_eq_reply_iff, and_comm]
  have hfailures : e.failuresOf index = e.linesFor index .timeout + e.linesFor index .error := by
    rw [hb.linesFor_eq hreplied, hb.linesFor_eq hreplied]
    exact e.failuresOf_eq index
  have hreceived : target.received.toNat = e.linesFor index .reply := by
    rw [hentry.received, hreplies]
    exact UInt32.toNat_ofNat_of_lt' (by rw [UInt32.size]; omega)
  refine ⟨htransmitted, hasked, hreceived, hreplies, hfailures, hanswers, ?_⟩
  rw [hreceived, htransmitted]
  omega

/-- **Books that agree with the ledger give a right account.** -/
theorem balanced (hb : Books 0 service e) (hs : Sound {} e) (hconfig : service.config = config)
    (hsize : service.targets.size = config.targets.length) (hfew : e.refusals ≤ service.targets.size)
    (hmany : config.targets.length ≤ 32768)
    (hreplied : ∀ ending ∈ e.endings, ending.code.isError = false → ending.result.reply.isSome) :
    Balanced config service e where
  serves := hb.serves
  configured := hconfig
  size := hsize
  rounds := hconfig ▸ hb.rounds
  outstanding := hb.outstanding_eq hs (by rw [hsize]; exact hmany) hfew
  pings := hb.length_pings hs
  targets _ _ htarget := hb.tallies hs hreplied htarget
  once := hb.nodup_endings hs
  output := hb.output
  kinds := hb.kinds hreplied
  replied := hreplied

/-- With the last round begun and no ping pending, all is done. -/
theorem finished (hb : Books 0 service e) (hs : Sound {} e) (hconfig : service.config = config)
    (hreplied : ∀ ending ∈ e.endings, ending.code.isError = false → ending.result.reply.isSome)
    (hbegun : service.roundsBegun) (hpending : e.pending = []) : Finished config service e := by
  have hround : service.round = config.count := by
    obtain ⟨-, hle⟩ := Bool.and_eq_true_iff.1 hbegun
    rw [← hconfig]
    exact UInt32.le_antisymm hb.rounds (of_decide_eq_true hle)
  refine ⟨hround, ?_, fun ping hmem => ?_, fun index target htarget => ?_⟩
  · have hout := hb.outstanding
    rw [hb.length_pings hs, hpending, List.length_nil, Nat.add_zero] at hout
    grind
  · have hfound := hb.ping?_eq_some.2 ⟨hmem, rfl⟩
    have honce := (hs.accounts hfound).once
    have htold : e.told ping.number ≠ 0 := fun hzero => by
      have hmem := Engine.mem_pending.2 ⟨hmem, hzero⟩
      rw [hpending] at hmem
      cases hmem
    omega
  · have htallies := hb.tallies hs hreplied htarget
    have hasked := hb.askedBy_eq hs index
    rw [hpending, List.countP_nil, htallies.asked, hround, htallies.answers, htallies.failures,
      htallies.replies, ← htallies.received] at hasked
    exact ⟨htallies.transmitted.trans hround, by omega⟩

end Books

namespace Session

/-- **It is over**: nothing runs, no round begins, nobody is told and no line is written any more,
whatever comes in. -/
def Over (s : Session) : Prop :=
  ∀ past s', Run s past s' → Serving past → s'.engine.step? none = none ∧
    s'.engine.service = s.engine.service ∧ s'.engine.pings = s.engine.pings ∧
    s'.engine.endings = s.engine.endings ∧ s'.engine.output = s.engine.output

theorem over_of_stopped {s : Session} (hstopped : s.engine.stopped = true) : s.Over := by
  intro past s' hrun hserving
  have hsame := hrun.unbooked hserving hstopped
  exact ⟨Engine.step?_of_stopped (hsame.stopped.trans hstopped) none, hsame.service, hsame.pings,
    hsame.endings, hsame.output⟩

/-! ## 4. All runs -/

/-- **The service accounts for every ping.**

A service with a number of rounds and up to 32768 targets was opened and begun, and has run in any
way with its tasks in a queue.  Its account is right.  The run ends when the service has stopped; if
no signal has come, then all is done.  When it has stopped, or is stopped from outside, it is over.
Signals come only if some were on their way, and the engine's own run is one of these runs. -/
theorem service_accounts_for_all {network : Network} {logLevel : Int} {logFile : Option String}
    {files : List (String × String)} {signals : List (Time × Int)} {opened begun s : Session}
    {past : List (Session × Deed)}
    (hopened : Does (fresh network logLevel logFile files signals) (.openService config) opened)
    (hok : ((fresh network logLevel logFile files signals).engine.openService config).2 = .ok ())
    (hbegun : Does opened .startService begun) (hrun : Run begun past s) (hserving : Serving past)
    (hqueued : Queued past) (hcount : config.count ≠ 0) (hmany : config.targets.length ≤ 32768) :
    ∃ service, Balanced config service s.engine ∧
      (s.engine.step? none = none ↔ s.engine.stopped = true) ∧
      (s.engine.stopped = true → ¬ Signalled past → Finished config service s.engine) ∧
      (s.engine.stopped = true → s.Over) ∧
      (Over { s with engine := s.engine.stopService } ∧
        Balanced config { service with stopped := true } s.engine.stopService ∧
        s.engine.stopService.output = s.engine.output) ∧
      (Signalled past → signals ≠ []) ∧
      ∃ past', Run s past' { s with engine := s.engine.run } ∧ Serving past' ∧ Queued past' := by
  obtain ⟨hsome, hbegunSound, hquiet, hbegins⟩ :=
    @standing_of_begun _ _ _ _ _ _ (Signalled past) _ _ hopened hbegun hok hcount hmany
  obtain ⟨⟨service, hst⟩, hcoming⟩ :=
    hrun.standing hbegunSound hserving hqueued hbegins (fun h => h) hcount hsome hmany
  have hs := (hrun.leads hbegunSound).sound.engine
  have hreplied := hrun.replied hbegunSound fun ending hmem => by rw [hquiet] at hmem; cases hmem
  have hhalts := Engine.halts_stopService hst.books.serves
  refine ⟨service, hst.books.balanced hs hst.config hst.size hst.few hmany hreplied,
    ⟨hst.stopped_of_done hs hmany, fun hstopped => Engine.step?_of_stopped hstopped none⟩, ?_,
    over_of_stopped, ⟨over_of_stopped hhalts.stopped, ?_, hhalts.output⟩, hcoming,
    serving_of_steps none Engine.manySteps s⟩
  · intro hstopped hunsignalled
    rcases hst.state with ⟨hu, -⟩ | ⟨-, hsignalled | ⟨hlast, hpending⟩⟩
    · rw [hu.running] at hstopped
      cases hstopped
    · exact absurd hsignalled hunsignalled
    · exact hst.books.finished hs hst.config hreplied hlast hpending
  · refine (hst.books.halts hhalts).balanced (hs.aside .stopService) hst.config hst.size ?_ hmany ?_
    · rw [hhalts.refusals]
      exact hst.few
    · rw [hhalts.endings]
      exact hreplied

/-- Two rounds for a target that is given twice: one of its pingers is told of replies, the other
one that its registration was closed. -/
theorem service_accounts_for_all_of_two :
    let address : Address := .ofOctets 10 0 0 1
    let network : Network :=
      { names := [("a", address)], hosts := [(address, { delay := 1000000, source := address })] }
    let config : Config := { targets := ["a", "a"], count := 2 }
    let opened : Session := { engine := ((fresh network 1 none [] []).engine.openService config).1 }
    let begun : Session := { engine := opened.engine.startService }
    let s : Session := { engine := begun.engine.run }
    s.engine.stopped = true ∧
      s.engine.output.map LineKind.of? = [some .reply, some .error, some .reply, some .error] ∧
      ∃ service, Balanced config service s.engine ∧ Finished config service s.engine := by
  intro address network config opened begun s
  have hok : ((fresh network 1 none [] []).engine.openService config).2 = .ok () := by
    decide +kernel
  have hopened : Does (fresh network 1 none [] []) (.openService config) opened := .openService config
  have hbegun : Does opened .startService begun := .startService
  obtain ⟨past, hrun, hserving, hqueued⟩ := serving_of_steps none Engine.manySteps begun
  have hstopped : s.engine.stopped = true := by decide +kernel
  obtain ⟨service, hbalanced, -, hfinished, -, -, hsignals, -⟩ :=
    service_accounts_for_all hopened hok hbegun hrun hserving hqueued (by decide) (by decide)
  exact ⟨hstopped, by decide +kernel, service, hbalanced,
    hfinished hstopped fun hsignalled => hsignals hsignalled rfl⟩

end Session

end IcmpEcho
