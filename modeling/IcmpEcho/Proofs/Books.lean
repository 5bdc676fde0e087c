/-
# The books of the service

The service counts: rounds it has begun, pings it has asked for and that have not ended, and for
each target what was sent and what was answered.  It writes a line for each ping that ends.  The
ledger of the engine knows every ping and every ending by itself.  **The two agree** (`Books`):

* every ping was asked for by a target, through the target's own pinger;
* each target was pinged once in each round, which is what it counts as transmitted, and counts as
  received what it was told that is no error;
* outstanding are the pings without the endings, in numbers of 32 bits;
* there is a line for each ending, and nothing else was written.

In the middle of a round the first targets are one ping ahead; `begun` is how many.

What the books are not about leaves them as they are (`Books.unbooked`).  They are kept when a ping
is asked for (`Books.pingTarget`), when one ends (`Books.tell`), and when the service stops.
-/
import IcmpEcho.Proofs.Endings
import IcmpEcho.Proofs.Reporting

namespace IcmpEcho

variable {e e' : Engine} {service : Service} {begun : Nat} {number : PingId} {ping : Ping}

/-! ## 1. What the ledger says of a target -/

/-- The target that asked for a ping. -/
def Ping.target? (ping : Ping) : Option Nat :=
  match ping.caller with
  | .target index => some index
  | .scripted _ _ => none

namespace Engine

/-- The target that was told. -/
def toldTo (e : Engine) (ending : Ending) : Option Nat := (e.ping? ending.ping).bind Ping.target?

/-- How many pings a target asked for. -/
def askedBy (e : Engine) (index : Nat) : Nat := e.pings.countP fun ping => ping.target? = some index

/-- How many replies a target was told of. -/
def repliesTo (e : Engine) (index : Nat) : Nat :=
  e.endings.countP fun ending => !ending.code.isError && e.toldTo ending = some index

/-- How often a target was told that no reply came. -/
def failuresOf (e : Engine) (index : Nat) : Nat :=
  e.endings.countP fun ending => ending.code.isError && e.toldTo ending = some index

/-- The line that is written for an ending. -/
def lineOf (e : Engine) (service : Service) (ending : Ending) : Option String :=
  (e.toldTo ending).bind fun index =>
    service.targets[index]?.map fun target => target.resultLine ending.code ending.result

/-- The pings have the numbers from zero on, the latest first. -/
def Numbered (e : Engine) : Prop := e.pings.map Ping.number = (List.range e.nextPing).reverse

namespace Numbered

theorem nodup (h : e.Numbered) : (e.pings.map Ping.number).Nodup := by
  rw [h]
  exact List.nodup_reverse.2 List.nodup_range

theorem number_lt (h : e.Numbered) (hmem : ping ∈ e.pings) : ping.number < e.nextPing := by
  have hnumber : ping.number ∈ (List.range e.nextPing).reverse := h ▸ List.mem_map_of_mem hmem
  simpa using hnumber

theorem exists_ping (h : e.Numbered) (hlt : number < e.nextPing) :
    ∃ ping ∈ e.pings, ping.number = number := by
  rw [← List.mem_map, h]
  simpa using hlt

/-- Pings are found by their numbers. -/
theorem ping?_eq_some (h : e.Numbered) :
    e.ping? number = some ping ↔ ping ∈ e.pings ∧ ping.number = number := by
  constructor
  · intro hping
    exact ⟨List.mem_of_find?_eq_some hping, by simpa using List.find?_some hping⟩
  · rintro ⟨hmem, rfl⟩
    obtain ⟨other, hother⟩ : ∃ other, e.ping? ping.number = some other := by
      rw [← Option.isSome_iff_exists, Engine.ping?, List.find?_isSome]
      exact ⟨ping, hmem, by simp⟩
    have hsame : other.number = ping.number := by simpa using List.find?_some hother
    rw [hother, List.inj_on_of_nodup_map h.nodup (List.mem_of_find?_eq_some hother) hmem hsame]

end Numbered

end Engine

/-! ## 2. The books -/

/-- What the service has written down about a target agrees with the ledger. -/
structure Entry (begun : Nat) (round : UInt32) (e : Engine) (index : Nat) (target : Target) :
    Prop where
  pinger : ∃ pinger, e.pingers[target.pinger]? = some pinger
  asked : e.askedBy index = round.toNat + if index < begun then 1 else 0
  transmitted : target.transmitted = UInt32.ofNat (e.askedBy index)
  received : target.received = UInt32.ofNat (e.repliesTo index)

/-- A ping is that of a target, and carries the identifier of the target's pinger. -/
structure Owned (targets : Array Target) (e : Engine) (ping : Ping) : Prop where
  owner : ∃ (index : Nat) (target : Target) (pinger : Pinger), ping.caller = .target index ∧
    targets[index]? = some target ∧ ping.pinger = target.pinger ∧
    e.pingers[target.pinger]? = some pinger ∧ ping.token.identifier = pinger.identifier

/-- A ping stays that of a target while targets keep their pingers and pingers their identifiers. -/
theorem Owned.transfer {targets targets' : Array Target} (h : Owned targets e ping)
    (hkept : ∀ (index : Nat) (old : Target), targets[index]? = some old →
      ∃ new, targets'[index]? = some new ∧ new.pinger = old.pinger)
    (identifiers : ∀ (id : PingerId) (pinger : Pinger), e.pingers[id]? = some pinger →
      ∃ pinger', e'.pingers[id]? = some pinger' ∧ pinger'.identifier = pinger.identifier) :
    Owned targets' e' ping := by
  obtain ⟨index, old, pinger, hcaller, htarget, hpinger, hp, hidentifier⟩ := h.owner
  obtain ⟨new, hnew, hsame⟩ := hkept index old htarget
  obtain ⟨pinger', hp', hsame'⟩ := identifiers _ _ hp
  exact ⟨index, new, pinger', hcaller, hnew, hpinger.trans hsame.symm, hsame ▸ hp',
    hidentifier.trans hsame'.symm⟩

/-- **The books of the service agree with the ledger.** -/
structure Books (begun : Nat) (service : Service) (e : Engine) : Prop where
  serves : e.service = some service
  numbers : e.pings.map Ping.number = (List.range e.nextPing).reverse
  known : ∀ ending ∈ e.endings, ending.ping < e.nextPing
  owned : ∀ ping ∈ e.pings, Owned service.targets e ping
  entries : ∀ (index : Nat) (target : Target), service.targets[index]? = some target →
    Entry begun service.round e index target
  outstanding : service.outstanding + UInt32.ofNat e.endings.length = UInt32.ofNat e.pings.length
  output : e.output.map some = e.endings.map (e.lineOf service)
  rounds : service.round ≤ service.config.count

namespace Engine

theorem ping?_congr (h : e'.pings = e.pings) (number : PingId) : e'.ping? number = e.ping? number := by
  rw [ping?, ping?, h]

theorem toldTo_congr (h : e'.pings = e.pings) (ending : Ending) :
    e'.toldTo ending = e.toldTo ending := by
  rw [toldTo, toldTo, ping?_congr h]

theorem askedBy_congr (h : e'.pings = e.pings) (index : Nat) :
    e'.askedBy index = e.askedBy index := by
  rw [askedBy, askedBy, h]

theorem repliesTo_congr (h : e'.pings = e.pings) (hendings : e'.endings = e.endings) (index : Nat) :
    e'.repliesTo index = e.repliesTo index := by
  simp only [repliesTo, hendings, toldTo_congr h]

/-- The line depends on the address of the target alone. -/
theorem lineOf_congr {service' : Service} {ending : Ending}
    (h : e'.toldTo ending = e.toldTo ending)
    (haddress : ∀ index : Nat, service'.targets[index]?.map Target.address
      = service.targets[index]?.map Target.address) :
    e'.lineOf service' ending = e.lineOf service ending := by
  have hline : ∀ target : Target, target.resultLine ending.code ending.result
      = Target.resultLine { name := "", address := target.address, pinger := 0 } ending.code
          ending.result := fun _ => rfl
  have hmap : ∀ targets : Option Target,
      (targets.map fun target => target.resultLine ending.code ending.result)
        = (targets.map Target.address).map fun address =>
            Target.resultLine { name := "", address, pinger := 0 } ending.code ending.result := by
    intro targets
    rw [Option.map_map]
    exact congrArg (Option.map · targets) (funext hline)
  simp only [lineOf, h, hmap, haddress]

end Engine

namespace Books

/-- The books depend on the ledger, on what was written and on the identifiers of pingers; whether
the service has stopped is not in them. -/
theorem transfer (hb : Books begun service e) {stopped : Bool}
    (serves : e'.service = some { service with stopped }) (pings : e'.pings = e.pings)
    (nextPing : e'.nextPing = e.nextPing) (endings : e'.endings = e.endings)
    (output : e'.output = e.output)
    (identifiers : ∀ (id : PingerId) (pinger : Pinger), e.pingers[id]? = some pinger →
      ∃ pinger', e'.pingers[id]? = some pinger' ∧ pinger'.identifier = pinger.identifier) :
    Books begun { service with stopped } e' where
  serves := serves
  numbers := by rw [pings, nextPing, hb.numbers]
  known ending hmem := by
    rw [endings] at hmem
    rw [nextPing]
    exact hb.known ending hmem
  owned ping hmem := by
    rw [pings] at hmem
    exact (hb.owned ping hmem).transfer (fun _ old htarget => ⟨old, htarget, rfl⟩) identifiers
  entries index target htarget := by
    have hentry := hb.entries index target htarget
    obtain ⟨pinger, hp⟩ := hentry.pinger
    obtain ⟨pinger', hp', -⟩ := identifiers _ _ hp
    refine ⟨⟨pinger', hp'⟩, ?_, ?_, ?_⟩
    · rw [Engine.askedBy_congr pings]
      exact hentry.asked
    · rw [Engine.askedBy_congr pings]
      exact hentry.transmitted
    · rw [Engine.repliesTo_congr pings endings]
      exact hentry.received
  outstanding := by
    rw [endings, pings]
    exact hb.outstanding
  output := by
    rw [output, endings, hb.output]
    exact List.map_congr_left fun ending _ =>
      (Engine.lineOf_congr (Engine.toldTo_congr pings ending) fun _ => rfl).symm
  rounds := hb.rounds

/-- What the books are not about leaves them as they are. -/
theorem unbooked (hb : Books begun service e) (h : Unbooked e e') : Books begun service e' := by
  have hserves : e'.service = some { service with stopped := service.stopped } :=
    h.service.trans hb.serves
  exact hb.transfer hserves h.pings h.nextPing h.endings h.output h.identifiers

theorem aimed (hb : Books begun service e) : e.Aimed := fun ping hmem => by
  obtain ⟨index, -, -, hcaller, -⟩ := (hb.owned ping hmem).owner
  exact ⟨index, hcaller⟩

theorem nodup (hb : Books begun service e) : (e.pings.map Ping.number).Nodup :=
  Engine.Numbered.nodup hb.numbers

theorem number_lt (hb : Books begun service e) (hmem : ping ∈ e.pings) : ping.number < e.nextPing :=
  Engine.Numbered.number_lt hb.numbers hmem

theorem ping?_eq_some (hb : Books begun service e) :
    e.ping? number = some ping ↔ ping ∈ e.pings ∧ ping.number = number :=
  Engine.Numbered.ping?_eq_some hb.numbers

end Books

/-! ## 3. A ping ends -/

/-- What a ping's end makes of a target. -/
def Target.told (code : ErrorCode) (result : PingResult) (target : Target) : Target :=
  if code.isError then target else target.count result.roundTrip

@[simp] theorem Target.told_address (code : ErrorCode) (result : PingResult) (target : Target) :
    (target.told code result).address = target.address := by
  unfold told
  split <;> rfl

@[simp] theorem Target.told_pinger (code : ErrorCode) (result : PingResult) (target : Target) :
    (target.told code result).pinger = target.pinger := by
  unfold told
  split <;> rfl

@[simp] theorem Target.told_transmitted (code : ErrorCode) (result : PingResult) (target : Target) :
    (target.told code result).transmitted = target.transmitted := by
  unfold told
  split <;> rfl

theorem Service.targets_count (index : Nat) (code : ErrorCode) (result : PingResult) (other : Nat) :
    (service.count index code result).targets[other]?
      = service.targets[other]?.map fun target =>
          if other = index then target.told code result else target := by
  unfold Service.count
  dsimp only
  split
  · next herror => simp [Target.told, herror]
  · next hok =>
    rw [Array.getElem?_modify]
    split
    · next heq =>
      subst heq
      simp [Target.told, hok]
    · next hne => simp [Ne.symm hne]

/-- What the service counts leaves the addresses and the pingers of its targets as they are. -/
theorem Service.address_count (index : Nat) (code : ErrorCode) (result : PingResult) (other : Nat) :
    (service.count index code result).targets[other]?.map Target.address
      = service.targets[other]?.map Target.address := by
  rw [targets_count, Option.map_map]
  refine congrArg (Option.map · _) (funext fun target => ?_)
  dsimp only [Function.comp]
  split <;> simp

theorem Service.pinger_count {index other : Nat} {old : Target} (code : ErrorCode)
    (result : PingResult) (hold : service.targets[other]? = some old) :
    ∃ new, (service.count index code result).targets[other]? = some new ∧
      new.pinger = old.pinger := by
  rw [targets_count, hold, Option.map_some]
  refine ⟨_, rfl, ?_⟩
  split <;> simp

theorem Engine.finishIfIdle_cases (hservice : e.service = some service) :
    (e.finishIfIdle = e ∧ (service.roundsBegun → service.outstanding ≠ 0)) ∨
      (e.finishIfIdle = e.stopService ∧ service.outstanding = 0 ∧ service.roundsBegun) := by
  simp only [finishIfIdle, hservice]
  split
  · next hidle =>
    obtain ⟨hzero, hbegun⟩ := Bool.and_eq_true_iff.1 hidle
    exact .inr ⟨rfl, of_decide_eq_true hzero, hbegun⟩
  · next hbusy => exact .inl ⟨rfl, fun hbegun hzero => hbusy (by simp [hzero, hbegun])⟩

/-- The engine after the service has counted the end of a ping and written its line, before it looks
whether anything is left to do. -/
def Engine.counted (e : Engine) (number : PingId) (index : Nat) (line : String) (code : ErrorCode)
    (result : PingResult) : Engine :=
  (({ e with endings := { ping := number, time := e.now, code, result } :: e.endings }).updateService
    fun service => service.count index code result).write [line]

theorem Engine.toldTo_eq {index : Nat} {ending : Ending} (hping : e.ping? ending.ping = some ping)
    (hcaller : ping.caller = .target index) : e.toldTo ending = some index := by
  rw [toldTo, hping, Option.bind_some, Ping.target?, hcaller]

/-- An ending counts for the target that was told. -/
theorem Engine.repliesTo_counted {index : Nat} (hping : e.ping? number = some ping)
    (hcaller : ping.caller = .target index) (line : String) (code : ErrorCode) (result : PingResult)
    (other : Nat) : (e.counted number index line code result).repliesTo other
      = e.repliesTo other + if code.isError = false ∧ other = index then 1 else 0 := by
  let ending : Ending := { ping := number, time := e.now, code, result }
  have htold : e.toldTo ending = some index := toldTo_eq hping hcaller
  change (ending :: e.endings).countP
    (fun ending => !ending.code.isError && e.toldTo ending = some other) = _
  rw [List.countP_cons, htold, repliesTo]
  simp only [ending, Bool.and_eq_true, Bool.not_eq_true', decide_eq_true_eq, Option.some.injEq,
    @eq_comm _ index]

/-- What is written down about a target when an ending is counted. -/
theorem Entry.told {round : UInt32} {index other : Nat} {old : Target}
    (h : Entry begun round e other old) (hping : e.ping? number = some ping)
    (hcaller : ping.caller = .target index) (line : String) (code : ErrorCode)
    (result : PingResult) :
    Entry begun round (e.counted number index line code result) other
      (if other = index then old.told code result else old) := by
  have hsame : (if other = index then old.told code result else old).pinger = old.pinger ∧
      (if other = index then old.told code result else old).transmitted = old.transmitted := by
    split <;> simp
  refine ⟨hsame.1 ▸ h.pinger, h.asked, hsame.2.trans h.transmitted, ?_⟩
  rw [Engine.repliesTo_counted hping hcaller, UInt32.ofNat_add, ← h.received]
  by_cases hindex : other = index
  · cases hcode : code.isError with
    | true => simp [hindex, hcode, Target.told]
    | false => simp [hindex, hcode, Target.told, Target.count]
  · simp [hindex]

namespace Books

/-- **When a ping ends the books are kept.** -/
theorem counted (hb : Books begun service e) {index : Nat} {target : Target}
    (hping : e.ping? number = some ping) (hcaller : ping.caller = .target index)
    (htarget : service.targets[index]? = some target) (code : ErrorCode) (result : PingResult) :
    Books begun (service.count index code result)
      (e.counted number index (target.resultLine code result) code result) := by
  let ending : Ending := { ping := number, time := e.now, code, result }
  refine {
    serves := by simp [Engine.counted, Engine.updateService, Engine.write, hb.serves]
    numbers := hb.numbers
    known := ?_
    owned := fun other hmem => (hb.owned other hmem).transfer
      (fun _ _ hold => Service.pinger_count code result hold) fun _ pinger hp => ⟨pinger, hp, rfl⟩
    entries := ?_
    outstanding := ?_
    output := ?_
    rounds := hb.rounds }
  · intro other hmem
    rcases List.mem_cons.1 hmem with rfl | hmem
    · obtain ⟨hasked, hnumber⟩ := hb.ping?_eq_some.1 hping
      rw [← hnumber]
      exact hb.number_lt hasked
    · exact hb.known other hmem
  · intro other target' htarget'
    rw [Service.targets_count] at htarget'
    obtain ⟨old, hold, rfl⟩ := Option.map_eq_some_iff.1 htarget'
    exact (hb.entries other old hold).told hping hcaller _ code result
  · have hout := hb.outstanding
    have hcons : (service.outstanding - 1) + UInt32.ofNat (e.endings.length + 1)
        = UInt32.ofNat e.pings.length := by
      rw [UInt32.ofNat_add]
      grind
    exact hcons
  · have hline : e.lineOf service ending = some (target.resultLine code result) := by
      have htold : e.toldTo ending = some index := Engine.toldTo_eq hping hcaller
      simp [Engine.lineOf, htold, htarget, ending]
    have hlines : ∀ other, (e.counted number index (target.resultLine code result) code result).lineOf
        (service.count index code result) other = e.lineOf service other :=
      fun _ => Engine.lineOf_congr rfl (Service.address_count index code result)
    have hrest : e.endings.map (e.lineOf service) = e.endings.map _ :=
      List.map_congr_left fun other _ => (hlines other).symm
    calc (target.resultLine code result :: e.output).map some
        = e.lineOf service ending :: e.endings.map (e.lineOf service) := by
          rw [List.map_cons, hb.output, hline]
      _ = _ := congrArg₂ List.cons (hlines ending).symm hrest

end Books

/-! ## 4. The service stops -/

/-- How many ready tasks refuse a ping. -/
def Engine.refusals (e : Engine) : Nat := e.ready.countP fun task => task.refusal?.isSome

theorem Task.isBooked_of_refusal {task : Task} (h : task.refusal?.isSome) : task.isBooked := by
  rw [isBooked, h, Bool.or_true]

theorem Unbooked.refusals_eq (h : Unbooked e e') : e'.refusals = e.refusals :=
  countP_eq_of_filter_eq h.booked fun _ hrefusal => Task.isBooked_of_refusal hrefusal

/-- What stopping the service leaves as it was. -/
structure Halts (service : Service) (e e' : Engine) : Prop where
  stopped : e'.stopped = true
  serves : e'.service = some { service with stopped := true }
  pings : e'.pings = e.pings
  nextPing : e'.nextPing = e.nextPing
  endings : e'.endings = e.endings
  pingers : e'.pingers = e.pingers
  output : e'.output = e.output
  refusals : e'.refusals = e.refusals

theorem Engine.halts_stopService (hservice : e.service = some service) :
    Halts service e e.stopService := by
  have hserves : e.service.map (fun service => { service with stopped := true })
      = some { service with stopped := true } := by rw [hservice, Option.map_some]
  unfold stopService stop cancelSignal cancelAlarm
  split <;> split <;>
    exact ⟨rfl, hserves, rfl, rfl, rfl, rfl, rfl, by simp [refusals, updateService, post, Task.refusal?]⟩

namespace Books

/-- **When the service stops its books are kept.** -/
theorem halts (hb : Books begun service e) (h : Halts service e e') :
    Books begun { service with stopped := true } e' :=
  hb.transfer h.serves h.pings h.nextPing h.endings h.output fun id pinger hp =>
    ⟨pinger, by rwa [h.pingers], rfl⟩

/-- **When a ping ends** it is counted and written down; then the service stops, if the last round
has begun and nothing is outstanding. -/
theorem tell (hb : Books begun service e) {index : Nat} (hping : e.ping? number = some ping)
    (hcaller : ping.caller = .target index) (code : ErrorCode) (result : PingResult) :
    ∃ line, let next := service.count index code result
      let counted := e.counted number index line code result
      Books begun next counted ∧
        ((e.tell number (.target index) code result = counted ∧
            (next.roundsBegun → next.outstanding ≠ 0)) ∨
          (e.tell number (.target index) code result = counted.stopService ∧
            next.outstanding = 0 ∧ next.roundsBegun)) := by
  obtain ⟨index', target, -, hcaller', htarget, -⟩ :=
    (hb.owned ping (List.mem_of_find?_eq_some hping)).owner
  obtain rfl := Caller.target.inj (hcaller.symm.trans hcaller')
  have hcounted := hb.counted hping hcaller htarget code result
  have htell : e.tell number (.target index) code result
      = (e.counted number index (target.resultLine code result) code result).finishIfIdle := by
    have hfound : (e.service.bind fun service => service.targets[index]?) = some target := by
      rw [hb.serves, Option.bind_some, htarget]
    simp only [Engine.tell, Engine.targetAnswered, hfound]
    rfl
  refine ⟨target.resultLine code result, hcounted, ?_⟩
  rw [htell]
  exact Engine.finishIfIdle_cases hcounted.serves

/-! ## 5. A ping is asked for -/

end Books

/-- The service after it has counted a ping that it asks for. -/
def Service.asks (service : Service) (index : Nat) : Service :=
  { service with
    outstanding := service.outstanding + 1
    targets := service.targets.modify index fun target =>
      { target with transmitted := target.transmitted + 1 } }

theorem Service.targets_asks (index other : Nat) :
    (service.asks index).targets[other]? = service.targets[other]?.map fun target =>
      if other = index then { target with transmitted := target.transmitted + 1 } else target := by
  unfold asks
  dsimp only
  rw [Array.getElem?_modify]
  split
  · next heq =>
    subst heq
    simp
  · next hne => simp [Ne.symm hne]

theorem Service.address_asks (index other : Nat) :
    (service.asks index).targets[other]?.map Target.address
      = service.targets[other]?.map Target.address := by
  rw [targets_asks, Option.map_map]
  refine congrArg (Option.map · _) (funext fun target => ?_)
  dsimp only [Function.comp]
  split <;> rfl

theorem Service.pinger_asks (index : Nat) {other : Nat} {old : Target}
    (hold : service.targets[other]? = some old) :
    ∃ new, (service.asks index).targets[other]? = some new ∧ new.pinger = old.pinger := by
  rw [targets_asks, hold, Option.map_some]
  refine ⟨_, rfl, ?_⟩
  split <;> rfl

section Asked

variable {id : PingerId} {pinger : Pinger} {token : Token} {index : Nat}

/-- A ping that is asked for makes no difference to those that were told before. -/
theorem Engine.toldTo_noteAsked (hknown : ∀ ending ∈ e.endings, ending.ping < e.nextPing)
    {ending : Ending} (hmem : ending ∈ e.endings) :
    (e.noteAsked id pinger token (.target index)).toldTo ending = e.toldTo ending := by
  have hne : e.nextPing ≠ ending.ping := Nat.ne_of_gt (hknown ending hmem)
  have hsame : (e.noteAsked id pinger token (.target index)).ping? ending.ping
      = e.ping? ending.ping := by
    rw [ping?, noteAsked, List.find?_cons_of_neg (by simpa using hne)]
    rfl
  rw [toldTo, hsame, toldTo]

theorem Engine.askedBy_noteAsked (other : Nat) :
    (e.noteAsked id pinger token (.target index)).askedBy other
      = e.askedBy other + if other = index then 1 else 0 := by
  rw [askedBy, noteAsked, List.countP_cons, askedBy]
  simp only [Ping.target?, decide_eq_true_eq, Option.some.injEq, @eq_comm _ index]

/-- What is written down about a target when a ping of the next one is asked for. -/
theorem Entry.noteAsked {round : UInt32} {old : Target} (h : Entry begun round e index old)
    (hknown : ∀ ending ∈ e.endings, ending.ping < e.nextPing) :
    Entry (begun + 1) round (e.noteAsked id pinger token (.target begun)) index
      (if index = begun then { old with transmitted := old.transmitted + 1 } else old) := by
  have hreplies : (e.noteAsked id pinger token (.target begun)).repliesTo index = e.repliesTo index :=
    List.countP_congr fun ending hmem => by rw [Engine.toldTo_noteAsked hknown hmem]
  have hsame : (if index = begun then { old with transmitted := old.transmitted + 1 } else old).pinger
      = old.pinger ∧ (if index = begun then { old with transmitted := old.transmitted + 1 }
        else old).received = old.received := by
    split <;> exact ⟨rfl, rfl⟩
  refine ⟨by rw [hsame.1]; exact h.pinger, ?_, ?_, ?_⟩
  · rw [Engine.askedBy_noteAsked, h.asked]
    split <;> split <;> split <;> omega
  · rw [Engine.askedBy_noteAsked, UInt32.ofNat_add, ← h.transmitted]
    split <;> simp
  · rw [hreplies, hsame.2, h.received]

end Asked

namespace Books

variable {target : Target} {pinger : Pinger}

/-- **When a ping is asked for the books are kept.** -/
theorem asked (hb : Books begun service e) (htarget : service.targets[begun]? = some target)
    (hp : e.pingers[target.pinger]? = some pinger) (sequence : UInt16) :
    Books (begun + 1) (service.asks begun)
      ((e.updateService fun service => service.asks begun).noteAsked target.pinger pinger
        { identifier := pinger.identifier, sequence } (.target begun)) := by
  let counted := e.updateService fun service => service.asks begun
  refine {
    serves := by simp [Engine.updateService, Engine.noteAsked, hb.serves]
    numbers := ?_
    known := fun ending hmem => Nat.lt_succ_of_lt (hb.known ending hmem)
    owned := fun other hmem => ?_
    entries := fun index new hnew => ?_
    outstanding := ?_
    output := ?_
    rounds := hb.rounds }
  · change e.nextPing :: e.pings.map Ping.number = (List.range (e.nextPing + 1)).reverse
    rw [hb.numbers, List.range_succ, List.reverse_append]
    rfl
  · rcases List.mem_cons.1 hmem with rfl | hmem
    · obtain ⟨new, hnew, hpinger⟩ := Service.pinger_asks begun htarget
      exact ⟨begun, new, pinger, rfl, hnew, hpinger.symm, by rw [hpinger]; exact hp, rfl⟩
    · exact (hb.owned other hmem).transfer (fun _ _ hold => Service.pinger_asks begun hold)
        fun _ pinger hp => ⟨pinger, hp, rfl⟩
  · rw [Service.targets_asks] at hnew
    obtain ⟨old, hindex, rfl⟩ := Option.map_eq_some_iff.1 hnew
    have hentry : Entry begun service.round counted index old :=
      { hb.entries index old hindex with }
    exact hentry.noteAsked hb.known
  · have hout := hb.outstanding
    have hcons : (service.outstanding + 1) + UInt32.ofNat e.endings.length
        = UInt32.ofNat (e.pings.length + 1) := by
      rw [UInt32.ofNat_add]
      grind
    exact hcons
  · refine hb.output.trans (List.map_congr_left fun ending hmem => ?_)
    have htold := @Engine.toldTo_noteAsked counted target.pinger pinger
      { identifier := pinger.identifier, sequence } begun hb.known ending hmem
    exact (Engine.lineOf_congr htold (Service.address_asks begun)).symm

end Books

end IcmpEcho
