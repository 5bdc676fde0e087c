/-
# The pace of rounds

Rounds go through the targets in their order, so the number of a ping says in which round it was
asked for and for which target, and its sequence number is that round in 16 bits (`Ping.Placed`).
A call waits no longer than the timeout of the configuration, which is as long for each pinger
(`Paced.waits`).

Two pings of one pinger with one sequence number are at least 65536 rounds apart.  **When a round is
about to begin, whatever is pending was asked for in one of the last 65535 rounds** (`Rested.short`);
so the sequence number of the round is free at every pinger (`Rested.free`), and no ping of the round
is refused for it (`Begun.ping`).

This is kept while the pings of the round are asked for, one target after another
(`Begun.pingTargets`).
-/
import IcmpEcho.Proofs.Equipping
import IcmpEcho.Proofs.Lulls
import IcmpEcho.Proofs.Outstanding

namespace IcmpEcho

variable {e e' : Engine} {network : Network} {config : Config} {ids : List PingerId}
  {next rounds begun size : Nat} {id : PingerId}

/-! ## 1. The place of a ping -/

namespace Ping

variable {ping : Ping}

/-- The round of a ping, when there are `size` targets. -/
def round (size : Nat) (ping : Ping) : Nat := ping.number / size

/-- The target of a ping. -/
def index (size : Nat) (ping : Ping) : Nat := ping.number % size

theorem round_lt (h : ping.number < rounds * size) : ping.round size < rounds :=
  Nat.div_lt_of_lt_mul (Nat.mul_comm rounds size ▸ h)

theorem round_eq (hlt : begun < size) (h : ping.number = rounds * size + begun) :
    ping.round size = rounds := by
  rw [round, h, Nat.mul_comm, Nat.mul_add_div (Nat.zero_lt_of_lt hlt), Nat.div_eq_of_lt hlt,
    Nat.add_zero]

theorem index_eq (hlt : begun < size) (h : ping.number = rounds * size + begun) :
    ping.index size = begun := by
  rw [index, h, Nat.mul_comm, Nat.mul_add_mod, Nat.mod_eq_of_lt hlt]

theorem index_lt (h : ping.number < ping.round size * size + begun) : ping.index size < begun := by
  have hsplit : size * ping.round size + ping.index size = ping.number :=
    Nat.div_add_mod ping.number size
  rw [← hsplit, Nat.mul_comm] at h
  exact Nat.lt_of_add_lt_add_left h

/-- The ping is that of the round and the target of its number. -/
structure Placed (ids : List PingerId) (ping : Ping) : Prop where
  pinger : ids[ping.index ids.length]? = some ping.pinger
  caller : ping.caller = .target (ping.index ids.length)
  sequence : ping.token.sequence = UInt16.ofNat (ping.round ids.length)

end Ping

/-- Nanoseconds from the time when a ping is asked for to that of its timer. -/
def Config.patience (config : Config) : Time := config.ping.timeout * 1000000

/-- Nanoseconds from one round to the next. -/
def Config.pause (config : Config) : Time := config.interval * 1000000

/-- **The pings so far, their timers and their endings**, when `next` pings were asked for. -/
structure Paced (config : Config) (ids : List PingerId) (next : Nat) (e : Engine) : Prop where
  distinct : ids.Nodup
  ordered : e.Ordered
  timeouts : ∀ id ∈ ids, ∃ pinger, e.pingers[id]? = some pinger ∧ pinger.timeout = config.patience
  nextPing : e.nextPing = next
  numbers : e.Numbered
  placed : ∀ ping ∈ e.pings, ping.Placed ids
  asked : ∀ ping ∈ e.pings, ping.asked ≤ e.now
  /-- A call does not wait too long. -/
  waits : ∀ time id token timer, (time, .ring (.call id token timer)) ∈ e.timers →
    timer < e.nextPing ∧ time ≤ endOfTime ∧
      ∀ ping ∈ e.pings, ping.number = timer → time ≤ ping.asked + config.patience
  past : ∀ ending ∈ e.endings, ending.time ≤ e.now
  /-- When a ping was asked for, those before it with its sequence number had ended. -/
  answered : ∀ earlier ∈ e.pings, ∀ later ∈ e.pings, earlier.number < later.number →
    earlier.pinger = later.pinger → earlier.token.sequence = later.token.sequence →
      ∃ ending ∈ e.endings, ending.ping = earlier.number ∧ ending.time ≤ later.asked
  unrefused : ∀ id number caller sequence,
    .noPing id number caller PingFault.sequenceInFlight.code sequence ∉ e.ready

namespace Paced

/-- **It is kept between two rounds.** -/
theorem lull (hp : Paced config ids next e) (h : Lull e e') : Paced config ids next e' where
  distinct := hp.distinct
  ordered := h.ordered hp.ordered
  timeouts id hid := by
    obtain ⟨pinger, hpinger, htimeout⟩ := hp.timeouts id hid
    obtain ⟨pinger', hpinger', hsame⟩ := h.timeouts id pinger hpinger
    exact ⟨pinger', hpinger', hsame.trans htimeout⟩
  nextPing := h.nextPing.trans hp.nextPing
  numbers := by rw [Engine.Numbered, h.pings, h.nextPing]; exact hp.numbers
  placed ping hmem := hp.placed ping (h.pings ▸ hmem)
  asked ping hmem := Int.le_trans (hp.asked ping (h.pings ▸ hmem)) h.now
  waits time id token timer hmem := by
    rw [h.nextPing, h.pings]
    exact hp.waits time id token timer (h.timers.subset hmem)
  past ending hmem := by
    obtain ⟨fresh, hendings, hpast⟩ := h.endings
    rw [hendings] at hmem
    rcases List.mem_append.1 hmem with hnew | hold
    · exact hpast ending hnew
    · exact Int.le_trans (hp.past ending hold) h.now
  answered earlier hearlier later hlater hlt hpinger hsequence := by
    obtain ⟨fresh, hendings, -⟩ := h.endings
    rw [h.pings] at hearlier hlater
    obtain ⟨ending, hmem, hends⟩ :=
      hp.answered earlier hearlier later hlater hlt hpinger hsequence
    exact ⟨ending, hendings ▸ List.mem_append_right fresh hmem, hends⟩
  unrefused id number caller sequence hmem :=
    hp.unrefused id number caller sequence (h.ready _ hmem rfl)

/-- **A ping is noted** whose sequence number is free. -/
theorem noteAsked (hp : Paced config ids (rounds * ids.length + begun) e)
    (hid : ids[begun]? = some id)
    (hfree : ∀ ping ∈ e.pings, ping.pinger = id → ping.token.sequence = UInt16.ofNat rounds →
      e.told ping.number ≠ 0) (pinger : Pinger) (token : Token)
    (hsequence : token.sequence = UInt16.ofNat rounds) :
    Paced config ids (rounds * ids.length + begun + 1)
      (e.noteAsked id pinger token (.target begun)) where
  distinct := hp.distinct
  ordered := hp.ordered
  timeouts := hp.timeouts
  nextPing := congrArg (· + 1) hp.nextPing
  numbers := by
    have hnumbers := hp.numbers
    rw [Engine.Numbered] at hnumbers ⊢
    simp only [Engine.noteAsked, List.map_cons, hnumbers, List.range_succ, List.reverse_append,
      List.reverse_singleton, List.singleton_append]
  placed ping hmem := by
    rcases List.mem_cons.1 hmem with rfl | hold
    · have hlt : begun < ids.length := (List.getElem?_eq_some_iff.1 hid).1
      refine ⟨?_, ?_, ?_⟩
      · rw [Ping.index_eq hlt hp.nextPing]
        exact hid
      · rw [Ping.index_eq hlt hp.nextPing]
      · rw [Ping.round_eq hlt hp.nextPing]
        exact hsequence
    · exact hp.placed ping hold
  asked ping hmem := by
    rcases List.mem_cons.1 hmem with rfl | hold
    · exact Int.le_refl _
    · exact hp.asked ping hold
  waits time id token timer hmem := by
    obtain ⟨hlt, hend, hwait⟩ := hp.waits time id token timer hmem
    refine ⟨Nat.lt_succ_of_lt hlt, hend, fun ping hping hnumber => ?_⟩
    rcases List.mem_cons.1 hping with rfl | hold
    · exact absurd hnumber (Nat.ne_of_gt hlt)
    · exact hwait ping hold hnumber
  past := hp.past
  answered earlier hearlier later hlater hlt hpinger hsame := by
    rcases List.mem_cons.1 hlater with rfl | hlater
    · rcases List.mem_cons.1 hearlier with rfl | hearlier
      · exact absurd hlt (Nat.lt_irrefl _)
      · obtain ⟨ending, hmem, hending⟩ := List.countP_pos_iff.1
          (Nat.pos_of_ne_zero (hfree earlier hearlier hpinger (hsame.trans hsequence)))
        exact ⟨ending, hmem, of_decide_eq_true hending, hp.past ending hmem⟩
    · rcases List.mem_cons.1 hearlier with rfl | hearlier
      · exact absurd (hp.numbers.number_lt hlater) (Nat.lt_asymm hlt)
      · exact hp.answered earlier hearlier later hlater hlt hpinger hsame
  unrefused := hp.unrefused

/-- **A timer is set.**  If it is the timer of a call, the call does not wait too long. -/
theorem schedule (hp : Paced config ids next e) {time : Time} {alarm : Alarm}
    (hcall : ∀ id token timer, alarm = .call id token timer → timer < e.nextPing ∧
      time ≤ endOfTime ∧ ∀ ping ∈ e.pings, ping.number = timer →
        time ≤ ping.asked + config.patience) :
    Paced config ids next (e.schedule time (.ring alarm)) :=
  { hp with
    ordered := Engine.pairwise_insertAt hp.ordered
    waits := fun due id token timer hmem => by
      obtain ⟨hmem, htimer⟩ := List.mem_filter.1 hmem
      rcases Engine.mem_insertAt.1 hmem with heq | hold
      · obtain ⟨rfl, hring⟩ := Prod.mk.inj heq
        exact hcall id token timer (Happening.ring.inj hring).symm
      · exact hp.waits due id token timer (List.mem_filter.2 ⟨hold, htimer⟩) }

/-- A task is ready that does not refuse a ping for its sequence number. -/
theorem post (hp : Paced config ids next e) {task : Task}
    (htask : ∀ id number caller sequence,
      .noPing id number caller PingFault.sequenceInFlight.code sequence ≠ task) :
    Paced config ids next (e.post task) :=
  { hp with
    unrefused := fun id number caller sequence hmem => by
      rcases List.mem_append.1 hmem with hold | hnew
      · exact hp.unrefused id number caller sequence hold
      · exact htask id number caller sequence (List.mem_singleton.1 hnew) }

/-- **A call is entered** whose sequence number is free. -/
theorem enterCall (hp : Paced config ids (rounds * ids.length + begun) e)
    (hid : ids[begun]? = some id)
    (hfree : ∀ ping ∈ e.pings, ping.pinger = id → ping.token.sequence = UInt16.ofNat rounds →
      e.told ping.number ≠ 0) {pinger : Pinger} (hpinger : e.pingers[id]? = some pinger)
    (token : Token) (hsequence : token.sequence = UInt16.ofNat rounds) :
    Paced config ids (rounds * ids.length + begun + 1)
      (e.enterCall id pinger token (.target begun)) := by
  have hnoted := hp.noteAsked hid hfree pinger token hsequence
  let noted := e.noteAsked id pinger token (.target begun)
  let call : Call :=
    { token, queued := e.now, sent := e.now, timer := e.nextPing, caller := .target begun }
  have hentered : Chores noted (noted.updatePinger id fun pinger =>
      { pinger with calls := call.insert pinger.calls }) :=
    .updatePinger id (fun _ => rfl) fun _ => rfl
  have htimeout : pinger.timeout = config.patience := by
    obtain ⟨other, hother, htimeout⟩ := hp.timeouts id (List.mem_of_getElem? hid)
    obtain rfl := Option.some.inj (hpinger.symm.trans hother)
    exact htimeout
  refine (hnoted.lull (.of_chores hentered)).schedule fun other token timer hring => ?_
  injection hring with _ _ htimer
  subst htimer
  refine ⟨Nat.lt_succ_self _, Int.min_le_right _ _, fun ping hmem hnumber => ?_⟩
  rcases List.mem_cons.1 hmem with rfl | hold
  · rw [htimeout]
    exact Int.min_le_left _ _
  · exact absurd hnumber (Nat.ne_of_lt (hp.numbers.number_lt hold))

end Paced

/-! ## 2. A round is due -/

/-- A call is that of a ping which is pending. -/
theorem Sound.pending_of_call (hs : Sound {} e) {call : Call} (hcall : call ∈ e.callsOf id) :
    ∃ ping, e.ping? call.timer = some ping ∧ call.Records id ping ∧ e.told ping.number = 0 := by
  obtain ⟨ping, hping, hrecords⟩ := hs.ledger.entered id call hcall
  have honce := (hs.accounts hping).once
  have hentered : 0 < e.entered ping.pinger call.timer :=
    List.countP_pos_iff.2 ⟨call, hrecords.pinger ▸ hcall, decide_eq_true rfl⟩
  have hnumber : ping.number = call.timer := by simpa using List.find?_some hping
  refine ⟨ping, hping, hrecords, ?_⟩
  rw [hnumber]
  omega

/-- The time that must have come when `rounds` rounds have begun and the next one begins. -/
def Ping.turn (config : Config) (size rounds : Nat) (ping : Ping) : Time :=
  min (ping.asked + ((rounds - ping.round size : Nat) : Int) * config.pause) endOfTime

/-- **Enough time has gone by for the next round**: what is pending is not too old. -/
structure Rested (config : Config) (size rounds : Nat) (e : Engine) : Prop where
  turns : ∀ ping ∈ e.pings, ping.turn config size rounds ≤ e.now
  short : ∀ ping ∈ e.pings, e.told ping.number = 0 → rounds < ping.round size + 65536

namespace Rested

theorem lull (hr : Rested config size rounds e) (h : Lull e e') : Rested config size rounds e' where
  turns ping hmem := Int.le_trans (hr.turns ping (h.pings ▸ hmem)) h.now
  short ping hmem htold := by
    obtain ⟨hmem, htold⟩ := h.pending hmem htold
    exact hr.short ping hmem htold

/-- A ping of the round is noted. -/
theorem noteAsked (hr : Rested config size rounds e) (hlt : begun < size)
    (hnext : e.nextPing = rounds * size + begun) (pinger : Pinger) (token : Token)
    (caller : Caller) : Rested config size rounds (e.noteAsked id pinger token caller) where
  turns ping hmem := by
    rcases List.mem_cons.1 hmem with rfl | hold
    · refine Int.le_trans (Int.min_le_left _ _) ?_
      rw [Ping.round_eq hlt hnext, Nat.sub_self, Int.natCast_zero, Int.zero_mul, Int.add_zero]
      exact Int.le_refl _
    · exact hr.turns ping hold
  short ping hmem htold := by
    rcases List.mem_cons.1 hmem with rfl | hold
    · rw [Ping.round_eq hlt hnext]
      omega
    · exact hr.short ping hold htold

/-- **A pending ping with the sequence number of the round is of the round.** -/
theorem recent (hr : Rested config ids.length rounds e) (hp : Paced config ids next e)
    (hnext : next ≤ (rounds + 1) * ids.length) {ping : Ping} (hmem : ping ∈ e.pings)
    (hsequence : ping.token.sequence = UInt16.ofNat rounds) (htold : e.told ping.number = 0) :
    ping.round ids.length = rounds := by
  have hlt : ping.number < next := hp.nextPing ▸ hp.numbers.number_lt hmem
  have hround := Ping.round_lt (Nat.lt_of_lt_of_le hlt hnext)
  have hshort := hr.short ping hmem htold
  have hsame := congrArg UInt16.toNat ((hp.placed ping hmem).sequence.symm.trans hsequence)
  simp only [UInt16.toNat_ofNat'] at hsame
  omega

/-- **The sequence number of the round that is due is free at every pinger.** -/
theorem free (hr : Rested config ids.length rounds e)
    (hp : Paced config ids (rounds * ids.length) e) (hs : Sound {} e) :
    ∀ id, ∀ call ∈ e.callsOf id, call.token.sequence ≠ UInt16.ofNat rounds := by
  intro id call hcall hsequence
  obtain ⟨ping, hping, hrecords, htold⟩ := hs.pending_of_call hcall
  obtain ⟨hmem, -⟩ := hp.numbers.ping?_eq_some.1 hping
  have hround := hr.recent hp (Nat.mul_le_mul_right _ (Nat.le_succ _)) hmem
    (by rw [hrecords.token]; exact hsequence) htold
  exact Nat.ne_of_lt (Ping.round_lt (hp.nextPing ▸ hp.numbers.number_lt hmem)) hround

end Rested

/-! ## 3. The pings of a round -/

/-- **In the middle of a round**, when the first `begun` targets were pinged. -/
structure Begun (network : Network) (config : Config) (ids : List PingerId) (rounds begun : Nat)
    (e : Engine) : Prop where
  network : e.network = network
  sound : Sound {} e
  agenda : e.agenda = some (config, UInt32.ofNat rounds)
  targets : e.targetPingers = ids
  paced : Paced config ids (rounds * ids.length + begun) e
  rested : Rested config ids.length rounds e
  unset : e.armed .round = 0

namespace Begun

variable (h : Begun network config ids rounds begun e)

include h

theorem lull (hl : Lull e e') (hs : Sound {} e') : Begun network config ids rounds begun e' where
  network := hl.network.trans h.network
  sound := hs
  agenda := hl.agenda.trans h.agenda
  targets := hl.targets.trans h.targets
  paced := h.paced.lull hl
  rested := h.rested.lull hl
  unset := Nat.le_zero.1 (h.unset ▸ hl.armed)

/-- **No pending ping of the target that is next has the sequence number of the round.** -/
theorem told (hid : ids[begun]? = some id) :
    ∀ ping ∈ e.pings, ping.pinger = id → ping.token.sequence = UInt16.ofNat rounds →
      e.told ping.number ≠ 0 := by
  intro ping hmem hpinger hsequence htold
  have hlt : begun < ids.length := (List.getElem?_eq_some_iff.1 hid).1
  have hnext : rounds * ids.length + begun ≤ (rounds + 1) * ids.length := by
    rw [Nat.succ_mul]
    exact Nat.add_le_add_left (Nat.le_of_lt hlt) _
  have hround := h.rested.recent h.paced hnext hmem hsequence htold
  have hindex : ping.index ids.length < begun := by
    refine Ping.index_lt ?_
    rw [hround, ← h.paced.nextPing]
    exact h.paced.numbers.number_lt hmem
  -- it would have been asked for earlier in the round, by the same pinger
  have hplaced := (h.paced.placed ping hmem).pinger
  rw [hpinger, ← hid] at hplaced
  exact Nat.ne_of_lt hindex ((List.getElem?_inj (Nat.lt_trans hindex hlt) h.paced.distinct).1 hplaced)

/-- **The next target is pinged**, and not refused for the sequence number. -/
theorem ping (hid : ids[begun]? = some id) :
    Begun network config ids rounds (begun + 1)
      (e.ping id (UInt16.ofNat rounds) (.target begun)) := by
  have hlt : begun < ids.length := (List.getElem?_eq_some_iff.1 hid).1
  have hmine : id ∈ ids := List.mem_of_getElem? hid
  obtain ⟨pinger, hpinger, -⟩ := h.paced.timeouts id hmine
  have htold := h.told hid
  let token : Token := { identifier := pinger.identifier, sequence := UInt16.ofNat rounds }
  have hsound : Sound {} (e.ping id (UInt16.ofNat rounds) (.target begun)) := by
    refine (Acts.ping h.sound (fun other hother => ?_) _ _).sound h.sound
    obtain ⟨⟨pinger, hpinger, hgone⟩, -⟩ := h.sound.targets id (h.targets ▸ hmine)
    obtain rfl := Option.some.inj (hother.symm.trans hpinger)
    exact hgone
  have hunset : (e.ping id (UInt16.ofNat rounds) (.target begun)).armed .round = 0 :=
    (Offstage.ping id _ _).armed.trans h.unset
  have hrested : Rested config ids.length rounds (e.noteAsked id pinger token (.target begun)) :=
    h.rested.noteAsked hlt h.paced.nextPing pinger token (.target begun)
  rcases Engine.ping_enters hpinger (UInt16.ofNat rounds) (.target begun) with
    ⟨fault, hrefused, hfault⟩ | ⟨hentered, -⟩
  · have hnoted := h.paced.noteAsked hid htold pinger token rfl
    have hfault : fault.code ≠ PingFault.sequenceInFlight.code := by
      rcases hfault with rfl | htaken
      · exact fun heq => nomatch heq
      · -- the call that holds the token would be that of a pending ping
        obtain ⟨call, hcall⟩ := Option.isSome_iff_exists.1 htaken
        have hmem : call ∈ e.callsOf id := Engine.callsOf_eq hpinger ▸ Pinger.mem_of_call? hcall
        obtain ⟨ping, hping, hrecords, hpending⟩ := h.sound.pending_of_call hmem
        have hsequence : ping.token.sequence = UInt16.ofNat rounds := by
          rw [hrecords.token, Pinger.token_of_call? hcall]
        exact absurd hpending
          (htold ping (List.mem_of_find?_eq_some hping) hrecords.pinger hsequence)
    have hpaced : Paced config ids (rounds * ids.length + begun + 1)
        (e.refuse id pinger token (.target begun) fault) := by
      refine hnoted.post fun _ _ _ _ heq => ?_
      injection heq with _ _ _ hsame
      exact hfault hsame.symm
    rw [hrefused] at hsound hunset ⊢
    exact ⟨h.network, hsound, h.agenda, h.targets, hpaced, ⟨hrested.turns, hrested.short⟩, hunset⟩
  · let entered := e.enterCall id pinger token (.target begun)
    have hcalled := h.paced.enterCall hid htold hpinger token rfl
    have hwaits : Rested config ids.length rounds entered := ⟨hrested.turns, hrested.short⟩
    have hlull : Lull entered _ := .of_chores hentered
    exact ⟨hlull.network.trans h.network, hsound, hlull.agenda.trans h.agenda,
      hlull.targets.trans h.targets, hcalled.lull hlull, hwaits.lull hlull, hunset⟩

/-- The service counts the next ping, and pings. -/
theorem pingTarget (hlt : begun < ids.length) :
    Begun network config ids rounds (begun + 1)
      (Engine.pingTarget (UInt16.ofNat rounds) e begun) := by
  obtain ⟨service, hservice, -⟩ := Option.map_eq_some_iff.1 h.agenda
  have htargets : service.targets.toList.map Target.pinger = ids := by
    rw [← h.targets, Engine.targetPingers, hservice, Option.map_some, Option.getD_some]
  obtain ⟨target, htarget, hid⟩ : ∃ target, service.targets[begun]? = some target ∧
      ids[begun]? = some target.pinger := by
    have hsize : begun < service.targets.size := by
      rw [← htargets, List.length_map, Array.length_toList] at hlt
      exact hlt
    refine ⟨service.targets[begun], Array.getElem?_eq_getElem hsize, ?_⟩
    rw [← htargets, List.getElem?_map, Array.getElem?_toList, Array.getElem?_eq_getElem hsize,
      Option.map_some]
  have hpingers : ∀ service : Service, (service.asks begun).targets.toList.map Target.pinger
      = service.targets.toList.map Target.pinger := fun service =>
    Aside.map_pinger_modify (by intro target; rfl) _ _
  have hcounted : Begun network config ids rounds begun
      (e.updateService fun service => service.asks begun) :=
    h.lull (.updateService (fun _ => ⟨rfl, rfl⟩) hpingers)
      (h.sound.aside (.updateService hpingers))
  have hping : Engine.pingTarget (UInt16.ofNat rounds) e begun
      = (e.updateService fun service => service.asks begun).ping target.pinger
          (UInt16.ofNat rounds) (.target begun) := by
    have hfound : (e.service.bind fun service => service.targets[begun]?) = some target := by
      rw [hservice, Option.bind_some, htarget]
    simp only [Engine.pingTarget, hfound]
    rfl
  rw [hping]
  exact hcounted.ping hid

omit h in
/-- **The targets are pinged one after another.** -/
theorem pingTargets (h : Begun network config ids rounds 0 e) :
    ∀ count ≤ ids.length, Begun network config ids rounds count
      ((List.range count).foldl (Engine.pingTarget (UInt16.ofNat rounds)) e)
  | 0, _ => h
  | count + 1, hle => by
    rw [List.range_succ, List.foldl_append]
    exact (pingTargets h count (Nat.le_of_succ_le hle)).pingTarget hle

end Begun

end IcmpEcho
