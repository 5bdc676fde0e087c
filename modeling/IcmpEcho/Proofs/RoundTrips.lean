/-
# Round trips

A round trip is the time between two readings of the clock.  The later one was taken when the
datagram was received, the earlier one when its request was known to have left or, if the datagram
was received before that, when the ping was asked for (`Engine.roundTrip`).

A pinger with a socket of its own is handed a datagram when it is received, so its round trips are
never negative.  For a pinger of a hub the hub receives, and the mailbox keeps what comes while
nobody waits for it.  When a ping has timed out, a late reply to it can stay there until the same
sequence number is pinged again, and that later ping ends with a round trip below zero
(`stale_reply_answers`).

**A round trip is below zero only through a letter that was in the mailbox when the ping was asked
for, and ever since** (`round_trip_of_success`).
-/
import IcmpEcho.Proofs.InTime
import IcmpEcho.Proofs.Telling

namespace IcmpEcho

namespace Engine

variable {e : Engine} {id : PingerId} {pinger : Pinger} {task : Task} {ending : Ending}
  {source : Address} {data : Bytes}

/-! ## 1. Below zero -/

/-- **A round trip is negative if the datagram was received before the ping was asked for**, and
only then. -/
theorem roundTrip_neg_iff {call : Call} (h : call.queued ≤ call.sent) (received : Time) :
    roundTrip call received < 0 ↔ received < call.queued := by
  unfold roundTrip
  split
  · next hsent =>
    -- the request left before, and was asked for before that
    have hlate : call.queued < received := Int.lt_of_le_of_lt h hsent
    lia
  · next hsent => lia

/-! ## 2. Who is told of a success -/

theorem isError_of_verdict {code : ErrorCode} (h : task.verdict? = some code) : code.isError := by
  unfold Task.verdict? at h
  split at h
  · split at h
    · cases h
    · obtain rfl := Option.some.inj h
      rfl
  · split at h
    · next hcode =>
      obtain rfl := Option.some.inj h
      exact hcode
    · cases h
  · obtain rfl := Option.some.inj h
    rfl
  · cases h

theorem isError_of_failure (hproper : e.Proper task) {code : ErrorCode}
    (h : task.failure? = some (id, code)) : code.isError := by
  unfold Task.failure? at h
  split at h
  · split at h
    · next hcode =>
      obtain ⟨rfl, rfl⟩ := Prod.mk.inj (Option.some.inj h)
      exact hcode
    · cases h
  · obtain ⟨rfl, rfl⟩ := Prod.mk.inj (Option.some.inj h)
    exact hproper.1
  · split at h
    · next hcode =>
      obtain ⟨rfl, rfl⟩ := Prod.mk.inj (Option.some.inj h)
      exact hcode
    · cases h
  · cases h

/-- Nobody is told of a success but by a datagram that answers. -/
theorem Tells.of_success (h : e.Tells task ending) (hproper : e.Proper task)
    (hrefusal : ∀ id number caller code sequence,
      task = .noPing id number caller code sequence → code.isError)
    (hok : ending.code.isError = false) :
    ∃ id pinger source data call reply, e.pingers[id]? = some pinger ∧
      task.datagram? id pinger = some (source, data) ∧
      pinger.Answered source data call reply ∧
      ending = call.answered e.now reply (task.receivedAt e.now) := by
  cases h with
  | ended about verdict pending =>
    exact absurd (isError_of_verdict verdict) (Bool.eq_false_iff.1 hok)
  | refused refusal =>
    exact absurd (hrefusal _ _ _ _ _ refusal) (Bool.eq_false_iff.1 hok)
  | answered listens datagram answers =>
    exact ⟨_, _, _, _, _, _, listens, datagram, answers, rfl⟩
  | failed listens failure pending =>
    exact absurd (isError_of_failure hproper failure) (Bool.eq_false_iff.1 hok)

/-! ## 3. When a datagram was received -/

theorem port_of_fits {port : Port} (hp : e.pingers[id]? = some pinger)
    (h : e.Fits (.pinger id) port) : pinger.port = port := by
  have hport : e.port? (.pinger id) = some pinger.port := by
    simp only [port?, hp, Option.map_some]
  exact Option.some.inj (hport.symm.trans h)

/-- A pinger with a socket of its own gets a datagram when it is received. -/
theorem receivedAt_of_private (hproper : e.Proper task) (hp : e.pingers[id]? = some pinger)
    (hdatagram : task.datagram? id pinger = some (source, data)) (hown : pinger.mailbox = none)
    (now : Time) : task.receivedAt now = now := by
  unfold Task.datagram? at hdatagram
  split at hdatagram
  · rfl
  · split at hdatagram
    · next hall =>
      obtain ⟨rfl, -⟩ := hall
      obtain ⟨box, hfits⟩ := hproper
      have hport := port_of_fits hp hfits
      rw [Pinger.port, hown] at hport
      cases hport
    · cases hdatagram
  · cases hdatagram

/-- A pinger with a mailbox gets a letter, which has the time at which its hub received it. -/
theorem letter_of_mailbox (hproper : e.Proper task) (hp : e.pingers[id]? = some pinger)
    (hdatagram : task.datagram? id pinger = some (source, data)) {box : MailboxId}
    (hbox : pinger.mailbox = some box) (now : Time) :
    ∃ letter, e.letter? box task = some letter ∧ task.receivedAt now = letter.time := by
  unfold Task.datagram? at hdatagram
  split at hdatagram
  · split at hdatagram
    · next hall =>
      obtain ⟨rfl, -⟩ := hall
      have hport := port_of_fits hp hproper
      rw [Pinger.port, hbox] at hport
      cases hport
    · cases hdatagram
  · split at hdatagram
    · next reader code letter hall =>
      obtain ⟨rfl, hcode⟩ := hall
      have hport : e.port? (.pinger reader) = some (.box box) := by
        simp only [port?, hp, Option.map_some, Pinger.port, hbox]
      exact ⟨letter, if_pos ⟨hport, hcode⟩, rfl⟩
    · cases hdatagram
  · cases hdatagram

/-- A mailbox takes a letter when its datagram is received. -/
theorem time_of_taken {box : MailboxId} {letter : Letter} (h : e.taken? box task = some letter) :
    letter.time = e.now := by
  unfold taken? at h
  split at h
  · cases h
  · unfold offer? at h
    split at h
    · split at h
      · exact congrArg Letter.time (Option.some.inj h).symm
      · cases h
    · cases h

theorem mem_inbox_of_ready {box : MailboxId} {letter : Letter} (htask : task ∈ e.ready)
    (h : e.letter? box task = some letter) : letter ∈ e.inbox box :=
  List.mem_append_left _ (List.mem_filterMap.2 ⟨task, htask, h⟩)

end Engine

namespace Session

variable {s s' : Session} {deed : Deed} {past : List (Session × Deed)} {box : MailboxId}
  {letter : Letter}

/-! ## 4. How old a letter is -/

/-- A letter comes into an inbox with the time of the clock. -/
theorem Does.inbox_cases (h : Does s deed s') (hs : s.Sound)
    (hletter : letter ∈ s'.engine.inbox box) :
    letter ∈ s.engine.inbox box ∨ letter.time = s.engine.now := by
  rcases h.handled_or_moves hs with ⟨due, rfl, hhandled, -⟩ | ⟨-, hmoves⟩
  · have hmem : letter ∈ s.engine.inbox box ++ (s.engine.taken? box due).toList := by
      rw [← hhandled.inbox box]
      exact List.mem_append_right _ hletter
    rcases List.mem_append.1 hmem with hold | hnew
    · exact .inl hold
    · exact .inr (Engine.time_of_taken (Option.mem_toList.1 hnew))
  · rw [hmoves.still.inbox] at hletter
    exact .inl hletter

/-- **A letter was in the inbox already, or was received since.** -/
theorem Run.inbox_cases (h : Run s past s') (hr : ReachableInTime s)
    (hpast : ∀ entry ∈ past, entry.2.InTime entry.1) (hletter : letter ∈ s'.engine.inbox box) :
    letter ∈ s.engine.inbox box ∨ s.engine.now ≤ letter.time := by
  induction h with
  | nil => exact .inl hletter
  | @cons s next s' deed past head rest ih =>
    have hhead : deed.InTime s := hpast _ List.mem_cons_self
    have hrest : ∀ entry ∈ past, entry.2.InTime entry.1 := by
      intro entry hentry
      exact hpast entry (List.mem_cons_of_mem _ hentry)
    rcases ih (hr.does head hhead) hrest hletter with hnext | hlate
    · rcases head.inbox_cases hr.reachable.sound hnext with hold | hnow
      · exact .inl hold
      · exact .inr (Int.le_of_eq hnow.symm)
    · have hon : s.engine.now ≤ next.engine.now := by
        refine hr.now_le (.one head) ?_
        intro entry hentry
        obtain rfl := List.mem_singleton.1 hentry
        exact hhead
      exact .inr (Int.le_trans hon hlate)

/-! ## 5. All runs -/

/-- Whoever is told of a success is told by a task that brings a datagram, which answers a call. -/
theorem Does.of_success (h : Does s deed s') (hs : s.Sound) {fresh : List Ending}
    (hfresh : s'.engine.endings = fresh ++ s.engine.endings) {ending : Ending}
    (hending : ending ∈ fresh) (hok : ending.code.isError = false) :
    ∃ due id pinger source data call reply, deed = .task due ∧ due ∈ s.engine.ready ∧
      s.engine.pingers[id]? = some pinger ∧ due.datagram? id pinger = some (source, data) ∧
      pinger.Answered source data call reply ∧
      ending = call.answered s.engine.now reply (due.receivedAt s.engine.now) := by
  obtain ⟨told, htold, htells⟩ := h.tells hs
  obtain rfl : told = fresh := List.append_cancel_right (htold.symm.trans hfresh)
  obtain ⟨due, rfl, hdue⟩ := htells ending hending
  have hready : due ∈ s.engine.ready := by
    cases h with
    | task hready => rw [hready]; simp
  have hrefusal : ∀ id number caller code sequence,
      due = .noPing id number caller code sequence → code.isError := by
    rintro id number caller code sequence rfl
    obtain ⟨-, -, -, -, -, rfl | rfl⟩ := hs.engine.ledger.refused _ _ _ _ _ hready <;> rfl
  obtain ⟨id, pinger, source, data, call, reply, hp, hdatagram, hanswers, htells⟩ :=
    hdue.of_success (hs.engine.wired.tasks due hready) hrefusal hok
  exact ⟨due, id, pinger, source, data, call, reply, rfl, hready, hp, hdatagram, hanswers, htells⟩

/-- **What a round trip is about.**

Whoever is told of a success is told by a datagram that answers.  The round trip is negative
exactly if that datagram was received before the ping was asked for.  With a socket of its own a
pinger never sees that.  With a mailbox the datagram is a letter, and a letter that is so old was in
the inbox when the ping was asked for, and in every session of the run since; so if the inbox was
empty once in that time the round trip is not negative. -/
theorem round_trip_of_success (hr : ReachableInTime s) (hd : Does s deed s') {fresh : List Ending}
    (hfresh : s'.engine.endings = fresh ++ s.engine.endings) {ending : Ending}
    (hending : ending ∈ fresh) (hok : ending.code.isError = false) :
    ∃ due id pinger source data ping, deed = .task due ∧ s.engine.pingers[id]? = some pinger ∧
      due.datagram? id pinger = some (source, data) ∧ s.engine.ping? ending.ping = some ping ∧
      ping.pinger = id ∧
      (ending.result.roundTrip < 0 ↔ due.receivedAt s.engine.now < ping.asked) ∧
      (pinger.mailbox = none → 0 ≤ ending.result.roundTrip) ∧
      ∀ box, pinger.mailbox = some box →
        ∃ letter, s.engine.letter? box due = some letter ∧
          letter.time = due.receivedAt s.engine.now ∧
          ∀ earlier past, ReachableInTime earlier → Run earlier past s →
            (∀ entry ∈ past, entry.2.InTime entry.1) → ping.asked ≤ earlier.engine.now →
            ending.result.roundTrip < 0 → letter ∈ earlier.engine.inbox box := by
  have hs := hr.reachable.sound
  obtain ⟨due, id, pinger, source, data, call, reply, rfl, hready, hp, hdatagram, hanswers, rfl⟩ :=
    hd.of_success hs hfresh hending hok
  have hproper := hs.engine.wired.tasks due hready
  obtain ⟨ping, hping, hrecords⟩ := hs.engine.ping?_of_call? hp hanswers.pending
  obtain ⟨hqueued, hsent⟩ :=
    hr.punctual.calls id pinger hp call (Pinger.mem_of_call? hanswers.pending)
  have hneg : (call.answered s.engine.now reply (due.receivedAt s.engine.now)).result.roundTrip < 0
      ↔ due.receivedAt s.engine.now < ping.asked := by
    rw [hrecords.asked]
    exact Engine.roundTrip_neg_iff hqueued _
  refine ⟨due, id, pinger, source, data, ping, rfl, hp, hdatagram, hping, hrecords.pinger, hneg,
    ?_, ?_⟩
  · intro hown
    refine Int.not_lt.1 fun hlt => ?_
    have hearly := hneg.1 hlt
    rw [Engine.receivedAt_of_private hproper hp hdatagram hown, hrecords.asked] at hearly
    exact Int.not_lt.2 (Int.le_trans hqueued hsent) hearly
  · intro box hbox
    obtain ⟨letter, hletter, htime⟩ :=
      Engine.letter_of_mailbox hproper hp hdatagram hbox s.engine.now
    refine ⟨letter, hletter, htime.symm, ?_⟩
    intro earlier past hearlier hrun hpast hasked hlt
    have hmem := Engine.mem_inbox_of_ready hready hletter
    rcases hrun.inbox_cases hearlier hpast hmem with hold | hlate
    · exact hold
    · have hearly := hneg.1 hlt
      rw [htime] at hearly
      exact absurd hearly (Int.not_lt.2 (Int.le_trans hasked hlate))

/-- A pinger with a socket of its own is told of a reply with a round trip that is not negative. -/
theorem round_trip_of_success_of_reply :
    let source := Address.ofOctets 10 0 0 1
    let header : Bytes := [69, 0, 0, 28, 0, 0, 0, 0, 64, 1, 0, 0, 10, 0, 0, 1, 10, 0, 0, 9]
    let data : Bytes := header ++ [0, 0, 239, 254, 16, 0, 0, 1]
    let sent : Task := .sent (.call 0 { identifier := 4096, sequence := 1 } 0) .success 64
    let task : Task := .received 0 (.pinger 0) .success source data
    let created := ((fresh {} 1 none [] []).perform (.create "pinger" source {})).1
    let pinged := (created.perform (.ping "pinger" 1 "tag" [])).1
    let waited : Session := { pinged with engine := { pinged.engine with now := 1000000 } }
    let s := (waited.perform (.deliver source data 1 none)).1
    let s' : Session := { s with engine := ({ s.engine with ready := [sent] }.perform task).sweep }
    s'.engine.endings.map Ending.code = [.success] ∧
      ∀ ending ∈ s'.engine.endings, 0 ≤ ending.result.roundTrip := by
  intro source header data sent task created pinged waited s s'
  have hpinged : ReachableInTime pinged :=
    ((ReachableInTime.fresh _ _ _ _ _).step _ (by simp)).step _ (by simp)
  have hwaited : ReachableInTime waited := hpinged.clock (by decide +kernel)
  have hs : ReachableInTime s := hwaited.step _ (by simp)
  have hready : s.engine.ready = [sent] ++ task :: [] := by decide +kernel
  have hd : Does s (.task task) s' := @Does.task s [sent] [] task hready
  have hfresh : s'.engine.endings = s'.engine.endings ++ s.engine.endings := by decide +kernel
  have hcodes : ∀ ending ∈ s'.engine.endings, ending.code.isError = false := by decide +kernel
  have hown : ∀ (id : PingerId) (pinger : Pinger), s.engine.pingers[id]? = some pinger →
      pinger.mailbox = none := by
    intro id pinger hp
    have hall : ∀ other ∈ s.engine.pingers.toList, other.mailbox = none := by decide +kernel
    exact hall pinger (Array.mem_toList_iff.2 (Array.mem_of_getElem? hp))
  refine ⟨by decide +kernel, ?_⟩
  intro ending hending
  obtain ⟨due, id, pinger, -, -, ping, -, hp, -, -, -, -, hprivate, -⟩ :=
    round_trip_of_success hs hd hfresh hending (hcodes ending hending)
  exact hprivate (hown id pinger hp)

/-- **A round trip can be negative.**  A pinger of a hub times out after 1 ms.  Then the reply
comes, twice: the first of the two is dropped, since no call is pending, and the second waits in the
mailbox.  One millisecond later the sequence number is pinged again, and the old reply ends that
ping. -/
theorem stale_reply_answers :
    let source := Address.ofOctets 10 0 0 1
    let header : Bytes := [69, 0, 0, 28, 0, 0, 0, 0, 64, 1, 0, 0, 10, 0, 0, 1, 10, 0, 0, 9]
    let data : Bytes := header ++ [0, 0, 239, 254, 16, 0, 0, 1]
    let token : Token := { identifier := 4096, sequence := 1 }
    let sent : Task := .sent (.call 0 token 0) .success 64
    let rang : Task := .rang (.call 0 token 0) .success
    let received : Task := .received 0 (.hub 0) .success source data
    let mail : Task := .mail (.pinger 0) .success { time := 1000000, packet := data }
    let performed : Session → Task → List Task → Session := fun s task rest =>
      { s with engine := ({ s.engine with ready := rest }.perform task).sweep }
    let waited : Session → Time → Session := fun s now =>
      { s with engine := { s.engine with now } }
    let opened := ((fresh {} 1 none [] []).perform (.openHub "hub" { family := .v4 })).1
    let registered := (opened.perform (.register "pinger" "hub" source)).1
    let configured := (registered.perform (.configure "pinger" none none (some 1000000))).1
    let pinged := performed (configured.perform (.ping "pinger" 1 "a" [])).1 sent []
    let late := waited pinged 1000000
    let rung : Session := { late with
      engine := ({ late.engine with timeline := [] }.happen (.ring (.call 0 token 0))).sweep }
    let told := performed rung rang []
    let delivered := (told.perform (.deliver source data 2 none)).1
    let dropped := performed (performed delivered received []) mail [received]
    let kept := waited (performed dropped received []) 2000000
    let s := (kept.perform (.ping "pinger" 1 "b" [])).1
    let rest : List Task := [.sent (.call 0 token 1) .success 64]
    let s' := performed s mail rest
    ReachableInTime s ∧ Does s (.task mail) s' ∧
      s.engine.pings.map Ping.asked = [2000000, 0] ∧
      s'.engine.endings.map (fun ending => (ending.ping, ending.code, ending.result.roundTrip))
        = [(1, .success, -1000000), (0, PingFault.timeout.code, 0)] := by
  intro source header data token sent rang received mail performed waited opened registered
    configured pinged late rung told delivered dropped kept s rest s'
  have hperform : ∀ (s : Session) (task : Task) (rest : List Task), ReachableInTime s →
      s.engine.ready = task :: rest → ReachableInTime (performed s task rest) := by
    intro s task rest hs hready
    exact @ReachableInTime.task s hs [] rest task hready
  have hconfigured : ReachableInTime configured :=
    (((ReachableInTime.fresh _ _ _ _ _).step _ (by simp)).step _ (by simp)).step _ (by simp)
  have hpinged : ReachableInTime pinged :=
    hperform _ _ _ (hconfigured.step _ (by simp)) (by decide +kernel)
  have hlate : ReachableInTime late := hpinged.clock (by decide +kernel)
  have htimeline : late.engine.timeline
      = [(1000000, .ring (.call 0 token 0))] := by decide +kernel
  have hrung : ReachableInTime rung :=
    @ReachableInTime.item late hlate [] [] 1000000 _ htimeline (Int.le_refl _)
  have htold : ReachableInTime told := hperform _ _ _ hrung (by decide +kernel)
  have hdelivered : ReachableInTime delivered := htold.step _ (by simp)
  have hdropped : ReachableInTime dropped :=
    hperform _ _ _ (hperform _ _ _ hdelivered (by decide +kernel)) (by decide +kernel)
  have hkept : ReachableInTime kept :=
    (hperform _ _ _ hdropped (by decide +kernel)).clock (by decide +kernel)
  have hs : ReachableInTime s := hkept.step _ (by simp)
  have hready : s.engine.ready = mail :: rest := by decide +kernel
  have hd : Does s (.task mail) s' := @Does.task s [] rest mail hready
  exact ⟨hs, hd, by decide +kernel, by decide +kernel⟩

end Session

end IcmpEcho
