/-
# What the service does not see

The service begins rounds, counts the pings it asks for and those that have ended, and writes lines.
Most of what an engine does is no part of that.  `Offstage e e'` says that `e'` comes from `e`
without any ending, any line, and anything that begins a round or brings a signal; the engine has
not been stopped.  Pinging is offstage, and so is what is done from outside (`Offstage.outers`).

`Unbooked e e'` says that nothing has happened at all that the books of the service are about: in
addition the service itself is as it was, no ping was asked for or refused, and pingers keep their
identifiers.  The tasks that the books are about are ready in the order in which they were.
**Chores are so** (`Unbooked.of_chores`), and so is sweeping up after a task (`Unbooked.sweep`).
-/
import IcmpEcho.Proofs.Chores
import IcmpEcho.Proofs.Outside

namespace IcmpEcho

variable {e e' e'' : Engine} {id : PingerId} {pinger : Pinger}

/-! ## 1. The relations -/

/-- `e'` comes from `e`, and the service has no part in it. -/
structure Offstage (e e' : Engine) : Prop where
  stopped : e'.stopped = e.stopped
  endings : e'.endings = e.endings
  output : e'.output = e.output
  ready : e'.ready.filter Task.isCue = e.ready.filter Task.isCue
  timeline : e'.timeline.filter (fun entry => entry.2.isCue)
    = e.timeline.filter fun entry => entry.2.isCue

/-- The task begins a round, brings a signal or refuses a ping. -/
def Task.isBooked (task : Task) : Bool := task.isCue || task.refusal?.isSome

/-- `e'` comes from `e`, and nothing has happened that the books are about. -/
structure Unbooked (e e' : Engine) : Prop extends Offstage e e' where
  service : e'.service = e.service
  nextPing : e'.nextPing = e.nextPing
  pings : e'.pings = e.pings
  booked : e'.ready.filter Task.isBooked = e.ready.filter Task.isBooked
  identifiers : ∀ (id : PingerId) (pinger : Pinger), e.pingers[id]? = some pinger →
    ∃ pinger', e'.pingers[id]? = some pinger' ∧ pinger'.identifier = pinger.identifier

namespace Offstage

theorem refl (e : Engine) : Offstage e e := ⟨rfl, rfl, rfl, rfl, rfl⟩

theorem trans (h : Offstage e e') (h' : Offstage e' e'') : Offstage e e'' where
  stopped := h'.stopped.trans h.stopped
  endings := h'.endings.trans h.endings
  output := h'.output.trans h.output
  ready := h'.ready.trans h.ready
  timeline := h'.timeline.trans h.timeline

theorem post {task : Task} (hc : task.isCue = false) : Offstage e (e.post task) :=
  { refl e with ready := by simp [Engine.post, hc] }

end Offstage

namespace Unbooked

theorem refl (e : Engine) : Unbooked e e where
  toOffstage := .refl e
  service := rfl
  nextPing := rfl
  pings := rfl
  booked := rfl
  identifiers _ pinger hp := ⟨pinger, hp, rfl⟩

theorem trans (h : Unbooked e e') (h' : Unbooked e' e'') : Unbooked e e'' where
  toOffstage := h.toOffstage.trans h'.toOffstage
  service := h'.service.trans h.service
  nextPing := h'.nextPing.trans h.nextPing
  pings := h'.pings.trans h.pings
  booked := h'.booked.trans h.booked
  identifiers id pinger hp := by
    obtain ⟨pinger', hp', hsame⟩ := h.identifiers id pinger hp
    obtain ⟨pinger'', hp'', hsame'⟩ := h'.identifiers id pinger' hp'
    exact ⟨pinger'', hp'', hsame'.trans hsame⟩

/-- What goes on where datagrams come in. -/
theorem of_inward (h : Inward e e') : Unbooked e e' := by
  obtain ⟨tasks, hready, hlistens⟩ := h.ready
  have hunbooked : ∀ task ∈ tasks, task.isBooked = false := fun task ht => by
    have hlisten := hlistens task ht
    cases task <;> simp_all [Task.isBooked, Task.isCue, Task.refusal?, Task.listener?]
  have hcue : tasks.filter Task.isCue = [] :=
    List.filter_eq_nil_iff.2 fun task ht hcue => by
      have hbooked := hunbooked task ht
      rw [Task.isBooked, hcue] at hbooked
      cases hbooked
  have hbooked : tasks.filter Task.isBooked = [] :=
    List.filter_eq_nil_iff.2 fun task ht => by simp [hunbooked task ht]
  exact {
    stopped := h.stopped
    endings := h.endings
    output := h.output
    ready := by rw [hready, List.filter_append, hcue, List.append_nil]
    timeline := by rw [h.timeline]
    service := h.service
    nextPing := h.nextPing
    pings := h.pings
    booked := by rw [hready, List.filter_append, hbooked, List.append_nil]
    identifiers := fun id pinger hp => ⟨pinger, by rwa [h.pingers], rfl⟩ }

/-! ## 2. Queues and timeline -/

theorem post {task : Task} (hc : task.isCue = false) (hr : task.refusal?.isSome = false) :
    Unbooked e (e.post task) :=
  { refl e with
    toOffstage := .post hc
    booked := by
      have hbooked : task.isBooked = false := by rw [Task.isBooked, hc, hr]; rfl
      simp [Engine.post, hbooked] }

theorem schedule {time : Time} {item : Happening} (hc : item.isCue = false) :
    Unbooked e (e.schedule time item) :=
  { refl e with timeline := Aside.filter_insertAt hc e.timeline }

/-- A timer that begins no round is cancelled. -/
theorem cancelAlarm {alarm : Alarm} (ha : alarm ≠ .round) : Unbooked e (e.cancelAlarm alarm) := by
  have hcue : (Task.rang alarm .aborted).isCue = false := by cases alarm <;> rfl
  unfold Engine.cancelAlarm
  split
  · refine { refl e with
      ready := by simp [hcue], booked := by simp [Task.isBooked, hcue, Task.refusal?], timeline := ?_ }
    · rw [List.filter_filter]
      refine List.filter_congr fun entry _ => ?_
      by_cases hring : entry.2 = .ring alarm
      · have hitem : (Happening.ring alarm).isCue = false := by
          cases alarm with
          | round => exact absurd rfl ha
          | _ => rfl
        simp [hring, hitem]
      · simp [hring]
  · exact refl e

theorem ringAfter {wait : Time} {alarm : Alarm} (ha : alarm ≠ .round) :
    Unbooked e (e.ringAfter wait alarm) := by
  refine schedule ?_
  cases alarm with
  | round => exact absurd rfl ha
  | _ => rfl

/-- A pinger keeps its identifier. -/
theorem updatePinger (id : PingerId) {change : Pinger → Pinger}
    (hc : ∀ pinger, e.pingers[id]? = some pinger →
      (change pinger).identifier = pinger.identifier) :
    Unbooked e (e.updatePinger id change) := by
  refine { refl e with identifiers := fun other pinger hp => ?_ }
  simp only [Engine.updatePinger, Array.getElem?_modify]
  split
  · next heq =>
    subst heq
    exact ⟨change pinger, by rw [hp, Option.map_some], hc pinger hp⟩
  · exact ⟨pinger, hp, rfl⟩

/-! ## 3. Chores -/

theorem of_chore (h : Chore e e') : Unbooked e e' := by
  cases h with
  | inward h => exact of_inward h
  | @post task e hc hr => exact post hc (by rw [hr]; rfl)
  | deliver time source data => exact schedule rfl
  | later time client code count => exact schedule rfl
  | @cancel alarm e ha => exact cancelAlarm ha
  | sleep limiter wait => exact ringAfter fun h => nomatch h
  | parts => exact { refl e with }
  | pinger identifier timeout => exact updatePinger _ identifier
  | addPinger destination socket mailbox =>
    refine { refl e with identifiers := fun id pinger hp => ⟨pinger, ?_, rfl⟩ }
    exact Array.getElem?_push_of_some hp _

/-- **Chores are nothing to the books.** -/
theorem of_chores (h : Chores e e') : Unbooked e e' := h.lift refl trans of_chore

theorem sweep : Unbooked e e.sweep := of_chores .sweep

end Unbooked

/-! ## 4. Pinging, and what is done from outside -/

/-- **A ping is refused, for its size or because its token is taken, or it is entered; the rest are
chores.** -/
theorem Engine.ping_enters (hp : e.pingers[id]? = some pinger) (sequence : UInt16)
    (caller : Caller) :
    let token : Token := { identifier := pinger.identifier, sequence }
    (∃ fault, e.ping id sequence caller = e.refuse id pinger token caller fault ∧
        (fault = .packetTooLarge ∨ (pinger.call? token).isSome)) ∨
      Chores (e.enterCall id pinger token caller) (e.ping id sequence caller) ∧
        SameCalls (e.enterCall id pinger token caller) (e.ping id sequence caller) := by
  unfold ping
  simp only [hp]
  split
  · next fault hfault =>
    exact .inl ⟨fault, rfl, .inl (encodeRequest_eq_error_iff.1 hfault).2⟩
  · split
    · next htaken => exact .inl ⟨.sequenceInFlight, rfl, .inr htaken⟩
    · exact .inr ⟨(Chores.startReceive id).trans (.submit _ _ _ _),
        (SameCalls.startReceive id).trans (.of_aside (.submit _ _ _ _))⟩

/-- **A ping is noted; then it is refused, or nothing happens that the books are about.** -/
theorem Engine.ping_noted (hp : e.pingers[id]? = some pinger) (sequence : UInt16) (caller : Caller) :
    let noted := e.noteAsked id pinger { identifier := pinger.identifier, sequence } caller
    (∃ fault : PingFault, e.ping id sequence caller
        = noted.post (.noPing id e.nextPing caller fault.code sequence)) ∨
      Unbooked noted (e.ping id sequence caller) := by
  rcases ping_enters hp sequence caller with ⟨fault, hrefused, -⟩ | ⟨hentered, -⟩
  · exact .inl ⟨fault, hrefused⟩
  · let token : Token := { identifier := pinger.identifier, sequence }
    have hinserted : ∀ call : Call, Unbooked (e.noteAsked id pinger token caller)
        ((e.noteAsked id pinger token caller).updatePinger id fun pinger =>
          { pinger with calls := call.insert pinger.calls }) :=
      fun _ => .updatePinger id fun _ _ => rfl
    have hcalled : Unbooked (e.noteAsked id pinger token caller)
        (e.enterCall id pinger token caller) :=
      (hinserted _).trans (.ringAfter fun h => nomatch h)
    exact .inr (hcalled.trans (.of_chores hentered))

namespace Offstage

theorem chores (h : Chores e e') : Offstage e e' := (Unbooked.of_chores h).toOffstage

/-- A ping that is entered or refused: the books change, but nothing on stage does. -/
theorem ping (id : PingerId) (sequence : UInt16) (caller : Caller) :
    Offstage e (e.ping id sequence caller) := by
  cases hp : e.pingers[id]? with
  | none =>
    simp only [Engine.ping, hp]
    exact refl e
  | some pinger =>
    have hnoted : Offstage e
        (e.noteAsked id pinger { identifier := pinger.identifier, sequence } caller) :=
      ⟨rfl, rfl, rfl, rfl, rfl⟩
    rcases Engine.ping_noted hp sequence caller with ⟨fault, hrefused⟩ | hentered
    · rw [hrefused]
      exact hnoted.trans (.post rfl)
    · exact hnoted.trans hentered.toOffstage

/-- **What is done from outside is offstage.** -/
theorem outer (h : Engine.Outer e e') : Offstage e e' := by
  cases h with
  | openSocket settings => exact chores (.openSocket settings)
  | openHub settings => exact chores (.openHub settings)
  | createPinger destination settings => exact chores (.createPinger _ _)
  | register id destination => exact chores (.register _ _)
  | configure hp hg alike receiving => exact ⟨rfl, rfl, rfl, rfl, rfl⟩
  | ping hk sequence caller => exact ping _ _ _
  | closeSocket hraw => exact chores (.closeSocket _)
  | closeHub id =>
    unfold Engine.closeHub
    split
    · exact refl e
    · exact chores ((Chores.inward (.closeRegistrations _ _ _)).trans (.closeSocket _))
  | @releasePinger id hk ht =>
    have hreleased : Unbooked e { e with released := e.released ++ [id] } := { Unbooked.refl e with }
    exact (hreleased.trans .sweep).toOffstage
  | cancelSocket hraw => exact (Unbooked.of_inward (.endReceive _ _)).toOffstage
  | deliver source data => exact (Unbooked.of_inward (.deliver _ _)).toOffstage
  | schedule time source data => exact (Unbooked.schedule rfl).toOffstage
  | failReceives family errno only => exact (Unbooked.of_inward (.failReceives _ _ _)).toOffstage
  | logLevel level => exact ⟨rfl, rfl, rfl, rfl, rfl⟩
  | logAbout address severity message => exact (Unbooked.of_inward (.logAbout _ _ _)).toOffstage
  | serve service => exact ⟨rfl, rfl, rfl, rfl, rfl⟩

theorem outers (h : Engine.Outers e e') : Offstage e e' :=
  h.lift .refl .trans fun _ => outer

end Offstage

end IcmpEcho
