/-
# The receive loop of a hub

A hub that runs has one receive outstanding, at its own socket, and a hub that does not run has
none: so two loops never run at once.  As long as its socket works, a hub runs exactly while it
has registrations.  **Once the socket has failed, the registrations are gone for good**, and a
loop that has stopped does not start again.

All of it holds in every reachable session, whatever the order in which tasks are performed and
items of the timeline happen (`Session.hub_loop`).
-/
import IcmpEcho.Proofs.Runs

namespace IcmpEcho.Session

variable {s s' : Session} {id : HubId} {hub : Hub}

/-! ## 1. One session -/

namespace Sound

/-- What is outstanding for a hub is what its flag says. -/
theorem outstanding_hub (hs : s.Sound) (hh : s.engine.hubs[id]? = some hub) :
    s.engine.outstanding (.hub id) = if hub.running then 1 else 0 := by
  have hlistens : s.engine.listens? (.hub id) = some hub.running := by
    simp only [Engine.listens?, hh, Option.map_some]
  simpa using hs.engine.counted.exact (.hub id) hub.running hlistens

/-- A hub receives at its own socket only. -/
theorem waits_at_socket (hs : s.Sound) (hh : s.engine.hubs[id]? = some hub) {port : Port}
    (hw : s.engine.waiter? port = some (.hub id)) : port = .socket hub.socket := by
  have hfits : s.engine.port? (.hub id) = some port := hs.engine.wired.waits port (.hub id) hw
  have hport : s.engine.port? (.hub id) = some (.socket hub.socket) := by
    simp only [Engine.port?, hh, Option.map_some]
  exact Option.some.inj (hfits.symm.trans hport)

/-- A hub whose socket works runs exactly while it has registrations. -/
theorem running_iff (hs : s.Sound) (hh : s.engine.hubs[id]? = some hub)
    (hworks : (s.engine.fatalOf hub.socket).isError = false) :
    hub.running = true ↔ hub.registry ≠ [] := by
  have hsettled := hs.engine.settled (.hub id) (by simp) hub hh
  simpa [hworks] using hsettled

/-- A hub whose socket has failed has no registrations. -/
theorem registry_eq_nil (hs : s.Sound) (hh : s.engine.hubs[id]? = some hub)
    (hfailed : (s.engine.fatalOf hub.socket).isError) : hub.registry = [] := by
  have hsettled := hs.engine.settled (.hub id) (by simp) hub hh
  rwa [if_pos hfailed] at hsettled

end Sound

/-! ## 2. All later sessions -/

/-- A socket of a hub that has failed stays failed, and the hub does not start again. -/
theorem Leads.failed_hub (h : Leads s s') (hs : s.Sound) (hh : s.engine.hubs[id]? = some hub)
    (hfailed : (s.engine.fatalOf hub.socket).isError) :
    ∃ hub', s'.engine.hubs[id]? = some hub' ∧ hub'.socket = hub.socket ∧
      s'.engine.fatalOf hub.socket = s.engine.fatalOf hub.socket ∧ hub'.registry = [] ∧
      (hub'.running = true → hub.running = true) := by
  obtain ⟨hub', hh', hsocket, hrunning⟩ := h.onward.hubs id hub hh
  have hport : s.engine.port? (.hub id) = some (.socket hub.socket) := by
    simp only [Engine.port?, hh, Option.map_some]
  have hfatal := h.onward.fatal hub.socket (hs.engine.wired.valid _ _ hport) hfailed
  refine ⟨hub', hh', hsocket, hfatal, h.sound.registry_eq_nil hh' ?_, hrunning hfailed⟩
  rwa [hsocket, hfatal]

/-- **The receive loop of a hub.** It has one receive outstanding while it runs and none while it
is stopped; while its socket works it runs exactly when something is registered; and after the
socket has failed nothing is ever registered and the loop is never started. -/
theorem hub_loop (hr : Reachable s) (hh : s.engine.hubs[id]? = some hub) :
    (s.engine.outstanding (.hub id) = (if hub.running then 1 else 0) ∧
      ∀ port, s.engine.waiter? port = some (.hub id) → port = .socket hub.socket) ∧
    ((s.engine.fatalOf hub.socket).isError = false → (hub.running = true ↔ hub.registry ≠ [])) ∧
    ((s.engine.fatalOf hub.socket).isError → ∀ past s', Run s past s' →
      ∃ hub', s'.engine.hubs[id]? = some hub' ∧ hub'.socket = hub.socket ∧
        s'.engine.fatalOf hub.socket = s.engine.fatalOf hub.socket ∧ hub'.registry = [] ∧
        (hub'.running = true → hub.running = true)) := by
  have hs := hr.sound
  refine ⟨⟨hs.outstanding_hub hh, fun port hw => hs.waits_at_socket hh hw⟩, hs.running_iff hh,
    fun hfailed past s' hrun => ?_⟩
  exact (hrun.leads hs).failed_hub hs hh hfailed

/-- A hub waits for nothing until something is registered with it. -/
theorem hub_loop_of_one_registration :
    let opened := ((fresh {} 1 none [] []).perform (.openHub "hub" { family := .v4 })).1
    let registered := (opened.perform (.register "pinger" "hub" (.ofOctets 10 0 0 1))).1
    opened.engine.outstanding (.hub 0) = 0 ∧ registered.engine.outstanding (.hub 0) = 1 := by
  intro opened registered
  have hopened : Reachable opened := (Reachable.fresh _ _ _ _ _).perform _
  have hregistered : Reachable registered := hopened.perform _
  have hidle : opened.engine.hubs[0]? = some { socket := 0 } := by rfl
  have hbusy : registered.engine.hubs[0]?
      = some { socket := 0, registry := [(.ofOctets 10 0 0 1, 0)], running := true } := by rfl
  exact ⟨(hub_loop hopened hidle).1.1, (hub_loop hregistered hbusy).1.1⟩

end IcmpEcho.Session
