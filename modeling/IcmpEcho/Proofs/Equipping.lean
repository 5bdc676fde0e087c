/-
# How the service is equipped

Opening the service gives each target a pinger of its own, new and with the timeout of the
configuration.  So **no two targets share a pinger**, whatever names they have, and every pinger of
the service waits equally long (`Service.Equipped`).  No timer of a call or a round is set by it.
-/
import IcmpEcho.Proofs.Ebbing
import IcmpEcho.Proofs.ServiceAccounts

namespace IcmpEcho

variable {e : Engine} {service service' : Service} {config : Config} {count : Nat} {timeout : Time}

/-- Each target has a pinger of its own, with the same timeout. -/
structure Service.Equipped (timeout : Time) (service : Service) (e : Engine) : Prop where
  distinct : (service.targets.toList.map Target.pinger).Nodup
  timeouts : ∀ target ∈ service.targets.toList,
    ∃ pinger, e.pingers[target.pinger]? = some pinger ∧ pinger.timeout = timeout

namespace Chores

/-! ## 1. Making a pinger -/

theorem hubFor (service : Service) (family : Family) : Chores e (e.hubFor service family).1 := by
  unfold Engine.hubFor
  dsimp only
  split
  · exact .nil e
  · split
    · exact .nil e
    · next settings _ =>
      have hopened : Chores e (e.openHub settings).1 := .openHub settings
      split
      · next hopen => rwa [hopen] at hopened
      · next hopen => rwa [hopen] at hopened

theorem pingerFor (service : Service) (address : Address) :
    Chores e (e.pingerFor service address).1 := by
  unfold Engine.pingerFor
  split
  · have hhub : Chores e (e.hubFor service address.family).1 := .hubFor _ _
    split
    · next hfailed => rwa [hfailed] at hhub
    · next made service' hub hmade =>
      rw [hmade] at hhub
      have hregistered : Chores made (made.register hub address).1 := .register _ _
      split
      · next hrefused =>
        rw [hrefused] at hregistered
        exact hhub.trans hregistered
      · next hok =>
        rw [hok] at hregistered
        exact hhub.trans hregistered
  · split
    · exact .nil e
    · next settings _ =>
      have hcreated : Chores e (e.createPinger address settings).1 := .createPinger _ _
      split
      · next hfailed => rwa [hfailed] at hcreated
      · next hok => rwa [hok] at hcreated

end Chores

namespace Service.Equipped

/-- A service that is equipped stays so while no pinger changes its timeout. -/
theorem ebbs {e' : Engine} (h : service.Equipped timeout e) (hebbs : Ebbs e e') :
    service.Equipped timeout e' where
  distinct := h.distinct
  timeouts target hmem := by
    obtain ⟨pinger, hp, htimeout⟩ := h.timeouts target hmem
    obtain ⟨pinger', hp', hsame⟩ := hebbs.timeouts _ _ hp
    exact ⟨pinger', hp', hsame.trans htimeout⟩

/-! ## 2. Adding targets -/

/-- **A target gets a new pinger**, with the timeout of the configuration. -/
theorem addTarget (hs : Sound {} e) (hunused : service.Unused config count)
    (h : service.Equipped (config.ping.timeout * 1000000) e) (name : String)
    (hok : (e.addTarget service name).2 = .ok service') :
    service'.Equipped (config.ping.timeout * 1000000) (e.addTarget service name).1 ∧
      Ebbs e (e.addTarget service name).1 := by
  unfold Engine.addTarget at hok ⊢
  split at hok
  · cases hok
  · next address haddress =>
    simp only at hok ⊢
    obtain ⟨-, hmade⟩ := @Moved.pingerFor e 0 hs service (Nat.zero_le _) (fun _ _ => Nat.zero_le _)
      address
    have hchores : Chores e (e.pingerFor service address).1 := .pingerFor service address
    split at hok
    · cases hok
    · next next made id hfor =>
      simp only [hfor] at hok hmade hchores ⊢
      obtain ⟨htargets, -, hid⟩ := hmade made id rfl
      have hconfig : made.config = config :=
        (hunused.pingerFor address (congrArg Prod.snd hfor)).config
      obtain rfl := Except.ok.inj hok
      obtain ⟨pinger, hp, -⟩ := hid.alive
      -- the pinger is new, so those of the other targets keep their timeouts
      have hold : ∀ (other : PingerId) (pinger : Pinger), e.pingers[other]? = some pinger →
          other ≠ id := by
        rintro other pinger hother rfl
        exact Nat.not_lt.2 hid.fresh (Array.getElem?_eq_some_iff.1 hother).1
      let configured := next.updatePinger id (Pinger.configure made.config.ping)
      have hpingers : ∀ other : PingerId, other ≠ id →
          configured.pingers[other]? = next.pingers[other]? := by
        intro other hne
        simp only [configured, Engine.updatePinger, Array.getElem?_modify]
        rw [if_neg (Ne.symm hne)]
      have hconfigured : Ebbs e configured := by
        have hnext := Ebbs.of_chores hchores
        refine { hnext with timeouts := fun other pinger hother => ?_ }
        rw [hpingers other (hold other pinger hother)]
        exact hnext.timeouts other pinger hother
      have hlogged : ∀ message, Ebbs configured (configured.logAbout address .info message) :=
        fun _ => .of_chores (.inward (.logAbout _ _ _))
      refine ⟨Service.Equipped.ebbs ?_ (hlogged _), hconfigured.trans (hlogged _)⟩
      constructor
      · rw [Array.toList_push, List.map_append, htargets]
        refine List.nodup_append.2 ⟨h.distinct, List.nodup_singleton _, ?_⟩
        rintro other hother last hlast rfl
        obtain ⟨target, htarget, rfl⟩ := List.mem_map.1 hother
        obtain ⟨pinger, hp, -⟩ := h.timeouts target htarget
        exact hold _ pinger hp (List.mem_singleton.1 hlast)
      · intro target hmem
        rw [Array.toList_push, htargets] at hmem
        rcases List.mem_append.1 hmem with hmem | hnew
        · obtain ⟨pinger, hp, htimeout⟩ := h.timeouts target hmem
          obtain ⟨pinger', hp', hsame⟩ := hconfigured.timeouts _ _ hp
          exact ⟨pinger', hp', hsame.trans htimeout⟩
        · obtain rfl := List.mem_singleton.1 hnew
          refine ⟨Pinger.configure made.config.ping pinger, ?_, ?_⟩
          · simp only [configured, Engine.updatePinger, Array.getElem?_modify, if_pos, hp,
              Option.map_some]
          · rw [← hconfig]
            rfl

theorem addTargets :
    ∀ (names : List String) {e : Engine} {count : Nat} {service : Service}, Sound {} e →
      e.Remembers → service.Unused config count →
      service.Equipped (config.ping.timeout * 1000000) e →
      (e.addTargets service names).2 = .ok service' →
      service'.Equipped (config.ping.timeout * 1000000) (e.addTargets service names).1 ∧
        Ebbs e (e.addTargets service names).1
  | [], e, _, _, _, _, _, h, hok => by
    obtain rfl := Except.ok.inj hok
    exact ⟨h, .refl e⟩
  | name :: names, e, count, service, hs, hr, hunused, h, hok => by
    obtain ⟨hmoved, -⟩ := @Moved.addTarget e 0 hs hr service (Nat.zero_le _)
      (fun _ _ => Nat.zero_le _) name
    unfold Engine.addTargets at hok ⊢
    split at hok
    · cases hok
    · next next made hadded =>
      have hequipped := h.addTarget hs hunused name (congrArg Prod.snd hadded)
      have hnext := hunused.addTarget name (congrArg Prod.snd hadded)
      simp only [hadded] at hmoved hequipped ⊢
      obtain ⟨hfirst, hebbs⟩ := hequipped
      obtain ⟨hlast, hrest⟩ :=
        addTargets names hmoved.sound (hr.went hmoved.toWent) hnext hfirst hok
      exact ⟨hlast, hebbs.trans hrest⟩

end Service.Equipped

/-- **A service that was opened is equipped.** -/
theorem Engine.openService_equipped (hs : Sound {} e) (hr : e.Remembers)
    (hok : (e.openService config).2 = .ok ())
    (hservice : (e.openService config).1.service = some service) :
    service.Equipped (config.ping.timeout * 1000000) (e.openService config).1 ∧
      Ebbs e (e.openService config).1 := by
  let leveled : Engine := { e with logLevel := config.logLevel }
  have hlevel : Aside e leveled := { Aside.refl e with }
  have hleveled : Ebbs e leveled := .of_same rfl rfl rfl rfl
  unfold openService at hok hservice ⊢
  dsimp only at hok hservice ⊢
  split at hok
  · cases hok
  · next hsome =>
    rw [if_neg hsome] at hservice ⊢
    split at hok
    · cases hok
    · next next made hadded =>
      simp only [hadded] at hservice ⊢
      obtain rfl := Option.some.inj hservice
      have hunused : Service.Unused config 0 { config } :=
        ⟨rfl, rfl, rfl, rfl, rfl, fun _ _ h => nomatch h⟩
      have hempty : Service.Equipped (config.ping.timeout * 1000000) { config } leveled :=
        ⟨List.nodup_nil, fun _ h => nomatch h⟩
      have hequipped := hempty.addTargets config.targets (hs.aside hlevel)
        (hr.went (Moved.of_aside hs hlevel).toWent) hunused (congrArg Prod.snd hadded)
      simp only [leveled, hadded] at hequipped
      obtain ⟨hequipped, hebbs⟩ := hequipped
      have hserved : Ebbs next { next with service := some made } := .of_same rfl rfl rfl rfl
      exact ⟨hequipped.ebbs hserved, hleveled.trans (hebbs.trans hserved)⟩

end IcmpEcho
