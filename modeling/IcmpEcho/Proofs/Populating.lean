/-
# Configurations that can be used

A document is taken over as a whole or not at all, whether it comes as a tree, as a text or in a
file (`Config.AllOrNothing`).  What is refused leaves the earlier configuration as it was; what is
accepted replaces every value of it, so that the result depends on the document alone.  Where the
line is drawn is not a matter of the order in which members are read: a document is accepted
exactly if some configuration without fault is described by it (`Config.ofJson_eq_ok`).

**A configuration without fault can be used for the sockets of either family**
(`Config.exists_serves`): the one check covers what the settings, the rate limit and the requests
ask for later.  The program checks once more after the command line has had its say, so the
configuration that it runs with is such a one (`CommandLine.configuration_valid`).
-/
import Mathlib
import IcmpEcho.CommandLine.Program
import IcmpEcho.Proofs.Documents

namespace IcmpEcho

namespace Config

/-! ## 1. Documents are taken over whole -/

/-- Taking something over is all or nothing.  It fails, whatever the earlier configuration was and
with that one unchanged, if no configuration without fault is described; otherwise the result is
one that is described, and the earlier configuration has no part in it. -/
def AllOrNothing (described : Config → Prop) (take : Config → Config × Except Failure Unit) :
    Prop :=
  (∃ failure, (∀ earlier, take earlier = (earlier, .error failure)) ∧
      ∀ config, described config → config.validate ≠ .ok ()) ∨
    ∃ config, (∀ earlier, take earlier = (config, .ok ())) ∧
      described config ∧ config.validate = .ok ()

/-- Whatever accepts just what is described without fault can be adopted. -/
theorem AllOrNothing.adopt {described : Config → Prop} {read : Except Failure Config}
    (h : ∀ config, read = .ok config ↔ described config ∧ config.validate = .ok ()) :
    AllOrNothing described fun earlier => earlier.adopt read := by
  cases read with
  | error failure =>
    refine .inl ⟨failure, fun _ => rfl, ?_⟩
    intro config hdescribed hvalid
    cases (h config).mpr ⟨hdescribed, hvalid⟩
  | ok config => exact .inr ⟨config, fun _ => rfl, (h config).mp rfl⟩

theorem ofText_eq_ok {text : Bytes} {config : Config} :
    ofText text = .ok config ↔
      (∃ tree, Json.parse text = .ok tree ∧ Describes tree config) ∧ config.validate = .ok () := by
  unfold ofText
  cases Json.parse text with
  | error fault => simp
  | ok tree => simp [ofJson_eq_ok]

theorem ofFile_eq_ok {path : String} {content : Except Failure Bytes} {config : Config} :
    ofFile path content = .ok config ↔
      (∃ text tree, content = .ok text ∧ Json.parseFirst text = .ok tree ∧
        Describes tree config) ∧ config.validate = .ok () := by
  unfold ofFile
  cases content with
  | error failure => simp
  | ok text =>
    cases hparse : Json.parseFirst text with
    | error fault => cases fault <;> simp [hparse]
    | ok tree => simp [hparse, ofJson_eq_ok]

/-! ## 2. What a configuration without fault is good for -/

/-- Settings that a configuration gives for the sockets of a family, and what is made of them:
a time to live that a datagram has room for, a source address that such a socket can have, a rate
limit that a limiter takes, and requests that are not too large. -/
structure Serves (config : Config) (family : Family) (settings : SocketSettings) : Prop where
  given : config.socketSettings family = .ok settings
  family_eq : settings.family = family
  bindAddress : settings.bindAddress.isUnspecified ∨ settings.bindAddress.family = family
  ttl : 1 ≤ settings.ttl ∧ settings.ttl ≤ 255
  meter : ∀ minWait, ∃ meter, Rate.Meter.new settings.sendLimit minWait = .ok meter
  request : ∀ identifier sequence,
    ∃ packet, encodeRequest family identifier sequence config.ping.size = .ok packet

/-- A source address that is no fault serves its own family and leaves the other one alone. -/
theorem InRange.bindAddressFor {config : Config} (h : config.InRange) (family : Family) :
    ∃ address, config.bindAddressFor family = .ok address ∧
      (address.isUnspecified ∨ address.family = family) := by
  unfold Config.bindAddressFor
  obtain hempty | ⟨address, haddress⟩ := h.bindAddress
  · exact ⟨.any, if_pos hempty, .inl rfl⟩
  · by_cases hempty : config.socket.bindAddress = ""
    · exact ⟨.any, if_pos hempty, .inl rfl⟩
    · by_cases hfamily : address.family = family
      · exact ⟨address, by simp [hempty, haddress, hfamily], .inr hfamily⟩
      · exact ⟨.any, by simp [hempty, haddress, hfamily], .inl rfl⟩

/-- The payload of a request for IPv6 may be the larger one. -/
theorem maxPayload_v4_le (family : Family) : maxPayload .v4 ≤ maxPayload family := by
  cases family <;> decide

theorem exists_encodeRequest {family : Family} {size : Nat} (h : size ≤ maxPayload family)
    (identifier sequence : UInt16) :
    ∃ packet, encodeRequest family identifier sequence size = .ok packet := by
  rw [encodeRequest, if_neg (Nat.not_lt.mpr h)]
  cases family
  · exact ⟨_, rfl⟩
  · exact ⟨_, rfl⟩

/-- **A configuration without fault can be used for the sockets of either family.** -/
theorem exists_serves {config : Config} (hvalid : config.validate = .ok ()) (family : Family) :
    ∃ settings, Serves config family settings := by
  have h := validate_iff_inRange.mp hvalid
  obtain ⟨address, haddress, hfits⟩ := h.bindAddressFor family
  refine ⟨_, map_eq_ok.mpr ⟨address, haddress, rfl⟩, rfl, hfits, h.ttl, ?_, ?_⟩
  · intro minWait
    exact ⟨_, if_neg (Nat.pos_iff_ne_zero.mp h.sendLimit)⟩
  · exact exists_encodeRequest (Nat.le_trans h.size (maxPayload_v4_le family))

end Config

/-! ## 3. The configuration of a run -/

namespace CommandLine

theorem configuration_valid {engine : Engine} {options : Options} {config : Config}
    (h : configuration engine options = .ok config) : config.validate = .ok () := by
  obtain ⟨start, -, h⟩ := bind_eq_ok.mp h
  obtain ⟨⟨⟩, hvalid, ⟨⟩⟩ := bind_eq_ok.mp h
  exact hvalid

end CommandLine

/-! ## 4. Both together -/

namespace Config

/-- **Documents are taken over as a whole or not at all, and what is accepted can be used.**
Trees, texts and files give every value of the configuration or leave all of them; and each
configuration without fault, that of a run among them, serves the sockets of both families. -/
theorem accepted_whole_and_usable :
    (∀ tree, AllOrNothing (Describes tree) fun earlier => earlier.populate tree) ∧
    (∀ text, AllOrNothing (fun config => ∃ tree, Json.parse text = .ok tree ∧ Describes tree config)
      fun earlier => earlier.populateText text) ∧
    (∀ path content,
      AllOrNothing
        (fun config => ∃ text tree, content = .ok text ∧ Json.parseFirst text = .ok tree ∧
          Describes tree config)
        fun earlier => earlier.load path content) ∧
    (∀ config : Config, config.validate = .ok () → ∀ family, ∃ settings,
      Serves config family settings) ∧
    ∀ engine options config, CommandLine.configuration engine options = .ok config →
      config.validate = .ok () ∧ ∀ family, ∃ settings, Serves config family settings := by
  refine ⟨?_, ?_, ?_, ?_, ?_⟩
  · intro tree
    exact AllOrNothing.adopt fun _ => ofJson_eq_ok
  · intro text
    exact AllOrNothing.adopt fun _ => ofText_eq_ok
  · intro path content
    exact AllOrNothing.adopt fun _ => ofFile_eq_ok
  · intro config hvalid family
    exact exists_serves hvalid family
  · intro engine options config h
    have hvalid := CommandLine.configuration_valid h
    exact ⟨hvalid, exists_serves hvalid⟩

/-- A text that gives one value, for a configuration that had others; and the configuration of a
command line that overrides the time to live. -/
theorem accepted_whole_and_usable_once :
    AllOrNothing
        (fun config => ∃ tree, Json.parse "\x7b\"count\":7\x7d".toUTF8.toList = .ok tree ∧
          Describes tree config)
        (fun earlier => earlier.populateText "\x7b\"count\":7\x7d".toUTF8.toList) ∧
      ({ count := 9, interval := 5 } : Config).populateText "\x7b\"count\":7\x7d".toUTF8.toList
        = ({ count := 7 }, .ok ()) ∧
      CommandLine.configuration {} { ttl := some 9 } = .ok { ping := { ttl := 9 } } ∧
      ∃ settings, Serves { ping := { ttl := 9 } } .v6 settings := by
  have hrun : CommandLine.configuration {} { ttl := some 9 } = .ok { ping := { ttl := 9 } } := by
    cbv
  refine ⟨accepted_whole_and_usable.2.1 _, by cbv, hrun, ?_⟩
  exact (accepted_whole_and_usable.2.2.2.2 {} { ttl := some 9 } _ hrun).2 .v6

end Config

end IcmpEcho
