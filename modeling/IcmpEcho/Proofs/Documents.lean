/-
# What a document says

`Config.ofJson` reads the members of a document one after another and gives up at the first that
it cannot convert.  `Config.Describes` says the same without an order: every value of the
configuration is converted from the place where the document has it, or it is the default, and
the defaults are those of a fresh configuration.

**A document is accepted exactly if it describes a configuration without fault, and gives that
one** (`Config.ofJson_eq_ok`).  A reader of members goes through `Json.memberOr`, and of that
`Json.memberOr_eq_ok` is all that is used; the places of the inner objects, which may be left out
as a whole, are put together by `Json.holds_subtree`.
-/
import IcmpEcho.Config.Document

namespace IcmpEcho

/-! ## 1. Steps that may fail -/

section Steps

variable {ε α β : Type}

theorem bind_eq_ok {step : Except ε α} {next : α → Except ε β} {b : β} :
    (step >>= next) = .ok b ↔ ∃ a, step = .ok a ∧ next a = .ok b := by
  cases step with
  | error e =>
    constructor
    · intro h
      cases h
    · rintro ⟨a, h, -⟩
      cases h
  | ok a =>
    constructor
    · intro h
      exact ⟨a, rfl, h⟩
    · rintro ⟨a', h, hnext⟩
      cases h
      exact hnext

theorem map_eq_ok {step : Except ε α} {f : α → β} {b : β} :
    step.map f = .ok b ↔ ∃ a, step = .ok a ∧ f a = b := by
  cases step with
  | error e => simp [Except.map]
  | ok a => simp [Except.map]

end Steps

/-! ## 2. Places in a document -/

namespace Json

/-- The value is an object. -/
def IsObject (value : Json) : Prop := ∃ members, value = .object members

/-- The value at a place, the names of the members on the way to it. -/
def at? : Json → List String → Option Json
  | value, [] => some value
  | .object members, name :: path => (lastNamed name members).bind fun found => found.at? path
  | _, _ :: _ => none

@[simp] theorem at?_nil (value : Json) : value.at? [] = some value := by cases value <;> rfl

@[simp] theorem at?_object (members : List (String × Json)) (name : String) (path : List String) :
    (object members).at? (name :: path)
      = (lastNamed name members).bind fun found => found.at? path := rfl

/-- A document has this value at a place: the converted one that stands there, or the default if
nothing does. -/
def Holds {α : Type} (tree : Json) (path : List String) (convert : Json → Except JsonFault α)
    (default value : α) : Prop :=
  match tree.at? path with
  | none => value = default
  | some found => convert found = .ok value

variable {α : Type} {tree sub : Json} {name : String} {convert : Json → Except JsonFault α}
  {default value : α}

theorem Holds.convert_eq {path : List String} {found : Json}
    (h : tree.Holds path convert default value) (hfound : tree.at? path = some found) :
    convert found = .ok value := by
  unfold Holds at h
  rwa [hfound] at h

/-- **Reading a member.**  Only an object can be asked; the answer is what the object holds. -/
theorem memberOr_eq_ok :
    tree.memberOr name convert default = .ok value ↔
      tree.IsObject ∧ tree.Holds [name] convert default value := by
  constructor
  · intro h
    cases tree with
    | object members =>
      refine ⟨⟨members, rfl⟩, ?_⟩
      unfold Holds
      simp only [memberOr, member] at h
      cases hfound : lastNamed name members with
      | none =>
        simp only [hfound, Except.ok.injEq] at h
        simp [hfound, h]
      | some found =>
        simp only [hfound] at h
        simp [hfound, h]
    | _ => simp [memberOr, member] at h
  · rintro ⟨⟨members, rfl⟩, h⟩
    unfold Holds at h
    simp only [memberOr, member]
    cases hfound : lastNamed name members with
    | none =>
      simp only [at?_object, hfound, Option.bind_none] at h
      rw [h]
    | some found => simpa [hfound] using h

/-- Nothing stands inside a member that is left out. -/
theorem at?_of_absent (h : tree.at? [name] = none) (path : List String) :
    tree.at? (name :: path) = none := by
  cases tree with
  | object members =>
    cases hfound : lastNamed name members with
    | none => simp [hfound]
    | some found => simp [hfound] at h
  | _ => rfl

theorem at?_of_present (h : tree.at? [name] = some sub) (path : List String) :
    tree.at? (name :: path) = sub.at? path := by
  cases tree with
  | object members =>
    cases hfound : lastNamed name members with
    | none => simp [hfound] at h
    | some found =>
      simp only [at?_object, hfound, Option.bind_some, at?_nil, Option.some.injEq] at h
      simp [hfound, h]
  | _ => cases h

/-- An object inside the document: the one that stands there, or one without members. -/
def HasObject (tree : Json) (name : String) : Prop :=
  ∀ found, tree.at? [name] = some found → found.IsObject

/-- **Places inside an object of the document** are places in the document. -/
theorem holds_subtree (h : Config.subtree tree name = .ok sub) (key : String) :
    sub.Holds [key] convert default value ↔ tree.Holds [name, key] convert default value := by
  obtain ⟨-, hsub⟩ := memberOr_eq_ok.mp h
  unfold Holds at hsub ⊢
  cases hfound : tree.at? [name] with
  | none =>
    rw [hfound] at hsub
    rw [hsub, at?_of_absent hfound]
    rfl
  | some found =>
    rw [hfound] at hsub
    cases hsub
    rw [at?_of_present hfound]

/-- The object inside a document can be had, and its members be asked for. -/
theorem subtree_isObject (htree : tree.IsObject) :
    (∃ sub, Config.subtree tree name = .ok sub ∧ sub.IsObject) ↔ tree.HasObject name := by
  constructor
  · rintro ⟨sub, hsub, hobject⟩ found hfound
    obtain ⟨-, hholds⟩ := memberOr_eq_ok.mp hsub
    unfold Holds at hholds
    rw [hfound] at hholds
    cases hholds
    exact hobject
  · intro h
    cases hfound : tree.at? [name] with
    | none => exact ⟨.object [], memberOr_eq_ok.mpr ⟨htree, by simp [Holds, hfound]⟩, [], rfl⟩
    | some found =>
      exact ⟨found, memberOr_eq_ok.mpr ⟨htree, by simp [Holds, hfound]⟩, h found hfound⟩

end Json

/-! ## 3. The configuration a document describes -/

namespace Config

open Json (toInt32 toUInt32 toSize toBool toText toTexts)

/-- A document describes a configuration: it is an object, so are the two parts of it that have
members of their own, and every value is the one it holds. -/
structure Describes (tree : Json) (config : Config) : Prop where
  root : tree.IsObject
  pingObject : tree.HasObject "ping"
  socketObject : tree.HasObject "socket"
  logLevel : tree.Holds ["log_level"] toInt32 ({} : Config).logLevel config.logLevel
  targets : tree.Holds ["targets"] toTexts ({} : Config).targets config.targets
  count : tree.Holds ["count"] toUInt32 ({} : Config).count config.count
  interval : tree.Holds ["interval"] toInt32 ({} : Config).interval config.interval
  sharedSocket : tree.Holds ["shared_socket"] toBool ({} : Config).sharedSocket config.sharedSocket
  size : tree.Holds ["ping", "size"] toSize ({} : Config).ping.size config.ping.size
  timeout : tree.Holds ["ping", "timeout"] toInt32 ({} : Config).ping.timeout config.ping.timeout
  ttl : tree.Holds ["ping", "ttl"] toInt32 ({} : Config).ping.ttl config.ping.ttl
  ident : tree.Holds ["ping", "ident"] toInt32 ({} : Config).ping.ident config.ping.ident
  device : tree.Holds ["socket", "interface"] toText ({} : Config).socket.device
    config.socket.device
  bindAddress : tree.Holds ["socket", "bind_address"] toText ({} : Config).socket.bindAddress
    config.socket.bindAddress
  sendLimit : tree.Holds ["socket", "send_limit_pps"] toSize ({} : Config).socket.sendLimit
    config.socket.sendLimit
  sendBuffer : tree.Holds ["socket", "send_buffer_size"] toInt32 ({} : Config).socket.sendBuffer
    config.socket.sendBuffer
  receiveBuffer : tree.Holds ["socket", "recv_buffer_size"] toInt32
    ({} : Config).socket.receiveBuffer config.socket.receiveBuffer

variable {tree : Json}

theorem pingOptions_eq_ok {options : PingOptions} :
    pingOptions tree = .ok options ↔
      tree.IsObject ∧ tree.Holds ["size"] toSize 56 options.size ∧
        tree.Holds ["timeout"] toInt32 2000 options.timeout ∧
        tree.Holds ["ttl"] toInt32 64 options.ttl ∧
        tree.Holds ["ident"] toInt32 (-1) options.ident := by
  simp only [pingOptions, bind_eq_ok, Json.memberOr_eq_ok, pure, Except.pure, Except.ok.injEq]
  constructor
  · rintro ⟨size, ⟨hroot, hsize⟩, timeout, ⟨-, htimeout⟩, ttl, ⟨-, httl⟩, ident, ⟨-, hident⟩, rfl⟩
    exact ⟨hroot, hsize, htimeout, httl, hident⟩
  · rintro ⟨hroot, hsize, htimeout, httl, hident⟩
    exact ⟨_, ⟨hroot, hsize⟩, _, ⟨hroot, htimeout⟩, _, ⟨hroot, httl⟩, _, ⟨hroot, hident⟩, rfl⟩

theorem socketOptions_eq_ok {options : SocketOptions} :
    socketOptions tree = .ok options ↔
      tree.IsObject ∧ tree.Holds ["interface"] toText "" options.device ∧
        tree.Holds ["bind_address"] toText "" options.bindAddress ∧
        tree.Holds ["send_limit_pps"] toSize Rate.defaultLimit options.sendLimit ∧
        tree.Holds ["send_buffer_size"] toInt32 0 options.sendBuffer ∧
        tree.Holds ["recv_buffer_size"] toInt32 0 options.receiveBuffer := by
  simp only [socketOptions, bind_eq_ok, Json.memberOr_eq_ok, pure, Except.pure, Except.ok.injEq]
  constructor
  · rintro ⟨device, ⟨hroot, hdevice⟩, bind, ⟨-, hbind⟩, limit, ⟨-, hlimit⟩, sent, ⟨-, hsent⟩,
      received, ⟨-, hreceived⟩, rfl⟩
    exact ⟨hroot, hdevice, hbind, hlimit, hsent, hreceived⟩
  · rintro ⟨hroot, hdevice, hbind, hlimit, hsent, hreceived⟩
    exact ⟨_, ⟨hroot, hdevice⟩, _, ⟨hroot, hbind⟩, _, ⟨hroot, hlimit⟩, _, ⟨hroot, hsent⟩, _,
      ⟨hroot, hreceived⟩, rfl⟩

/-- The log level and the members read after it make up the whole of a description. -/
theorem describes_iff {config : Config} :
    Describes tree config ↔
      tree.memberOr "log_level" toInt32 1 = .ok config.logLevel ∧
        remainder tree config.logLevel = .ok config := by
  simp only [remainder, bind_eq_ok, Json.memberOr_eq_ok, pure, Except.pure, Except.ok.injEq]
  constructor
  · intro h
    obtain ⟨ping, hping, hpingObject⟩ := (Json.subtree_isObject h.root).mpr h.pingObject
    obtain ⟨socket, hsocket, hsocketObject⟩ := (Json.subtree_isObject h.root).mpr h.socketObject
    have hpingOptions : pingOptions ping = .ok config.ping :=
      pingOptions_eq_ok.mpr ⟨hpingObject, (Json.holds_subtree hping _).mpr h.size,
        (Json.holds_subtree hping _).mpr h.timeout, (Json.holds_subtree hping _).mpr h.ttl,
        (Json.holds_subtree hping _).mpr h.ident⟩
    have hsocketOptions : socketOptions socket = .ok config.socket :=
      socketOptions_eq_ok.mpr ⟨hsocketObject, (Json.holds_subtree hsocket _).mpr h.device,
        (Json.holds_subtree hsocket _).mpr h.bindAddress,
        (Json.holds_subtree hsocket _).mpr h.sendLimit,
        (Json.holds_subtree hsocket _).mpr h.sendBuffer,
        (Json.holds_subtree hsocket _).mpr h.receiveBuffer⟩
    exact ⟨⟨h.root, h.logLevel⟩, _, ⟨h.root, h.targets⟩, _, ⟨h.root, h.count⟩, _,
      ⟨h.root, h.interval⟩, _, ⟨h.root, h.sharedSocket⟩, ping, hping, _, hpingOptions, socket,
      hsocket, _, hsocketOptions, rfl⟩
  · rintro ⟨⟨hroot, hlogLevel⟩, targets, ⟨-, htargets⟩, count, ⟨-, hcount⟩, interval,
      ⟨-, hinterval⟩, shared, ⟨-, hshared⟩, ping, hping, pingValues, hpingOptions, socket,
      hsocket, socketValues, hsocketOptions, hconfig⟩
    obtain ⟨hpingObject, hsize, htimeout, httl, hident⟩ := pingOptions_eq_ok.mp hpingOptions
    obtain ⟨hsocketObject, hdevice, hbind, hlimit, hsent, hreceived⟩ :=
      socketOptions_eq_ok.mp hsocketOptions
    rw [← hconfig]
    rw [← hconfig] at hlogLevel
    exact
      { root := hroot
        pingObject := (Json.subtree_isObject hroot).mp ⟨ping, hping, hpingObject⟩
        socketObject := (Json.subtree_isObject hroot).mp ⟨socket, hsocket, hsocketObject⟩
        logLevel := hlogLevel
        targets := htargets
        count := hcount
        interval := hinterval
        sharedSocket := hshared
        size := (Json.holds_subtree hping _).mp hsize
        timeout := (Json.holds_subtree hping _).mp htimeout
        ttl := (Json.holds_subtree hping _).mp httl
        ident := (Json.holds_subtree hping _).mp hident
        device := (Json.holds_subtree hsocket _).mp hdevice
        bindAddress := (Json.holds_subtree hsocket _).mp hbind
        sendLimit := (Json.holds_subtree hsocket _).mp hlimit
        sendBuffer := (Json.holds_subtree hsocket _).mp hsent
        receiveBuffer := (Json.holds_subtree hsocket _).mp hreceived }

/-! ## 4. Documents that are accepted -/

theorem validate_eq_ok {config : Config} : config.validate = .ok () ↔ config.firstFault? = none := by
  unfold validate
  cases config.firstFault? <;> simp

/-- Every value of a configuration is in its range, and what is to be an address is one. -/
structure InRange (config : Config) : Prop where
  logLevel : 0 ≤ config.logLevel ∧ config.logLevel ≤ 5
  interval : 0 < config.interval
  size : config.ping.size ≤ maxPayload .v4
  timeout : 0 < config.ping.timeout
  ttl : 1 ≤ config.ping.ttl ∧ config.ping.ttl ≤ 255
  ident : -1 ≤ config.ping.ident ∧ config.ping.ident ≤ 65535
  sendLimit : 0 < config.socket.sendLimit
  sendBuffer : 0 ≤ config.socket.sendBuffer
  receiveBuffer : 0 ≤ config.socket.receiveBuffer
  bindAddress : config.socket.bindAddress = "" ∨
    ∃ address, Address.parse? config.socket.bindAddress = some address

theorem noFault_iff {wrong : Prop} [Decidable wrong] {fault : ConfigFault}
    {rest : Option ConfigFault} :
    (if wrong then some fault else rest) = none ↔ ¬wrong ∧ rest = none := by
  split <;> simp [*]

/-- **A configuration is accepted exactly if its values are in range.** -/
theorem validate_iff_inRange {config : Config} : config.validate = .ok () ↔ config.InRange := by
  rw [validate_eq_ok]
  simp only [firstFault?, noFault_iff]
  constructor
  · rintro ⟨hlogLevel, hinterval, hsize, htimeout, httl, hident, hlimit, hbuffers, hbind, -⟩
    exact
      { logLevel := by omega
        interval := by omega
        size := by omega
        timeout := by omega
        ttl := by omega
        ident := by omega
        sendLimit := by omega
        sendBuffer := by omega
        receiveBuffer := by omega
        bindAddress := by
          rw [not_and] at hbind
          by_cases hempty : config.socket.bindAddress = ""
          · exact .inl hempty
          · exact .inr (Option.ne_none_iff_exists'.mp (hbind hempty)) }
  · intro h
    have ⟨hlogLevel, hinterval, hsize, htimeout, httl, hident, hlimit, hsent, hreceived, hbind⟩ := h
    refine ⟨by omega, by omega, by omega, by omega, by omega, by omega, by omega, by omega, ?_, trivial⟩
    rintro ⟨hgiven, hnone⟩
    obtain hempty | ⟨address, haddress⟩ := hbind
    · exact hgiven hempty
    · rw [hnone] at haddress
      cases haddress

/-- The members after the log level are read for any log level. -/
theorem remainder_logLevel {logLevel : Int} {config : Config}
    (h : remainder tree logLevel = .ok config) : config.logLevel = logLevel := by
  simp only [remainder, bind_eq_ok, pure, Except.pure, Except.ok.injEq] at h
  obtain ⟨targets, -, count, -, interval, -, shared, -, ping, -, pingValues, -, socket, -,
    socketValues, -, hconfig⟩ := h
  rw [← hconfig]

/-- **A document is accepted exactly if it describes a configuration without fault**, and gives
that one. -/
theorem ofJson_eq_ok {config : Config} :
    ofJson tree = .ok config ↔ Describes tree config ∧ config.validate = .ok () := by
  rw [describes_iff]
  unfold ofJson
  constructor
  · intro h
    split at h
    · cases h
    · next logLevel hlogLevel =>
      split at h
      · cases h
      · split at h
        · cases h
        · next read hread =>
          obtain ⟨⟨⟩, hvalid, rfl⟩ := map_eq_ok.mp h
          rw [remainder_logLevel hread]
          exact ⟨⟨hlogLevel, hread⟩, hvalid⟩
  · rintro ⟨⟨hlogLevel, hread⟩, hvalid⟩
    have hrange : ¬(config.logLevel < 0 ∨ 5 < config.logLevel) := by
      have := (validate_iff_inRange.mp hvalid).logLevel
      omega
    simp only [hlogLevel, hrange, if_false, hread]
    exact map_eq_ok.mpr ⟨(), hvalid, rfl⟩

end Config

end IcmpEcho
