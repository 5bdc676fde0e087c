/-
# The service

The service resolves its targets, gives each a pinger, and then pings all of them once in every
round.  It writes a line for each ping that ends, and stops when the last round is due no more and
no ping is outstanding, or when a signal comes.  A summary of every target follows.

Counters are unsigned 32-bit numbers; a count of zero rounds means that only a signal ends the
run.
-/
import IcmpEcho.Engine.Hubs

namespace IcmpEcho

/-! ## 1. What is written -/

/-- A duration in milliseconds, with three places. -/
def millisecondsText (duration : Time) : String :=
  Number.fixed 3 (Number.binary64 (Number.binary64 duration / 1000000))

/-- The part of requests that were not answered, in percent. -/
def lossPercent (transmitted received : UInt32) : UInt32 :=
  if transmitted = 0 then 0 else (transmitted - received) * 100 / transmitted

namespace Target

/-- The target after a reply that took some time. -/
def count (target : Target) (roundTrip : Time) : Target :=
  { target with
    received := target.received + 1
    total := target.total + roundTrip
    shortest := min roundTrip target.shortest
    longest := max target.longest roundTrip }

/-- The line for a ping that ended. -/
def resultLine (target : Target) (code : ErrorCode) (result : PingResult) : String :=
  match code.isError, result.reply with
  | false, some reply =>
    toString reply.size ++ " bytes from " ++ reply.source.toText ++ ": icmp_seq="
      ++ toString result.sequence ++ " ttl=" ++ toString reply.timeToLive ++ " time="
      ++ millisecondsText result.roundTrip ++ " ms"
  | _, _ =>
    if code = PingFault.timeout.code then
      "Request timeout for icmp_seq " ++ toString result.sequence ++ " ("
        ++ target.address.toText ++ ")"
    else
      target.address.toText ++ ": icmp_seq=" ++ toString result.sequence ++ " " ++ code.message

/-- The lines at the end of a run. -/
def summary (target : Target) : List String :=
  ["", "--- " ++ target.name ++ " ping statistics ---",
    toString target.transmitted ++ " packets transmitted, " ++ toString target.received
      ++ " received, " ++ toString (lossPercent target.transmitted target.received)
      ++ "% packet loss"]
    ++ (if target.received = 0 then []
        else
          ["rtt min/avg/max = " ++ millisecondsText target.shortest ++ "/"
            ++ millisecondsText (target.total.tdiv target.received.toNat) ++ "/"
            ++ millisecondsText target.longest ++ " ms"])

end Target

namespace Service

/-- The last round has begun. -/
def roundsBegun (service : Service) : Bool :=
  service.config.count ≠ 0 && service.config.count ≤ service.round

/-- The service after a ping to a target ended. -/
def count (service : Service) (index : Nat) (code : ErrorCode) (result : PingResult) : Service :=
  { service with
    outstanding := service.outstanding - 1
    targets :=
      if code.isError then service.targets
      else service.targets.modify index fun target => target.count result.roundTrip }

end Service

/-- The pinger's options as the configuration gives them. -/
def Pinger.configure (options : PingOptions) (pinger : Pinger) : Pinger :=
  { pinger with
    size := options.size
    timeout := options.timeout * 1000000
    identifier :=
      if 0 ≤ options.ident then UInt16.ofInt options.ident else pinger.identifier }

namespace Engine

/-- Changes the service. -/
def updateService (engine : Engine) (change : Service → Service) : Engine :=
  { engine with service := engine.service.map change }

/-- Writes lines to the service's output. -/
def write (engine : Engine) (lines : List String) : Engine :=
  { engine with output := lines.reverse ++ engine.output }

/-! ## 2. Stopping -/

/-- Stops running tasks. -/
def stop (engine : Engine) : Engine := { engine with stopped := true }

/-- Gives up waiting for a signal. -/
def cancelSignal (engine : Engine) : Engine :=
  if engine.awaitsSignal then
    { engine with awaitsSignal := false }.post (.signalled .aborted 0)
  else engine

/-- Stops the service and everything else. -/
def stopService (engine : Engine) : Engine :=
  ((engine.updateService fun service => { service with stopped := true }).cancelAlarm
    .round).cancelSignal.stop

/-- Stops the service when no round is due and no ping is outstanding. -/
def finishIfIdle (engine : Engine) : Engine :=
  match engine.service with
  | none => engine
  | some service =>
    if service.outstanding = 0 && service.roundsBegun then engine.stopService else engine

/-! ## 3. Rounds -/

/-- Pings one target. -/
def pingTarget (sequence : UInt16) (engine : Engine) (index : Nat) : Engine :=
  match engine.service.bind fun service => service.targets[index]? with
  | none => engine
  | some target =>
    let engine :=
      engine.updateService fun service =>
        { service with
          outstanding := service.outstanding + 1
          targets := service.targets.modify index fun target =>
            { target with transmitted := target.transmitted + 1 } }
    engine.ping target.pinger sequence (.target index)

/-- Begins a round, and sets the timer for the next one if there is to be one. -/
def startRound (engine : Engine) : Engine :=
  match engine.service with
  | none => engine
  | some service =>
    if service.stopped then engine
    else
      let sequence := service.round.toUInt16
      let engine := (List.range service.targets.size).foldl (pingTarget sequence) engine
      let next := { service with round := service.round + 1 }
      let engine := engine.updateService fun service => { service with round := next.round }
      if next.roundsBegun then engine
      else engine.setAlarm .round (service.config.interval * 1000000)

/-- A ping to a target ended. -/
def targetAnswered (engine : Engine) (index : Nat) (code : ErrorCode) (result : PingResult) :
    Engine :=
  match engine.service.bind fun service => service.targets[index]? with
  | none => engine
  | some target =>
    ((engine.updateService fun service => service.count index code result).write
      [target.resultLine code result]).finishIfIdle

/-! ## 4. Beginning and end -/

/-- The hub for a family, made when it is first needed. -/
def hubFor (engine : Engine) (service : Service) (family : Family) :
    Engine × Except Failure (Service × HubId) :=
  let known :=
    match family with
    | .v4 => service.hubV4
    | .v6 => service.hubV6
  match known with
  | some hub => (engine, .ok (service, hub))
  | none =>
    match service.config.socketSettings family with
    | .error failure => (engine, .error failure)
    | .ok settings =>
      match engine.openHub settings with
      | (engine, .error failure) => (engine, .error failure)
      | (engine, .ok hub) =>
        let service :=
          match family with
          | .v4 => { service with hubV4 := some hub }
          | .v6 => { service with hubV6 := some hub }
        (engine, .ok (service, hub))

/-- The pinger for a target: registered with the hub of its family, or with a socket of its
own. -/
def pingerFor (engine : Engine) (service : Service) (address : Address) :
    Engine × Except Failure (Service × PingerId) :=
  if service.config.sharedSocket then
    match engine.hubFor service address.family with
    | (engine, .error failure) => (engine, .error failure)
    | (engine, .ok (service, hub)) =>
      match engine.register hub address with
      | (engine, .error failure) => (engine, .error failure)
      | (engine, .ok pinger) => (engine, .ok (service, pinger))
  else
    match service.config.socketSettings address.family with
    | .error failure => (engine, .error failure)
    | .ok settings =>
      match engine.createPinger address settings with
      | (engine, .error failure) => (engine, .error failure)
      | (engine, .ok pinger) => (engine, .ok (service, pinger))

/-- Resolves one target and makes its pinger. -/
def addTarget (engine : Engine) (service : Service) (name : String) :
    Engine × Except Failure Service :=
  match engine.network.resolve name with
  | .error failure => (engine, .error failure)
  | .ok address =>
    match engine.pingerFor service address with
    | (engine, .error failure) => (engine, .error failure)
    | (engine, .ok (service, id)) =>
      let engine := engine.updatePinger id (Pinger.configure service.config.ping)
      let identifier :=
        match engine.pingers[id]? with
        | some pinger => pinger.identifier
        | none => 0
      let engine :=
        engine.logAbout address .info
          ("target " ++ name ++ " ready, identifier " ++ toString identifier)
      (engine,
        .ok { service with targets := service.targets.push { name, address, pinger := id } })

/-- Resolves targets one after another. -/
def addTargets (engine : Engine) (service : Service) :
    List String → Engine × Except Failure Service
  | [] => (engine, .ok service)
  | name :: rest =>
    match engine.addTarget service name with
    | (engine, .error failure) => (engine, .error failure)
    | (engine, .ok service) => engine.addTargets service rest

/-- Makes the service that a configuration describes. -/
def openService (engine : Engine) (config : Config) : Engine × Except Failure Unit :=
  let engine := { engine with logLevel := config.logLevel }
  if config.targets.isEmpty then (engine, .error .noTarget)
  else
    match engine.addTargets { config } config.targets with
    | (engine, .error failure) => (engine, .error failure)
    | (engine, .ok service) => ({ engine with service := some service }, .ok ())

/-- Begins the run of the service. -/
def startService (engine : Engine) : Engine :=
  let engine := { engine with awaitsSignal := true }
  let targets := (engine.service.map fun service => service.targets.size).getD 0
  (engine.logDated .warn
    ("pingmux service started with " ++ toString targets ++ " target(s)")).startRound

/-- Ends the run of the service with its summary. -/
def endService (engine : Engine) : Engine :=
  let targets := (engine.service.map fun service => service.targets.toList).getD []
  (engine.write (targets.flatMap Target.summary)).logDated .warn "pingmux service stopped"

/-- A signal has come, or nobody waits for one any more. -/
def signalled (engine : Engine) (code : ErrorCode) (number : Int) : Engine :=
  if code.isError then engine
  else (engine.logDated .warn ("got signal: " ++ toString number)).stopService

end Engine

end IcmpEcho
