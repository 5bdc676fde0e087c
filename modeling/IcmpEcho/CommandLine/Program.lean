/-
# The program

A run of the program in an engine: the command line is read, help and version are told, the
configuration is loaded and overridden from the command line, and the service is run.  Whatever
is refused on the way is logged, and the exit status tells of it.
-/
import IcmpEcho.CommandLine.Options
import IcmpEcho.Config.Document
import IcmpEcho.Engine.Running

namespace IcmpEcho.CommandLine

/-- The version of the program. -/
def version : String := "1.0.0"

/-- The name of the program. -/
def programName : String := "pingmux"

def usage : String :=
  "usage: " ++ programName ++ " [-hv] [-c CONFIG] [-l LOG] [options] [target...]"

/-- What is told about the version. -/
def versionLines : List String :=
  [programName ++ " " ++ version, "Boost 1_66, nlohmann/json 3.2.0",
    " [Enabled] Interface Binding Support"]

/-! ## 1. The configuration of a run -/

/-- A configuration with what the command line says in place of its own values. -/
def Options.override (options : Options) (config : Config) : Config :=
  { config with
    targets := if options.targets.isEmpty then config.targets else options.targets
    count := options.count.getD config.count
    interval := options.interval.getD config.interval
    sharedSocket := config.sharedSocket && !options.single
    ping :=
      { config.ping with
        size := options.size.getD config.ping.size
        timeout := options.timeout.getD config.ping.timeout
        ttl := options.ttl.getD config.ping.ttl }
    socket :=
      { config.socket with
        device := options.device.getD config.socket.device
        bindAddress := options.bind.getD config.socket.bindAddress
        sendLimit := options.rate.getD config.socket.sendLimit } }

/-- The configuration that the command line starts from: that of the file it names, or a fresh
one. -/
def loaded (engine : Engine) (options : Options) : Except Failure Config :=
  match options.config with
  | none => .ok {}
  | some path =>
    let (config, outcome) :=
      ({} : Config).load path ((engine.read path).map fun text => text.toUTF8.toList)
    outcome.map fun _ => config

/-- The configuration that file and command line give, if it is acceptable. -/
def configuration (engine : Engine) (options : Options) : Except Failure Config := do
  let config := options.override (← loaded engine options)
  config.validate
  return config

/-! ## 2. A run -/

/-- Runs the service that a configuration describes. -/
def serve (engine : Engine) (config : Config) : Engine × Except Failure Unit :=
  let engine := engine.logDated .info ("Welcome to " ++ programName ++ " " ++ version)
  match engine.openService config with
  | (engine, .error failure) => (engine, .error failure)
  | (engine, .ok ()) => (engine.serve.stopLog, .ok ())

/-- Logs to the file that the command line names. -/
def openLog (engine : Engine) (options : Options) : Except Failure Engine :=
  match options.log with
  | none => .ok engine
  | some path => engine.redirectLog path

/-- Does what the command line says. -/
def obey (engine : Engine) (options : Options) : Engine × Except Failure Unit :=
  if options.help then (engine.log .fatal usage, .ok ())
  else if options.version then
    (versionLines.foldl (fun engine line => engine.log .fatal line) engine, .ok ())
  else
    match openLog engine options with
    | .error failure => (engine, .error failure)
    | .ok engine =>
      match configuration engine options with
      | .error failure => (engine, .error failure)
      | .ok config => serve engine config

/-- Reads the words of the command line and does what they say. -/
def attempt (engine : Engine) (words : List String) : Engine × Except Failure Unit :=
  match Options.ofWords words with
  | .error fault => (engine, .error (.option fault))
  | .ok options => obey engine options

/-- A run of the program: the engine after it, and the exit status. -/
def run (engine : Engine) (words : List String) : Engine × Nat :=
  match attempt engine words with
  | (engine, .ok ()) => (engine, 0)
  | (engine, .error failure) =>
    let engine := engine.logDated .fatal ("fatal: " ++ failure.message)
    ((engine.logDated .fatal "exiting. . . ").stopLog, 1)

end IcmpEcho.CommandLine
