/-
# Log lines

A line is logged when its severity is at least the engine's log level.  It goes to standard error
and, while there is a log file, to the end of that file too.  A dated line starts with the wall
clock and the name of its severity.
-/
import IcmpEcho.Address.Text
import IcmpEcho.Engine.Files

namespace IcmpEcho

/-- How much a log line matters. -/
inductive Severity
  | all
  | info
  | warn
  | error
  | fatal
  | off
  deriving DecidableEq, Repr

namespace Severity

/-- The rank that is compared with the log level. -/
def rank : Severity → Int
  | all => 0
  | info => 1
  | warn => 2
  | error => 3
  | fatal => 4
  | off => 5

/-- The name in a dated line. -/
def name : Severity → String
  | all => "ALL"
  | info => "INFO"
  | warn => "WARN"
  | error => "ERROR"
  | fatal => "FATAL"
  | off => "OFF"

end Severity

namespace Engine

/-! ## 1. Lines -/

/-- Logs a line. -/
def log (engine : Engine) (severity : Severity) (message : String) : Engine :=
  if severity.rank < engine.logLevel then engine
  else
    let engine := engine.record (.log message)
    match engine.logFile with
    | none => engine
    | some name => engine.append name (message ++ "\n")

/-- The wall clock in front of a dated line. -/
def dated (engine : Engine) (severity : Severity) (message : String) : String :=
  "[" ++ Calendar.stamp (engine.now / 1000000000) ++ "] [" ++ severity.name ++ "] " ++ message

/-- Logs a line with date and severity. -/
def logDated (engine : Engine) (severity : Severity) (message : String) : Engine :=
  if severity.rank < engine.logLevel then engine
  else engine.log severity (engine.dated severity message)

/-- Logs a dated line about an address. -/
def logAbout (engine : Engine) (address : Address) (severity : Severity) (message : String) :
    Engine :=
  if severity.rank < engine.logLevel then engine
  else engine.logDated severity (address.toText ++ " " ++ message)

/-! ## 2. The log file -/

/-- Writes the log to the end of a file from now on, in place of the one before. -/
def redirectLog (engine : Engine) (path : String) : Except Failure Engine :=
  (engine.openToAppend path).map fun (engine, name) => { engine with logFile := some name }

/-- Writes the log to no file any more. -/
def stopLog (engine : Engine) : Engine := { engine with logFile := none }

end Engine

end IcmpEcho
