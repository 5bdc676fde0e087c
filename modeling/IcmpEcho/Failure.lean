/-
# Why an operation is refused

A `Failure` is the cause for which a call gives up at once, before anything asynchronous is
started.  `Failure.message` is the one place where causes are put into words.
-/
import IcmpEcho.ErrorCode

namespace IcmpEcho

/-- What a configuration can have wrong, in the order in which it is checked. -/
inductive ConfigFault
  | logLevel
  | interval
  | pingSize (limit : Nat)
  | pingTimeout
  | pingTtl
  | pingIdent
  | sendLimit
  | bufferSize
  | bindAddress (text : String)
  deriving DecidableEq, Repr

/-- What can be wrong with a JSON text or with the use of its value. -/
inductive JsonFault
  /-- The text is no JSON document. -/
  | syntaxError
  /-- A value of a type that cannot be converted to the wanted one. -/
  | wrongType
  /-- A member was asked of something that is no object. -/
  | notAnObject
  /-- A number too large for a double. -/
  | overflow
  deriving DecidableEq, Repr

/-- What can be wrong with the words of a command line. -/
inductive OptionFault
  | unrecognised (name : String)
  | missingArgument (name : String)
  | unexpectedArgument (name : String)
  | invalidArgument (value name : String)
  | repeated (name : String)
  deriving DecidableEq, Repr

/-- The cause for which an operation is refused. -/
inductive Failure
  /-- A send rate limit of zero. -/
  | zeroSendLimit
  /-- A time to live that does not fit into the byte that a datagram has for it. -/
  | hopsOutOfRange
  | noTarget
  | config (fault : ConfigFault)
  | json (fault : JsonFault)
  | option (fault : OptionFault)
  /-- A path that cannot be opened. -/
  | unopened (path : String) (code : ErrorCode)
  /-- What was opened cannot be read. -/
  | unreadable (code : ErrorCode)
  /-- A file whose text is no JSON document. -/
  | brokenFile (name : String)
  /-- A code, with what was being done when it arose; no context if the text is empty. -/
  | system (code : ErrorCode) (context : String)
  deriving DecidableEq, Repr

/-- The words for a configuration fault. -/
def ConfigFault.message : ConfigFault → String
  | logLevel => "log_level must be between 0 and 5"
  | interval => "interval must be positive"
  | pingSize limit => "ping.size must not exceed " ++ toString limit
  | pingTimeout => "ping.timeout must be positive"
  | pingTtl => "ping.ttl must be between 1 and 255"
  | pingIdent => "ping.ident must be -1 or between 0 and 65535"
  | sendLimit => "socket.send_limit_pps must be positive"
  | bufferSize => "socket buffer sizes must not be negative"
  | bindAddress text => "socket.bind_address is not an IP address: " ++ text

/-- The words for a JSON fault. -/
def JsonFault.message : JsonFault → String
  | syntaxError => "[json.exception.parse_error.101]"
  | wrongType => "[json.exception.type_error.302]"
  | notAnObject => "[json.exception.type_error.306]"
  | overflow => "[json.exception.out_of_range.406]"

/-- The words for a fault of the command line. -/
def OptionFault.message : OptionFault → String
  | unrecognised name => "unrecognised option '" ++ name ++ "'"
  | missingArgument name => "the required argument for option '" ++ name ++ "' is missing"
  | unexpectedArgument name => "option '" ++ name ++ "' does not take any arguments"
  | invalidArgument value name =>
    "the argument ('" ++ value ++ "') for option '" ++ name ++ "' is invalid"
  | repeated name => "option '" ++ name ++ "' cannot be specified more than once"

/-- The part of a text that the system sees: a text ends where a NUL stands in it. -/
def untilNul (text : String) : String := String.ofList (text.toList.takeWhile (· ≠ '\x00'))

namespace Failure

/-- The words for a cause, before they are cut. -/
def wording : Failure → String
  | zeroSendLimit => "send rate limit must be positive"
  | hopsOutOfRange => "hops value out of range"
  | noTarget => "no target given"
  | config fault => fault.message
  | json fault => fault.message
  | option fault => fault.message
  | unopened path code => path ++ ": " ++ code.message
  | unreadable code => "basic_filebuf::underflow error reading the file: " ++ code.message
  | brokenFile name => name ++ ": " ++ JsonFault.message .syntaxError
  | system code context => if context = "" then code.message else context ++ ": " ++ code.message

/-- What a person is told about a cause.  A message ends where a NUL stands in it. -/
def message (failure : Failure) : String := untilNul failure.wording

end Failure

end IcmpEcho
