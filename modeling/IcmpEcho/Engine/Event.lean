/-
# What an engine can be seen doing

Every visible act of an engine is an `Event`: a step of setting a socket up, a datagram sent, a
line logged, and the end of an operation that somebody outside the engine started.
-/
import IcmpEcho.Network

namespace IcmpEcho

/-- A step of setting a socket up that succeeded. -/
inductive SetupStep
  | opened (family : Family)
  | ttl (value : Int)
  | device (name : String)
  | bound (address : Address)
  | sendBuffer (size : Int)
  | receiveBuffer (size : Int)
  deriving DecidableEq, Repr

/-- How a ping ended. -/
structure PingResult where
  sequence : UInt16
  /-- The reply, if one came. -/
  reply : Option EchoReply := none
  /-- The time from the request to its reply. -/
  roundTrip : Time := 0
  deriving DecidableEq, Repr

/-- A visible act of an engine. -/
inductive Event
  | setup (socket : Nat) (step : SetupStep)
  | send (time : Time) (socket : Nat) (destination : Address) (packet : Bytes)
  | log (line : String)
  /-- A sender was let go by a limiter. -/
  | acquired (time : Time) (label : String) (code : ErrorCode)
  /-- A mailbox gave something to its receiver. -/
  | mail (label : String) (code : ErrorCode) (time : Time) (packet : Bytes)
  /-- A ping ended. -/
  | done (time : Time) (tag : String) (code : ErrorCode) (result : PingResult)
  /-- A raw send ended. -/
  | sent (time : Time) (tag : String) (code : ErrorCode) (count : Nat)
  /-- A raw receive ended. -/
  | received (time : Time) (tag : String) (code : ErrorCode) (source : Address) (data : Bytes)
  deriving Repr

end IcmpEcho
