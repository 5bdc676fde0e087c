/-
# Metering a send rate

A meter counts the shots that are owed to the allowance of a rate limit.  Isolated shots pass at
once; a burst runs up a count, and once the time that count takes at the limit is at least the
shortest wait worth making, the next shot has to sleep that long.  Time that passes between shots
pays the count back.

`Meter.shot` answers zero when the shot may go; any other answer is the wait, and leaves the count
and time of the last shot as the allowance left them.  All arithmetic goes through a rounding
(`Number.Rounding`); the identity reads it exactly.
-/
import IcmpEcho.Number.Rounding
import IcmpEcho.Failure
import IcmpEcho.Time

namespace IcmpEcho

namespace Rate

/-- The shots that a limit still has to be paid for. -/
structure Meter where
  /-- A shot has been asked for; the first one always goes. -/
  started : Bool := false
  /-- The time of the last shot that went, or of the end of the last sleep. -/
  last : Time := 0
  /-- The shots not yet paid back. -/
  owed : Nat := 0
  /-- The limit, in shots per second. -/
  limit : Nat
  /-- The shortest wait worth making. -/
  minWait : Time := 1000000
  deriving DecidableEq, Repr

/-- The limit of a socket that asks for none. -/
def defaultLimit : Nat := 10000

namespace Meter

/-- A fresh meter; a limit of zero is refused. -/
def new (limit : Nat) (minWait : Time) : Except Failure Meter :=
  if limit = 0 then .error .zeroSendLimit else .ok { limit, minWait }

/-- The shots that the limit allows for in some nanoseconds; none for a negative time. -/
def allowance (round : Number.Rounding) (limit : Nat) (nanoseconds : Int) : Int :=
  let seconds := round (round nanoseconds / 1000000000)
  max 0 (Number.truncate (round (round limit * seconds)))

/-- What is still owed once an allowance is paid back. -/
def payBack (round : Number.Rounding) (owed : Nat) (allowed : Int) : Nat :=
  if round owed ≤ allowed then 0 else owed - allowed.toNat

/-- The time that some shots take at the limit. -/
def waitFor (round : Number.Rounding) (limit owed : Nat) : Time :=
  Number.truncate (round (round (round owed / round limit) * 1000000000))

/-- Accounts for one shot at `now`: zero when it may go, otherwise the time to sleep before
`finishWait`. -/
def shot (round : Number.Rounding) (meter : Meter) (now : Time) : Meter × Time :=
  if !meter.started then ({ meter with started := true, last := now, owed := 1 }, 0)
  else
    let owed := payBack round meter.owed (allowance round meter.limit (elapsed meter.last now))
    let wait := waitFor round meter.limit owed
    if 0 < owed ∧ meter.minWait ≤ wait then ({ meter with owed }, wait)
    else ({ meter with last := now, owed := owed + 1 }, 0)

/-- The sleep is over: the sleeper's own shot is all that is owed. -/
def finishWait (meter : Meter) (now : Time) : Meter := { meter with last := now, owed := 1 }

end Meter

end Rate

end IcmpEcho
