/-
# Time

Times and durations are whole nanoseconds.  The clock is a signed 64-bit counter: nothing can be
set to happen after `endOfTime`, and the time between two readings is taken modulo its range.
-/

namespace IcmpEcho

/-- A time or a duration, in nanoseconds. -/
abbrev Time := Int

/-- The latest time, and the longest duration. -/
def endOfTime : Time := Int64.maxValue.toInt

/-- The time from `last` to `now`. -/
def elapsed (last now : Time) : Time := (Int64.ofInt (now - last)).toInt

end IcmpEcho
