import LedgerBoard.Duration.Basic
import LedgerBoard.Number.Decimal

/-!
# Time units

The units of written durations. A whole count of a unit is kept in nanoseconds below a second and
in seconds from there on; a fraction of a unit may reach down to nanoseconds up to the minute, and
to seconds from the hour on.
-/

namespace LedgerBoard

/-- A unit of a written duration. -/
inductive TimeUnit where
  | nanosecond
  | microsecond
  | millisecond
  | second
  | minute
  | hour
  | day
  | week
  | month
  | year
  deriving DecidableEq, Repr

namespace TimeUnit

def all : List TimeUnit :=
  [nanosecond, microsecond, millisecond, second, minute, hour, day, week, month, year]

def names : TimeUnit → List String
  | nanosecond => ["nanos", "nsec", "ns"]
  | microsecond => ["usec", "us", "µs"]
  | millisecond => ["millis", "msec", "ms"]
  | second => ["seconds", "second", "secs", "sec", "s"]
  | minute => ["minutes", "minute", "mins", "min", "m"]
  | hour => ["hours", "hour", "hrs", "hr", "h"]
  | day => ["days", "day", "d"]
  | week => ["weeks", "week", "wks", "wk", "w"]
  | month => ["months", "month", "M"]
  | year => ["years", "year", "yrs", "yr", "y"]

def ofName? (name : String) : Option TimeUnit :=
  all.find? fun unit => name ∈ unit.names

end TimeUnit

/-- What a length of time is counted in. -/
inductive TimeScale where
  | nanoseconds
  | seconds
  deriving DecidableEq, Repr

namespace TimeUnit

/-- A whole unit, as a count and what is counted. -/
def whole : TimeUnit → Nat × TimeScale
  | nanosecond => (1, .nanoseconds)
  | microsecond => (1000, .nanoseconds)
  | millisecond => (1000000, .nanoseconds)
  | second => (1, .seconds)
  | minute => (60, .seconds)
  | hour => (3600, .seconds)
  | day => (86400, .seconds)
  | week => (604800, .seconds)
  | month => (2630016, .seconds)
  | year => (31557600, .seconds)

/-- A unit in the parts that a fraction of it may use. A nanosecond has none. -/
def parts? : TimeUnit → Option (Nat × TimeScale)
  | nanosecond => none
  | second => some (1000000000, .nanoseconds)
  | minute => some (60000000000, .nanoseconds)
  | unit => some unit.whole

end TimeUnit

/-- A duration and a count more, unless the whole seconds or the count leave sixty-four bits. -/
def Duration.add? (duration : Duration) (count : Nat) : TimeScale → Option Duration
  | .nanoseconds =>
      let sum : Duration := ⟨duration.nanoseconds + count⟩
      if duration.subsecond + count ≤ Number.maxWord ∧ sum.seconds ≤ Number.maxWord then some sum
      else none
  | .seconds =>
      let sum : Duration := ⟨duration.nanoseconds + count * Duration.second⟩
      if sum.seconds ≤ Number.maxWord then some sum else none

end LedgerBoard
