/-!
# Durations

A duration is a count of nanoseconds. The views `seconds`, `subsecond` and `millis` are the parts
that settings and protocol headers speak of.
-/

namespace LedgerBoard

/-- A length of time. -/
structure Duration where
  nanoseconds : Nat
  deriving DecidableEq, Repr

namespace Duration

def second : Nat := 1000000000

/-- The duration of whole seconds and nanoseconds. -/
def ofParts (seconds nanoseconds : Nat) : Duration :=
  ⟨seconds * second + nanoseconds⟩

def ofMillis (millis : Nat) : Duration :=
  ⟨millis * 1000000⟩

def seconds (duration : Duration) : Nat :=
  duration.nanoseconds / second

/-- The nanoseconds beyond the whole seconds of a duration. -/
def subsecond (duration : Duration) : Nat :=
  duration.nanoseconds % second

def millis (duration : Duration) : Nat :=
  duration.nanoseconds / 1000000

end Duration

end LedgerBoard
