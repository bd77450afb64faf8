import LedgerBoard.Duration.Basic
import LedgerBoard.Frame.Reader

/-!
# Heart-beats

A client announces how often it can send a heart-beat, and the node answers how often it wants
one. The client then beats at the larger of the two, or never when either of them is zero.
-/

namespace LedgerBoard.HeartBeat

/-- How often the node wants a heart-beat, in milliseconds: the part of its `heart-beat` header
after the first comma. -/
def wanted? (header : String) : Option Nat :=
  match Frame.splitAt? ',' header.toList with
  | some (_, back) => Number.unsigned? Number.maxWord (Text.trim back)
  | none => none

/-- The time between two heart-beats of the client. The client's offer counts in milliseconds,
modulo the size of a word. -/
def interval? (offer : Duration) (header : Option String) : Option Duration :=
  let offered := offer.millis % (Number.maxWord + 1)
  match header.bind wanted? with
  | none => none
  | some wanted =>
      if offered = 0 ∨ wanted = 0 then none else some (.ofMillis (max offered wanted))

end LedgerBoard.HeartBeat
