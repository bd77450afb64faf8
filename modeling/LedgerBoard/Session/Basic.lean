import LedgerBoard.Duration.Basic
import LedgerBoard.Session.Address

/-!
# Sessions

A session is a connection to a ledger node over which frames are exchanged. This file holds what is
settled before one starts.
-/

namespace LedgerBoard

/-- What a session is opened with. -/
structure SessionPlan where
  /-- The full address, with the path at which the node accepts sessions. -/
  url : String
  /-- The interval of heart-beats that is offered. Zero offers none. -/
  heartbeat : Duration
  deriving DecidableEq, Repr

namespace SessionPlan

/-- The interval that is offered where nobody says otherwise. -/
def usualHeartbeat : Duration := .ofParts 10 0

/-- How many events may wait for the owner of a session. -/
def eventCapacity : Nat := 256

def forServer (base : String) (heartbeat : Duration) : SessionPlan :=
  ⟨Address.endpoint base, heartbeat⟩

def host (plan : SessionPlan) : String :=
  Address.host plan.url

end SessionPlan

end LedgerBoard
