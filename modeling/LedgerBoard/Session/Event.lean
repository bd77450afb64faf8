import LedgerBoard.Ledger.Event

/-!
# Session events and requests

A session reports events to its owner, tagged with the generation of the session, and takes requests
from the handle that its owner holds.
-/

namespace LedgerBoard

/-- What a session reports. -/
inductive SessionEvent where
  /-- The node accepted the session; `server` is how the node names itself. -/
  | connected (server : Option String)
  | block (block : Block)
  | transaction (transaction : Transaction)
  /-- The session is over. There is no reason if its owner asked for the end. -/
  | closed (reason : Option String)
  deriving DecidableEq, Repr

/-- An event and the generation of the session that reports it: the number of the session among all
that were started, for which no bound is set. -/
structure Envelope where
  generation : Nat
  event : SessionEvent
  deriving DecidableEq, Repr

/-- A subscription that a handle has asked for. -/
structure Subscription where
  id : String
  topic : Topic
  deriving DecidableEq, Repr

/-- What a handle asks its session to do. -/
inductive Request where
  | subscribe (subscription : Subscription)
  | unsubscribe (id : String)
  | disconnect
  deriving DecidableEq, Repr

/-- The owner's end of a session. -/
structure Handle where
  /-- The number that the envelopes of the session carry. -/
  generation : Nat
  /-- The number of the next subscription. -/
  next : UInt32
  deriving DecidableEq, Repr

namespace Handle

def ofGeneration (generation : Nat) : Handle := ⟨generation, 0⟩

def subscriptionId (number : UInt32) : String :=
  "sub-" ++ String.ofList (Number.decimal number.toNat)

/-- The subscription that the handle asks for next, and the handle after it. -/
def subscribe (handle : Handle) (topic : Topic) : Subscription × Handle :=
  (⟨subscriptionId handle.next, topic⟩, { handle with next := handle.next + 1 })

end Handle

end LedgerBoard
