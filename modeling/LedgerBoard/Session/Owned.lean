import LedgerBoard.Session.Running

/-!
# A session and its owner

The owner of a session acts on it through a handle only. What the owner asks for waits until the
session takes it; in between, the session hears from the node and the clock. `Owned.step` makes one
move of either side, and a run is any list of moves.
-/

namespace LedgerBoard

/-- What an owner can do with a handle. -/
inductive Call where
  | subscribe (topic : Topic)
  | unsubscribe (id : String)
  /-- Asks for the end, and gives the handle up. -/
  | disconnect
  | drop
  deriving DecidableEq, Repr

/-- What a call asks of the session, and what is left of the handle. -/
def Call.outcome (handle : Handle) : Call → Option Request × Option Handle
  | subscribe topic =>
      let (subscription, next) := handle.subscribe topic
      (some (.subscribe subscription), some next)
  | unsubscribe id => (some (.unsubscribe id), some handle)
  | disconnect => (some .disconnect, none)
  | drop => (none, none)

/-- A session, and the handle as long as its owner holds it. -/
structure Owned where
  handle : Option Handle
  session : RunningSession
  deriving DecidableEq, Repr

namespace Owned

/-- One move of the owner or of the session. -/
inductive Move where
  | call (call : Call)
  | take (weather : Session.Weather)
  | hear (weather : Session.Weather) (input : Session.Input)
  deriving Repr

def start (generation : Nat) (plan : SessionPlan) : Owned :=
  ⟨some (.ofGeneration generation), .start plan⟩

/-- What a move leads to, and what the session does in it. -/
def step (owned : Owned) : Move → Owned × List Session.Output
  | .call call =>
      match owned.handle with
      | none => (owned, [])
      | some handle =>
          let (request, left) := call.outcome handle
          (⟨left, request.elim owned.session owned.session.ask⟩, [])
  | .take weather =>
      let (session, outputs) := owned.session.take owned.handle.isSome weather
      ({ owned with session }, outputs)
  | .hear weather input =>
      let (session, outputs) := owned.session.hear weather input
      ({ owned with session }, outputs)

def run (owned : Owned) (moves : List Move) : Owned :=
  moves.foldl (fun owned move => (owned.step move).1) owned

end Owned

end LedgerBoard
