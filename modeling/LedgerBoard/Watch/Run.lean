import LedgerBoard.Session.Running
import LedgerBoard.Watch.Basic

/-!
# Watching a session

Watching and the session that is watched run side by side, with a channel of events from the session
to the watch. `WatchRun.step` makes one move of one of them.
-/

namespace LedgerBoard

/-- A watch, its session, and the channel between them. -/
structure WatchRun where
  watch : Watch
  session : RunningSession
  /-- The events that the watch has not taken yet, oldest first. -/
  channel : List SessionEvent
  deriving DecidableEq, Repr

namespace WatchRun

/-- One move. -/
inductive Move where
  | shutdown
  /-- The watch takes the oldest event, or notices that no more will come; `outlet` says what
  becomes of the line for the event. -/
  | deliver (outlet : Outlet)
  /-- The session takes its oldest request; `fault` is why sending fails, if it does. -/
  | take (fault : Option TransportError)
  /-- The session hears from the node or the clock. -/
  | hear (fault : Option TransportError) (input : Session.Input)
  deriving Repr

def start (plan : SessionPlan) : WatchRun :=
  ⟨.start, .start plan, []⟩

def advance (run : WatchRun) (input : Watch.Input) : WatchRun :=
  let (watch, requests) := run.watch.turn input
  let session := requests.foldl (fun session request => session.ask request) run.session
  { run with watch, session }

/-- What the world does with a turn of the session: a watch that has ended takes no more events. -/
def weather (run : WatchRun) (fault : Option TransportError) : Session.Weather :=
  ⟨fault, if run.watch.state = .running then none else some 0⟩

/-- Takes a session that made a turn, and what it sends to the node. -/
def settle (run : WatchRun) : RunningSession × List Session.Output → WatchRun × List Session.Output
  | (session, outputs) =>
      ({ run with session, channel := run.channel ++ Session.reports outputs }, outputs)

/-- Makes one move, and says what the session did. A move that cannot be made changes nothing. -/
def step (run : WatchRun) : Move → WatchRun × List Session.Output
  | .shutdown => (run.advance .shutdown, [])
  | .deliver outlet =>
      match run.channel with
      | event :: rest => ({ run with channel := rest }.advance (.event event outlet), [])
      | [] => (if run.session.isOver then run.advance .silence else run, [])
  | .take fault => run.settle (run.session.take run.watch.handle.isSome (run.weather fault))
  | .hear fault input => run.settle (run.session.hear (run.weather fault) input)

end WatchRun

end LedgerBoard
