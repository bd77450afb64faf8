import LedgerBoard.Session.Turn

/-!
# Running sessions

A session runs beside its owner. The requests of the owner wait in a queue until the session takes
them, in the order in which they were made.
-/

namespace LedgerBoard

/-- A session and the requests that wait for it, oldest first. -/
structure RunningSession where
  plan : SessionPlan
  phase : Session.Phase
  waiting : List Request
  deriving DecidableEq, Repr

namespace RunningSession

def start (plan : SessionPlan) : RunningSession := ⟨plan, .dialling, []⟩

def isOver (session : RunningSession) : Bool := session.phase == .over

/-- Makes a request. It does not reach a session that is over. -/
def ask (request : Request) (session : RunningSession) : RunningSession :=
  if session.isOver then session else { session with waiting := session.waiting ++ [request] }

def turn (weather : Session.Weather) (input : Session.Input) (session : RunningSession) :
    RunningSession × List Session.Output :=
  let (phase, outputs) := Session.turn session.plan weather input session.phase
  ({ session with phase }, outputs)

/-- The session takes its oldest request. Without one it notices that nobody holds its handle. -/
def take (held : Bool) (weather : Session.Weather) (session : RunningSession) :
    RunningSession × List Session.Output :=
  if Session.takesRequests session.phase then
    match session.waiting with
    | request :: rest => { session with waiting := rest }.turn weather (.request request)
    | [] => if held then (session, []) else session.turn weather .abandoned
  else (session, [])

/-- The session hears from the node or the clock. -/
def hear (weather : Session.Weather) (input : Session.Input) (session : RunningSession) :
    RunningSession × List Session.Output :=
  if input.isForeign then session.turn weather input else (session, [])

end RunningSession

end LedgerBoard
