import LedgerBoard.Proofs.Session.Turns
import LedgerBoard.Session.Running

/-!
# Turns of running sessions

A running session does nothing but take turns: with what it finds in its queue, and with what it
hears from the node and the clock.
-/

namespace LedgerBoard

namespace RunningSession

/-- What a session takes from its owner: the oldest request, or that nobody holds its handle. -/
def asked? (held : Bool) (session : RunningSession) : Option Session.Input :=
  if Session.takesRequests session.phase then
    match session.waiting with
    | request :: _ => some (.request request)
    | [] => if held then none else some .abandoned
  else none

/-- A session has made some turns of the protocol, and has done nothing else. -/
structure Made (session : RunningSession) (turns : List (Session.Weather × Session.Input))
    (result : RunningSession × List Session.Output) : Prop where
  plan : result.1.plan = session.plan
  phase : result.1.phase = (Session.run session.plan turns session.phase).1
  outputs : result.2 = (Session.run session.plan turns session.phase).2

theorem made_nothing (session : RunningSession) : Made session [] (session, []) :=
  ⟨rfl, rfl, rfl⟩

theorem made_turn (session : RunningSession) (waiting : List Request) (weather : Session.Weather)
    (input : Session.Input) :
    Made session [(weather, input)] (turn weather input { session with waiting }) :=
  ⟨rfl, rfl, (List.append_nil _).symm⟩

/-- Taking a request is a turn with that request. -/
theorem made_take (session : RunningSession) (held : Bool) (weather : Session.Weather) :
    Made session ((session.asked? held).toList.map fun input => (weather, input))
      (session.take held weather) := by
  rw [asked?, take]
  split
  · cases waits : session.waiting with
    | cons request rest => exact made_turn session rest weather (.request request)
    | nil =>
        cases held with
        | false => exact made_turn session session.waiting weather .abandoned
        | true => exact made_nothing session
  · exact made_nothing session

/-- Hearing is a turn with what is heard. -/
theorem made_hear (session : RunningSession) (weather : Session.Weather) (input : Session.Input) :
    Made session (if input.isForeign then [(weather, input)] else [])
      (session.hear weather input) := by
  rw [hear]
  split
  · exact made_turn session session.waiting weather input
  · exact made_nothing session

/-- Everything that taking can amount to: nothing, the oldest request, or, with the queue empty,
that nobody holds the handle. -/
inductive Taking (session : RunningSession) (weather : Session.Weather) :
    Option Session.Input → RunningSession × List Session.Output → Prop where
  | idle : Taking session weather none (session, [])
  | request {request : Request} {rest : List Request} (waits : session.waiting = request :: rest) :
      Taking session weather (some (.request request))
        (turn weather (.request request) { session with waiting := rest })
  | abandoned (empty : session.waiting = []) :
      Taking session weather (some .abandoned) (turn weather .abandoned session)

/-- Whatever is taken is one of the three. -/
theorem taking (session : RunningSession) (held : Bool) (weather : Session.Weather) :
    Taking session weather (session.asked? held) (session.take held weather) := by
  rw [asked?, take]
  split
  · cases waits : session.waiting with
    | cons request rest => exact .request waits
    | nil =>
        cases held with
        | false => exact .abandoned waits
        | true => exact .idle
  · exact .idle

end RunningSession

end LedgerBoard
