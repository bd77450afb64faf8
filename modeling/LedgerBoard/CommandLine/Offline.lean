import LedgerBoard.CommandLine.Job
import LedgerBoard.Dashboard.Ensemble
import LedgerBoard.Session.Dial
import LedgerBoard.Watch.Run

/-!
# Jobs without a network

Where no node answers, every session ends with its dialling. This settles what becomes of a watch,
and what the dashboard shows after its user asked for a session.
-/

namespace LedgerBoard

namespace RunningSession

/-- Several turns in which the session takes its requests. -/
def takeAll (held : Bool) (weather : Session.Weather) :
    Nat → RunningSession → RunningSession × List Session.Output
  | 0, session => (session, [])
  | turns + 1, session =>
      let (next, outputs) := session.take held weather
      let (last, more) := takeAll held weather turns next
      (last, outputs ++ more)

/-- A session that takes all its requests and is dialled then, and what it does. -/
def dialled (reach : Peer → Except TransportError Unit) (held : Bool) (weather : Session.Weather)
    (session : RunningSession) : RunningSession × List Session.Output :=
  let (ready, outputs) := session.takeAll held weather (session.waiting.length + 1)
  let (last, more) := ready.hear weather (.dialled (Session.dial reach session.plan.url))
  (last, outputs ++ more)

end RunningSession

namespace WatchRun

/-- A watch whose session is dialled, after the watch has heard of the outcome. -/
def dialled (reach : Peer → Except TransportError Unit) (run : WatchRun) : WatchRun :=
  let outcome := Session.dial reach run.session.plan.url
  (((run.step (.hear none (.dialled outcome))).1).step (.deliver {})).1

/-- How watching ended, if it did not end well. -/
def failure? (run : WatchRun) : Option WatchError :=
  match run.watch.state with
  | .failed cause => some cause
  | _ => none

end WatchRun

namespace Ensemble

def dial (reach : Peer → Except TransportError Unit) (ensemble : Ensemble) (generation : Nat) :
    Ensemble :=
  match ensemble.ready? generation with
  | none => ensemble
  | some session =>
      ensemble.settle generation (session.dialled reach (ensemble.holds generation) {})

/-- The moves that put everything into the channel that sessions have yet to say. -/
def posts (ensemble : Ensemble) : List Move :=
  ensemble.members.zipIdx.flatMap fun (member, index) =>
    List.replicate member.unsaid.length (.session (.post (index + 1)))

/-- Dials every session, and lets the application take all events after that. -/
def dialAll (reach : Peer → Except TransportError Unit) (now : Nat) (arrival : ClockTime)
    (ensemble : Ensemble) : Ensemble :=
  let generations := (List.range ensemble.members.length).map (· + 1)
  let dialled := generations.foldl (dial reach) ensemble
  let posted := dialled.run (dialled.posts.map (now, ·))
  posted.run (List.replicate posted.channel.length (now, .deliver arrival fun _ => []))

end Ensemble

namespace Job

/-- Why the dashboard cannot be shown without a terminal. -/
def noTerminal : String := "No such device or address (os error 6)"

/-- The end of a job where there is no terminal, and where `reach` refuses every peer. -/
def finish (reach : Peer → Except TransportError Unit) : Job → Report
  | .done report => report
  | .watch plan =>
      let run := (WatchRun.start plan).dialled reach
      .ofWatch (String.ofList (Text.decodeLossy run.watch.written)) run.failure?
  | .board _ _ _ => .ofBoard (some noTerminal)

end Job

end LedgerBoard
