import LedgerBoard.Dashboard.App
import LedgerBoard.Session.Running

/-!
# The application among its sessions

The application and every session that it has started run side by side. What sessions report goes
through one channel, into which a session puts one event after the other, and from which the
application takes the oldest event first; what it orders goes to the session of the generation that
the order names. `Ensemble.step` makes one move of one of them, and a run is any list of moves.
Sessions may also move while the application subscribes to one topic after the other.
-/

namespace LedgerBoard

/-- A session, and what it has yet to put into the channel, oldest first. It makes no turn before
that is done. -/
structure Member where
  session : RunningSession
  unsaid : List SessionEvent
  deriving DecidableEq, Repr

/-- Whether a session is over and has said so. -/
def Member.isGone (member : Member) : Bool :=
  member.session.isOver && member.unsaid.isEmpty

/-- The application, its sessions, and the channel between them. -/
structure Ensemble where
  app : App
  /-- The sessions started so far, in the order of their generations. -/
  members : List Member
  /-- The events that the application has not taken yet, oldest first. -/
  channel : List Envelope
  deriving DecidableEq, Repr

namespace Ensemble

/-- One move of a session. -/
inductive SessionMove where
  /-- The session puts its oldest event into the channel. -/
  | post (generation : Nat)
  /-- The session takes its oldest request; `fault` is why sending fails, if it does. -/
  | take (generation : Nat) (fault : Option TransportError)
  /-- The session hears from the node or the clock. -/
  | hear (generation : Nat) (fault : Option TransportError) (input : Session.Input)
  deriving Repr

/-- One move. -/
inductive Move where
  | press (press : KeyPress)
  /-- A control is used without its key. -/
  | act (action : Action)
  | tick
  /-- The application takes the oldest event of the channel. If it subscribes then, sessions make
  the moves in `meanwhile` after the request for each topic. -/
  | deliver (arrival : ClockTime) (meanwhile : Topic → List SessionMove)
  | session (move : SessionMove)

/-- The application before it has started a session. -/
def initial (plan : SessionPlan) (cap : Option Nat) : Ensemble :=
  ⟨.initial plan cap, [], []⟩

/-- The session of a generation. The first generation is one. -/
def member? (ensemble : Ensemble) : Nat → Option Member
  | 0 => none
  | index + 1 => ensemble.members[index]?

/-- The session of a generation, if it has nothing to put into the channel. -/
def ready? (ensemble : Ensemble) (generation : Nat) : Option RunningSession :=
  ((ensemble.member? generation).filter (·.unsaid.isEmpty)).map (·.session)

/-- Whether the application holds the handle of a generation. -/
def holds (ensemble : Ensemble) (generation : Nat) : Bool :=
  ensemble.app.generation? == some generation

/-- Whether requests still reach the session of a generation. -/
def accepts (ensemble : Ensemble) (generation : Nat) : Bool :=
  (ensemble.member? generation).any fun member => !member.isGone

def change (ensemble : Ensemble) (generation : Nat) (change : Member → Member) : Ensemble :=
  match generation with
  | 0 => ensemble
  | index + 1 => { ensemble with members := ensemble.members.modify index change }

def obey (ensemble : Ensemble) : Order → Ensemble
  | .start _ =>
      { ensemble with members := ensemble.members ++ [⟨.start ensemble.app.plan, []⟩] }
  | .request generation request =>
      ensemble.change generation fun member =>
        { member with session := member.session.ask request }

def advance (ensemble : Ensemble) (now : Nat) (input : App.Input) : Ensemble :=
  let (app, orders) := ensemble.app.step now input
  orders.foldl obey { ensemble with app }

/-- Puts a session that made a turn into its place. It has yet to say what it reports. -/
def settle (ensemble : Ensemble) (generation : Nat) :
    RunningSession × List Session.Output → Ensemble
  | (session, outputs) =>
      ensemble.change generation fun member =>
        ⟨session, member.unsaid ++ Session.reports outputs⟩

/-- A session makes one move. A move that cannot be made changes nothing. -/
def sessionStep (ensemble : Ensemble) : SessionMove → Ensemble
  | .post generation =>
      match ensemble.member? generation with
      | some ⟨session, event :: rest⟩ =>
          { ensemble.change generation fun _ => ⟨session, rest⟩ with
            channel := ensemble.channel ++ [⟨generation, event⟩] }
      | _ => ensemble
  | .take generation fault =>
      match ensemble.ready? generation with
      | none => ensemble
      | some session =>
          ensemble.settle generation (session.take (ensemble.holds generation) ⟨fault, none⟩)
  | .hear generation fault input =>
      match ensemble.ready? generation with
      | none => ensemble
      | some session => ensemble.settle generation (session.hear ⟨fault, none⟩ input)

/-- Sessions make moves in a row. -/
def sessionRun (moves : List SessionMove) (ensemble : Ensemble) : Ensemble :=
  moves.foldl sessionStep ensemble

/-- Whether requests still reach the session that the application holds. -/
def isHeard (ensemble : Ensemble) : Bool :=
  ensemble.app.generation?.any ensemble.accepts

/-- The application subscribes to a topic on the session that it holds. -/
def subscribe (ensemble : Ensemble) (topic : Topic) : Ensemble :=
  let (app, orders) := ensemble.app.subscribe ensemble.isHeard topic
  orders.foldl obey { ensemble with app }

/-- The application hears that the session that it holds was accepted, and subscribes to every
topic. -/
def welcome (ensemble : Ensemble) (now : Nat) (meanwhile : Topic → List SessionMove)
    (server : Option String) : Ensemble :=
  let shown := { ensemble with app := ensemble.app.showConnected }
  let asked := Topic.all.foldl (fun ensemble topic =>
    (ensemble.subscribe topic).sessionRun (meanwhile topic)) shown
  { asked with app := asked.app.announce now (App.welcomeText server) }

/-- What an event says of the node, if it is the news that the session that is held was accepted. -/
def welcomed? (ensemble : Ensemble) (envelope : Envelope) : Option (Option String) :=
  match envelope.event, ensemble.holds envelope.generation with
  | .connected server, true => some server
  | _, _ => none

/-- The application applies an event. Only a welcome makes it subscribe. -/
def apply (ensemble : Ensemble) (now : Nat) (arrival : ClockTime)
    (meanwhile : Topic → List SessionMove) (envelope : Envelope) : Ensemble :=
  match ensemble.welcomed? envelope with
  | some server => ensemble.welcome now meanwhile server
  | none => ensemble.advance now (.event envelope arrival fun _ => true)

/-- Makes one move at a time in milliseconds. A move that cannot be made changes nothing. -/
def step (ensemble : Ensemble) (now : Nat) : Move → Ensemble
  | .press press => ensemble.advance now (.press press)
  | .act action => ensemble.advance now (.act action)
  | .tick => ensemble.advance now .tick
  | .deliver arrival meanwhile =>
      match ensemble.channel with
      | [] => ensemble
      | envelope :: rest =>
          { ensemble with channel := rest }.apply now arrival meanwhile envelope
  | .session move => ensemble.sessionStep move

/-- Moves in a row, each at its time. -/
def run (moves : List (Nat × Move)) (ensemble : Ensemble) : Ensemble :=
  moves.foldl (fun ensemble move => ensemble.step move.1 move.2) ensemble

end Ensemble

end LedgerBoard
