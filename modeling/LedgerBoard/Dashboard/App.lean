import LedgerBoard.Dashboard.Key
import LedgerBoard.Session.Basic
import LedgerBoard.Session.Event

/-!
# The application

The application owns the dashboard and at most one session. Key presses and session events are
applied one at a time; what sessions are to do in turn is returned as a list of orders. Events of a
session that is no longer held have no effect.
-/

namespace LedgerBoard

/-- What the application has done about sessions. -/
inductive Order where
  /-- Start a session. -/
  | start (generation : Nat)
  /-- Ask a session to do something. -/
  | request (generation : Nat) (request : Request)
  deriving DecidableEq, Repr

/-- A message in the footer, and when it goes away, in milliseconds. -/
structure Notice where
  text : String
  expiry : Nat
  deriving DecidableEq, Repr

def Notice.isFresh (now : Nat) (notice : Notice) : Bool :=
  now < notice.expiry

/-- The state of the application. -/
structure App where
  plan : SessionPlan
  dashboard : Dashboard
  handle : Option Handle
  /-- The subscriptions on the session that is held. -/
  subscriptions : List Subscription
  /-- The number of sessions started so far. No bound is put on it: a counter of 64 bits would last
  for more sessions than a user can ever ask for. -/
  started : Nat
  notice : Option Notice
  /-- The number of ticks so far, without a bound for the same reason. -/
  ticks : Nat
  quits : Bool
  deriving DecidableEq, Repr

namespace App

/-- How long a message stays in the footer, in milliseconds. -/
def noticeLife : Nat := 3000

/-- The application before anything happened. -/
def initial (plan : SessionPlan) (cap : Option Nat) : App :=
  { plan
    dashboard := .initial cap
    handle := none
    subscriptions := []
    started := 0
    notice := none
    ticks := 0
    quits := false }

/-- Whether a session is held that the node has not accepted yet. -/
def isConnecting (app : App) : Bool :=
  app.handle.isSome && !app.dashboard.isConnected

/-- The generation of the session that is held. -/
def generation? (app : App) : Option Nat :=
  app.handle.map (·.generation)

def announce (app : App) (now : Nat) (text : String) : App :=
  { app with notice := some ⟨text, now + noticeLife⟩ }

def expireNotice (app : App) (now : Nat) : App :=
  { app with notice := app.notice.filter (Notice.isFresh now) }

/-- Starts a session in place of one that the node has not accepted yet. Nothing happens while there
is an accepted one. -/
def connect (app : App) (now : Nat) : App × List Order :=
  if app.dashboard.controls.connect then
    let generation := app.started + 1
    let dropped := app.generation?.toList.map fun old => Order.request old .disconnect
    let next := { app with
      handle := some (.ofGeneration generation)
      subscriptions := []
      started := generation }
    (next.announce now s!"Connecting to {app.plan.url}", dropped ++ [.start generation])
  else (app, [])

/-- Ends the session, if one is held. -/
def disconnect (app : App) (now : Nat) : App × List Order :=
  let next := { app with
    handle := none
    subscriptions := []
    dashboard := app.dashboard.markDisconnected }
  match app.handle with
  | none => (next, [])
  | some handle =>
      let requests := app.subscriptions.map (fun held => Request.unsubscribe held.id) ++
        [.disconnect]
      (next.announce now "Disconnected", requests.map (Order.request handle.generation))

/-- Subscribes to a topic on the session that is held. The subscription counts only if the session
still takes the request. -/
def subscribe (accepts : Bool) (app : App) (topic : Topic) : App × List Order :=
  match app.handle with
  | none => (app, [])
  | some handle =>
      let (subscription, next) := handle.subscribe topic
      let held := if accepts then app.subscriptions ++ [subscription] else app.subscriptions
      ({ app with handle := some next, subscriptions := held },
        [.request handle.generation (.subscribe subscription)])

/-- Subscribes to one topic after the other. Whether a request is still taken is told for each of
them, as the session may end in between. -/
def subscribeAll (accepts : Topic → Bool) (app : App) : App × List Order :=
  Topic.all.foldl (fun (app, orders) topic =>
    let (app, more) := app.subscribe (accepts topic) topic
    (app, orders ++ more)) (app, [])

/-- What the footer says of a session that the node accepted. -/
def welcomeText : Option String → String
  | some server => "Connected to " ++ server
  | none => "Connected"

/-- The dashboard turns to a session that the node accepted. -/
def showConnected (app : App) : App :=
  { app with dashboard := app.dashboard.markConnected }

def closingNotice? (wasConnected : Bool) (reason : Option String) : Option String :=
  reason.map fun reason =>
    if wasConnected then "Connection lost: " ++ reason else "Connect failed: " ++ reason

/-- Applies an event of the session that is held. -/
def applyLive (app : App) (now : Nat) (arrival : ClockTime) (accepts : Topic → Bool) :
    SessionEvent → App × List Order
  | .connected server =>
      let (subscribed, orders) := app.showConnected.subscribeAll accepts
      (subscribed.announce now (welcomeText server), orders)
  | .block block => ({ app with dashboard := (app.dashboard.showBlock arrival block).1 }, [])
  | .transaction transaction =>
      ({ app with dashboard := (app.dashboard.showTransaction arrival transaction).1 }, [])
  | .closed reason =>
      let closed := { app with
        handle := none
        subscriptions := []
        dashboard := app.dashboard.markDisconnected }
      match closingNotice? app.dashboard.isConnected reason with
      | some text => (closed.announce now text, [])
      | none => (closed, [])

/-- Applies an event of a session. Only the session that is held counts. -/
def applyEvent (app : App) (now : Nat) (arrival : ClockTime) (accepts : Topic → Bool)
    (envelope : Envelope) : App × List Order :=
  if app.generation? = some envelope.generation then
    app.applyLive now arrival accepts envelope.event
  else (app, [])

def act (app : App) (now : Nat) : Action → App × List Order
  | .quit => ({ app with quits := true }, [])
  | .connect => app.connect now
  | .disconnect => app.disconnect now

/-- What the application takes in turn. -/
inductive Input where
  | press (press : KeyPress)
  /-- A control is used without its key, whether or not it can be used; so a session that is held is
  ended when the program ends. -/
  | act (action : Action)
  /-- An event of a session; `accepts` says for each topic whether the session takes the request for
  it, if one is made. -/
  | event (envelope : Envelope) (arrival : ClockTime) (accepts : Topic → Bool)
  | tick

/-- Takes one input at a time in milliseconds. -/
def step (app : App) (now : Nat) : Input → App × List Order
  | .press press =>
      match press.action? app.dashboard.controls with
      | some action => app.act now action
      | none => (app, [])
  | .act action => app.act now action
  | .event envelope arrival accepts => app.applyEvent now arrival accepts envelope
  | .tick => ({ app with ticks := app.ticks + 1 }.expireNotice now, [])

/-- Takes inputs in a row, each at its time: the state they lead to, and all that was ordered. -/
def run : List (Nat × Input) → App → App × List Order
  | [], app => (app, [])
  | (now, input) :: rest, app =>
      let (next, orders) := app.step now input
      let (last, more) := run rest next
      (last, orders ++ more)

end App

end LedgerBoard
