import LedgerBoard.Frame.HeartBeat
import LedgerBoard.Session.Basic
import LedgerBoard.Session.Error
import LedgerBoard.Session.Event

/-!
# The turns of a session

A session dials, greets the node, and then serves requests and messages until its owner or the node
ends it. It goes on in turns: each turn takes one input, and says what is sent and what is reported.
What the world does with a turn is its `Weather`: whether sending works, and how many more events
the owner takes.
-/

namespace LedgerBoard

/-- A message from the node. -/
inductive Message where
  | text (content : String)
  | binary (octets : List UInt8)
  | ping
  | pong
  /-- The node closes the transport. -/
  | close (reason : Option String)
  deriving DecidableEq, Repr

namespace Message

/-- The frames in a message. A message that cannot be decoded counts as empty. -/
def frames : Message → List Frame
  | text content => (Frame.readAll content).toOption.getD []
  | binary octets =>
      (Frame.readAll (String.ofList (Text.decodeLossy octets))).toOption.getD []
  | _ => []

end Message

namespace Session

/-- What a session takes in one turn. -/
inductive Input where
  /-- Dialling is over. -/
  | dialled (outcome : Except TransportError Unit)
  | request (request : Request)
  /-- The handle is gone, and no request is left. -/
  | abandoned
  | message (message : Message)
  /-- The transport fails. -/
  | failed (cause : TransportError)
  /-- The transport ends without a word. -/
  | ended
  /-- A heart-beat is due. -/
  | beatDue
  /-- The time to wait for a receipt is over. -/
  | waitOver
  deriving Repr

/-- Whether an input comes from the node or the clock. All others come from the owner. -/
def Input.isForeign : Input → Bool
  | request _ | abandoned => false
  | _ => true

/-- What a session does in a turn. -/
inductive Output where
  | send (frame : Frame)
  /-- Sends a lone line feed. -/
  | beat
  | report (event : SessionEvent)
  /-- Closes the transport. -/
  | close
  deriving DecidableEq, Repr

/-- What the world does with a turn. -/
structure Weather where
  /-- Why sending fails, if it does. -/
  sendFault : Option TransportError := none
  /-- How many more events the owner takes before it goes away, if it does. -/
  hearing : Option Nat := none
  deriving DecidableEq, Repr

/-- The topics of the ids that are subscribed. -/
abbrev Routes := List (String × Topic)

/-- Where a session stands. -/
inductive Phase where
  | dialling
  /-- The opening frame is sent. -/
  | greeting
  /-- The node accepted the session; `beat` is the time between two heart-beats. -/
  | serving (routes : Routes) (beat : Option Duration)
  /-- The closing frame is sent. -/
  | leaving
  | over
  deriving DecidableEq, Repr

/-- The receipt that the closing frame asks for. -/
def receipt : String := "disconnect"

/-- How long a session waits for that receipt, in milliseconds. -/
def receiptWait : Nat := 2000

def serverError (frame : Frame) : SessionError :=
  .server ((frame.header? "message").getD (Text.trimmed frame.body))

/-- The event that a payload of a topic announces. -/
def eventOf? (topic : Topic) (payload : String) : Option SessionEvent :=
  match topic with
  | .blocks => (Block.ofPayload payload).toOption.map .block
  | .transactions => (Transaction.ofPayload payload).toOption.map .transaction

/-- What a frame amounts to while requests are served: nothing, an event, or the end. -/
def route (routes : Routes) (frame : Frame) : Except SessionError (Option SessionEvent) :=
  match frame.command with
  | .message =>
      match (frame.header? "subscription").bind fun id => routes.lookup id with
      | some topic => .ok (eventOf? topic frame.body)
      | none => .ok none
  | .error => .error (serverError frame)
  | _ => .ok none

/-- The events that frames amount to, in order, and why the session ends with them, if it does. An
owner who goes away ends it, too. -/
def routeAll (routes : Routes) : Option Nat → List Frame → List SessionEvent × Option SessionError
  | _, [] => ([], none)
  | hearing, frame :: rest =>
      match route routes frame with
      | .error cause => ([], some cause)
      | .ok none => routeAll routes hearing rest
      | .ok (some event) =>
          if hearing = some 0 then ([], some .eventsDropped)
          else
            let (events, ending) := routeAll routes (hearing.map (· - 1)) rest
            (event :: events, ending)

/-- The last report of a session. Nobody is told where the owner went away. -/
def farewell (heard : Bool) (ending : Option SessionError) : List Output :=
  if heard && ending != some .eventsDropped then
    [.report (.closed (ending.map SessionError.message))]
  else []

/-- Ends a session before it reports anything else. -/
def finish (weather : Weather) (ending : Option SessionError) (before : List Output) :
    Phase × List Output :=
  (.over, before ++ farewell (weather.hearing != some 0) ending)

/-- Ends a session for a fault of its transport. -/
def breakOff (weather : Weather) (cause : TransportError) : Phase × List Output :=
  finish weather (some (.transport cause)) []

/-- Does something that is sent, and goes on; or ends the session if sending fails. -/
def sending (weather : Weather) (output : Output) (next : Phase) : Phase × List Output :=
  match weather.sendFault with
  | some cause => breakOff weather cause
  | none => (next, [output])

def turnDialling (plan : SessionPlan) (weather : Weather) : Input → Phase × List Output
  | .dialled (.ok _) =>
      sending weather (.send (.connect plan.host plan.heartbeat.millis)) .greeting
  | .dialled (.error cause) => breakOff weather cause
  | .request .disconnect => finish weather none []
  | .abandoned => finish weather none []
  | _ => (.dialling, [])

/-- The first frame from the node decides whether the session is accepted. -/
def welcome (plan : SessionPlan) (weather : Weather) (frame : Frame) : Phase × List Output :=
  match frame.command with
  | .connected =>
      if weather.hearing = some 0 then finish weather (some .eventsDropped) []
      else
        let beat := HeartBeat.interval? plan.heartbeat (frame.header? "heart-beat")
        (.serving [] beat, [.report (.connected (frame.header? "server"))])
  | .error => finish weather (some (serverError frame)) []
  | other => finish weather (some (.unexpectedFrame other)) []

/-- A turn while waiting to be accepted. Frames behind the first one of a message do not count. -/
def turnGreeting (plan : SessionPlan) (weather : Weather) : Input → Phase × List Output
  | .message (.close reason) => finish weather (some (.closedByServer reason)) []
  | .message message =>
      match message.frames with
      | frame :: _ => welcome plan weather frame
      | [] => (.greeting, [])
  | .failed cause => breakOff weather cause
  | .ended => finish weather (some .connectionClosed) []
  | .request .disconnect => finish weather none [.close]
  | .abandoned => finish weather none [.close]
  | _ => (.greeting, [])

def serve (weather : Weather) (routes : Routes) (beat : Option Duration) (message : Message) :
    Phase × List Output :=
  let (events, ending) := routeAll routes weather.hearing message.frames
  let reports := events.map Output.report
  match ending with
  | none => (.serving routes beat, reports)
  | some cause =>
      finish { weather with hearing := weather.hearing.map (· - events.length) }
        (some cause) reports

def turnServing (weather : Weather) (routes : Routes) (beat : Option Duration) :
    Input → Phase × List Output
  | .request (.subscribe subscription) =>
      sending weather
        (.send (.subscribe subscription.id subscription.topic.destination))
        (.serving (routes.filter (·.1 ≠ subscription.id) ++ [(subscription.id, subscription.topic)])
          beat)
  | .request (.unsubscribe id) =>
      if (routes.lookup id).isSome then
        sending weather (.send (.unsubscribe id)) (.serving (routes.filter (·.1 ≠ id)) beat)
      else (.serving routes beat, [])
  | .request .disconnect => sending weather (.send (.disconnect receipt)) .leaving
  | .abandoned => sending weather (.send (.disconnect receipt)) .leaving
  | .message (.close reason) => finish weather (some (.closedByServer reason)) []
  | .message message => serve weather routes beat message
  | .failed cause => breakOff weather cause
  | .ended => finish weather (some .connectionClosed) []
  | .beatDue => if beat.isSome then sending weather .beat (.serving routes beat)
      else (.serving routes beat, [])
  | _ => (.serving routes beat, [])

/-- Whether a frame is the receipt that a leaving session waits for. -/
def isReceipt (frame : Frame) : Bool :=
  frame.command == .receipt && frame.header? "receipt-id" == some receipt

/-- A turn while waiting for the receipt. Whatever ends the wait ends the session. -/
def turnLeaving (weather : Weather) : Input → Phase × List Output
  | .message (.close _) => finish weather none [.close]
  | .message message =>
      if message.frames.any isReceipt then finish weather none [.close] else (.leaving, [])
  | .failed _ => finish weather none [.close]
  | .ended => finish weather none [.close]
  | .waitOver => finish weather none [.close]
  | _ => (.leaving, [])

def turn (plan : SessionPlan) (weather : Weather) (input : Input) : Phase → Phase × List Output
  | .dialling => turnDialling plan weather input
  | .greeting => turnGreeting plan weather input
  | .serving routes beat => turnServing weather routes beat input
  | .leaving => turnLeaving weather input
  | .over => (.over, [])

/-- Whether a session takes requests from its queue. -/
def takesRequests : Phase → Bool
  | .leaving | .over => false
  | _ => true

/-- Turns in a row: the phase they lead to, and all that was done. -/
def run (plan : SessionPlan) : List (Weather × Input) → Phase → Phase × List Output
  | [], phase => (phase, [])
  | (weather, input) :: rest, phase =>
      let (next, outputs) := turn plan weather input phase
      let (last, more) := run plan rest next
      (last, outputs ++ more)

def reports (outputs : List Output) : List SessionEvent :=
  outputs.filterMap fun
    | .report event => some event
    | _ => none

def sent (outputs : List Output) : List Frame :=
  outputs.filterMap fun
    | .send frame => some frame
    | _ => none

end Session

end LedgerBoard
