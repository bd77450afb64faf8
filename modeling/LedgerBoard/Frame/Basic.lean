/-!
# Frames

A frame is the unit of the messaging protocol between a dashboard and a ledger node: a command,
headers in wire order, and a body. This file holds the frame, the frames that a client sends, and
the reasons for which a text is not a frame.
-/

namespace LedgerBoard

/-- What a frame asks for or reports. -/
inductive Command where
  | connect
  | stomp
  | send
  | subscribe
  | unsubscribe
  | ack
  | nack
  | begin
  | commit
  | abort
  | disconnect
  | connected
  | message
  | receipt
  | error
  deriving DecidableEq, Repr

namespace Command

def all : List Command :=
  [connect, stomp, send, subscribe, unsubscribe, ack, nack, begin, commit, abort, disconnect,
    connected, message, receipt, error]

def wireName : Command → String
  | connect => "CONNECT"
  | stomp => "STOMP"
  | send => "SEND"
  | subscribe => "SUBSCRIBE"
  | unsubscribe => "UNSUBSCRIBE"
  | ack => "ACK"
  | nack => "NACK"
  | begin => "BEGIN"
  | commit => "COMMIT"
  | abort => "ABORT"
  | disconnect => "DISCONNECT"
  | connected => "CONNECTED"
  | message => "MESSAGE"
  | receipt => "RECEIPT"
  | error => "ERROR"

/-- The command with a given spelling. Letter case counts. -/
def ofWireName? (name : String) : Option Command :=
  all.find? fun command => command.wireName == name

/-- The two frames that open a session carry their headers verbatim; all others escape them. -/
def escapesHeaders : Command → Bool
  | connect | connected => false
  | _ => true

theorem ofWireName?_wireName (command : Command) :
    ofWireName? command.wireName = some command := by
  cases command <;> decide

end Command

/-- Why a text is not a frame. -/
inductive FrameError where
  | unknownCommand (name : String)
  | malformedHeader (line : String)
  | invalidEscape (sequence : String)
  | invalidContentLength (value : String)
  | missingTerminator
  | incomplete
  deriving DecidableEq, Repr

def FrameError.message : FrameError → String
  | unknownCommand name => s!"unknown STOMP command: {name}"
  | malformedHeader line => s!"malformed header line: {line}"
  | invalidEscape sequence => s!"invalid header escape: {sequence}"
  | invalidContentLength value => s!"invalid content-length: {value}"
  | missingTerminator => "frame is missing its NUL terminator"
  | incomplete => "incomplete frame"

/-- A header line. -/
structure Header where
  name : String
  value : String
  deriving DecidableEq, Repr

/-- One protocol frame. Header names may repeat. -/
structure Frame where
  command : Command
  headers : List Header
  body : String
  deriving DecidableEq, Repr

namespace Frame

/-- The value of the first header with a given name. -/
def header? (frame : Frame) (name : String) : Option String :=
  (frame.headers.find? fun header => header.name == name).map (·.value)

/-- The protocol versions that a client offers. -/
def acceptVersion : String := "1.1,1.2"

/-- Opens a session on `host` without credentials. The client offers a heart-beat every `millis`
milliseconds and asks for none. -/
def connect (host : String) (millis : Nat) : Frame :=
  ⟨.connect, [⟨"accept-version", acceptVersion⟩, ⟨"host", host⟩,
    ⟨"heart-beat", s!"{millis},0"⟩], ""⟩

/-- Asks for the messages of a destination, acknowledged automatically. -/
def subscribe (id destination : String) : Frame :=
  ⟨.subscribe, [⟨"id", id⟩, ⟨"destination", destination⟩, ⟨"ack", "auto"⟩], ""⟩

def unsubscribe (id : String) : Frame :=
  ⟨.unsubscribe, [⟨"id", id⟩], ""⟩

def disconnect (receipt : String) : Frame :=
  ⟨.disconnect, [⟨"receipt", receipt⟩], ""⟩

end Frame

end LedgerBoard
