import LedgerBoard.Frame.Basic

/-!
# Session errors

The reasons for which a session ends, or for which a request to it is refused, and their wording.
-/

namespace LedgerBoard

/-- What is wrong with the address of a transport. -/
inductive AddressFault where
  | unsupportedScheme
  | noHost
  | emptyHost
  | noEncryption
  deriving DecidableEq, Repr

def AddressFault.message : AddressFault → String
  | unsupportedScheme => "URL scheme not supported"
  | noHost => "No host name in the URL"
  | emptyHost => "URL contains empty host name"
  | noEncryption => "TLS support not compiled in"

/-- Why a transport could not be opened or broke off. -/
inductive TransportError where
  /-- The operating system reports a failure. -/
  | system (text : String)
  /-- The peer broke the rules of the transport. -/
  | protocol (text : String)
  /-- The peer answered the opening request with another status. -/
  | status (line : String)
  /-- The address names no transport. -/
  | address (fault : AddressFault)
  /-- The address is not well formed. -/
  | format (text : String)
  /-- A text message is not encoded as UTF-8. -/
  | encoding
  deriving DecidableEq, Repr

namespace TransportError

def message : TransportError → String
  | system text => s!"IO error: {text}"
  | protocol text => s!"WebSocket protocol error: {text}"
  | status line => s!"HTTP error: {line}"
  | address fault => s!"URL error: {fault.message}"
  | format text => s!"HTTP format error: {text}"
  | encoding => "UTF-8 encoding error"

def unreachable : TransportError := system "Network is unreachable (os error 101)"

/-- The name of the host cannot be looked up. -/
def unknownHost : TransportError :=
  system "failed to lookup address information: Temporary failure in name resolution"

def refused : TransportError := system "Connection refused (os error 111)"

/-- The peer went away without a closing handshake. -/
def reset : TransportError := protocol "Connection reset without closing handshake"

/-- The peer went away during the opening handshake. -/
def unfinished : TransportError := protocol "Handshake not finished"

end TransportError

/-- Why a session ended or refuses a request. -/
inductive SessionError where
  | transport (cause : TransportError)
  | server (message : String)
  | unexpectedFrame (command : Command)
  | closedByServer (reason : Option String)
  | connectionClosed
  | sessionEnded
  | eventsDropped
  deriving DecidableEq, Repr

def SessionError.message : SessionError → String
  | transport cause => s!"transport error: {cause.message}"
  | server message => s!"server error: {message}"
  | unexpectedFrame command =>
      s!"unexpected {command.wireName} frame while waiting for CONNECTED"
  | closedByServer reason => "connection closed by server: " ++ reason.getD "no reason given"
  | connectionClosed => "connection closed unexpectedly"
  | sessionEnded => "session has ended"
  | eventsDropped => "session event receiver dropped"

end LedgerBoard
