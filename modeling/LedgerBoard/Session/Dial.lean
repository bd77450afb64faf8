import LedgerBoard.Number.Decimal
import LedgerBoard.Session.Address
import LedgerBoard.Session.Error

/-!
# Dialling

Before a session can be opened, its address is cut into the host and the port to connect to. An
address that is not well formed, or names no host or no known scheme, is refused without dialling.
-/

namespace LedgerBoard

/-- What a session connects to. -/
structure Peer where
  scheme : String
  host : String
  port : Nat
  deriving DecidableEq, Repr

namespace Peer

/-- Whether a character may stand in a scheme. -/
def isSchemeChar (c : Char) : Bool :=
  c.isAlphanum || c == '+' || c == '-' || c == '.'

/-- Whether a character may stand in the authority of an address. -/
def isAuthorityChar (c : Char) : Bool :=
  c.isAlphanum || "!$&'()*+,-.:;=@[]_~".toList.contains c

/-- Whether a character may stand in the path of an address. -/
def isPathChar (c : Char) : Bool :=
  let code := c.toNat
  code == 0x21 || code == 0x22 || (0x24 ≤ code && code ≤ 0x3B) || code == 0x3D ||
    (0x40 ≤ code && code ≤ 0x5F) || (0x61 ≤ code && code ≠ 0x60)

/-- Whether a character may stand in the query of an address. -/
def isQueryChar (c : Char) : Bool :=
  let code := c.toNat
  code == 0x21 || (0x24 ≤ code && code ≠ 0x3C && code ≠ 0x3E)

/-- The most characters that a scheme may have. -/
def schemeLimit : Nat := 64

/-- The most octets that an address may have. -/
def addressLimit : Nat := 65534

/-- The scheme of an address and what follows it, if it has a scheme. -/
def splitScheme? (text : List Char) : Option (List Char × List Char) :=
  match text.dropWhile isSchemeChar with
  | ':' :: '/' :: '/' :: rest => some (text.takeWhile isSchemeChar, rest)
  | _ => none

/-- What was seen of an authority from left to right. -/
structure Scan where
  colons : Nat := 0
  opened : Bool := false
  closed : Bool := false
  percent : Bool := false
  /-- Whether the last character was the mark behind a user name. -/
  afterUser : Bool := false

/-- The most colons between the brackets of a numeric host. -/
def colonLimit : Nat := 8

/-- The fault of an authority that is not well formed. -/
def badAuthority : TransportError := .format "invalid authority"

/-- The fault of a character that may not stand where it does. -/
def badChar : TransportError := .format "invalid uri character"

def Scan.take (scan : Scan) (c : Char) : Except TransportError Scan :=
  let scan := { scan with afterUser := false }
  if c = ':' then
    if colonLimit ≤ scan.colons then .error badAuthority
    else .ok { scan with colons := scan.colons + 1 }
  else if c = '[' then
    if scan.percent || scan.opened then .error badAuthority else .ok { scan with opened := true }
  else if c = ']' then
    if !scan.opened || scan.closed then .error badAuthority
    else .ok { scan with closed := true, colons := 0, percent := false }
  else if c = '@' then .ok { scan with colons := 0, percent := false, afterUser := true }
  else if c = '%' then .ok { scan with percent := true }
  else if isAuthorityChar c then .ok scan
  else .error badChar

def checkAuthority (authority : List Char) : Except TransportError Unit := do
  let scan ← authority.foldlM Scan.take {}
  if scan.opened != scan.closed || 1 < scan.colons || scan.afterUser || scan.percent then
    throw badAuthority

/-- Checks the path and the query of an address. A fragment may hold anything. -/
def checkPath (path : List Char) : Except TransportError Unit :=
  let plain := path.takeWhile (· ≠ '#')
  let query := (plain.dropWhile (· ≠ '?')).drop 1
  if (plain.takeWhile (· ≠ '?')).all isPathChar && query.all isQueryChar then .ok ()
  else .error badChar

/-- The host of an authority: what follows the user name, without the port. -/
def hostOf (authority : List Char) : List Char :=
  let place := (authority.reverse.takeWhile (· ≠ '@')).reverse
  match place with
  | '[' :: _ => place.takeWhile (· ≠ ']') ++ [']']
  | _ => place.takeWhile (· ≠ ':')

/-- The port of an authority: the numeral behind its last colon. -/
def portOf? (authority : List Char) : Option Nat :=
  if authority.contains ':' then
    Number.unsigned? 65535 (authority.reverse.takeWhile (· ≠ ':')).reverse
  else none

def usualPort? (scheme : List Char) : Option Nat :=
  if scheme = ['w', 's'] then some 80
  else if scheme = ['w', 's', 's'] then some 443
  else none

/-- The peer that an authority below a scheme names. -/
def ofAuthority (scheme authority : List Char) : Except TransportError Peer :=
  if ((authority.dropWhile (· ≠ '@')).drop 1).isEmpty && authority.contains '@' then
    .error (.address .emptyHost)
  else
    match portOf? authority <|> usualPort? scheme with
    | some port => .ok ⟨String.ofList scheme, String.ofList (hostOf authority), port⟩
    | none => .error (.address .unsupportedScheme)

def ofAddress (address : String) : Except TransportError Peer := do
  let text := address.toList
  if addressLimit < address.utf8ByteSize then throw (.format "uri too long")
  if text.isEmpty then throw (.format "empty string")
  if text.head? = some '/' then
    checkPath text
    throw (.address .noHost)
  match splitScheme? text with
  | none =>
      checkAuthority (text.takeWhile fun c => !Address.endsHost c)
      if text.any Address.endsHost then throw (.format "invalid format")
      else ofAuthority [] text
  | some (scheme, rest) =>
      if schemeLimit < scheme.length then throw (.format "scheme too long")
      let authority := rest.takeWhile fun c => !Address.endsHost c
      checkAuthority authority
      if authority.isEmpty then throw (.format "invalid format")
      checkPath (rest.drop authority.length)
      ofAuthority scheme authority

/-- Whether a host is given by numbers, so that its name need not be looked up. -/
def isNumeric (peer : Peer) : Bool :=
  match peer.host.toList with
  | '[' :: _ => true
  | host => host.all fun c => c.isDigit || c == '.'

end Peer

/-- Checks that the scheme is the one of plain sockets. Encrypted ones are not supported. -/
def Peer.checkScheme (peer : Peer) : Except TransportError Unit :=
  if peer.scheme = "ws" then .ok ()
  else if peer.scheme = "wss" then .error (.address .noEncryption)
  else .error (.address .unsupportedScheme)

/-- How dialling an address turns out where `reach` says which peers can be reached. The scheme
counts only once the peer is reached. -/
def Session.dial (reach : Peer → Except TransportError Unit) (address : String) :
    Except TransportError Unit := do
  let peer ← Peer.ofAddress address
  reach peer
  peer.checkScheme

/-- A place from which no peer can be reached: numbers lead nowhere, and nobody knows the names of
hosts but that of the place itself. -/
def offline (peer : Peer) : Except TransportError Unit :=
  if peer.isNumeric || peer.host == "localhost" then .error .unreachable
  else .error .unknownHost

end LedgerBoard
