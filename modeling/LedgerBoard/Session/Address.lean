/-!
# Node addresses

A node is named by a base address such as `ws://127.0.0.1:8080`. Sessions are opened at a fixed
path below it, and the opening frame names the host that stands in the address.
-/

namespace LedgerBoard.Address

/-- The path at which a node accepts sessions. -/
def endpointPath : String := "/ws"

def dropSlashes (text : List Char) : List Char :=
  (text.reverse.dropWhile (· == '/')).reverse

/-- The address at which sessions with the node at a base address are opened. -/
def endpoint (base : String) : String :=
  String.ofList (dropSlashes base.toList) ++ endpointPath

/-- What follows the first `://` of a text. -/
def afterScheme? : List Char → Option (List Char)
  | ':' :: '/' :: '/' :: rest => some rest
  | _ :: rest => afterScheme? rest
  | [] => none

/-- Whether a character ends the host part of an address. -/
def endsHost (c : Char) : Bool :=
  c == '/' || c == '?' || c == '#'

/-- The host part of an address: what stands between the scheme and the path. -/
def hostChars (text : List Char) : List Char :=
  ((afterScheme? text).getD text).takeWhile fun c => !endsHost c

def host (text : String) : String :=
  String.ofList (hostChars text.toList)

end LedgerBoard.Address
