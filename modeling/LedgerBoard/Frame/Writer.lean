import LedgerBoard.Frame.Escape
import LedgerBoard.Number.Decimal
import LedgerBoard.Text.Octets

/-!
# Writing frames

A frame is written as its command, one line for each header, an empty line, the body and a NUL.
A body that is not empty is announced by its length in octets unless the frame already has a
`content-length` header.
-/

namespace LedgerBoard.Frame

/-- The name of the header that holds the length of the body. -/
def contentLength : String := "content-length"

/-- The header line of a header, without its line feed. -/
def headerLine (command : Command) (header : Header) : List Char :=
  let spell := if command.escapesHeaders then Header.escapeChars else id
  spell header.name.toList ++ ':' :: spell header.value.toList

/-- The frame with the length of its body announced. -/
def announced (frame : Frame) : Frame :=
  if frame.body.isEmpty || (frame.header? contentLength).isSome then frame
  else
    let length := String.ofList (Number.decimal (Text.octets frame.body.toList))
    { frame with headers := frame.headers ++ [⟨contentLength, length⟩] }

/-- The text of a frame, with the headers that it has. -/
def chars (frame : Frame) : List Char :=
  frame.command.wireName.toList ++
    '\n' :: frame.headers.flatMap (fun header => headerLine frame.command header ++ ['\n']) ++
    '\n' :: frame.body.toList ++ [Char.ofNat 0]

def encode (frame : Frame) : String :=
  String.ofList frame.announced.chars

end LedgerBoard.Frame
