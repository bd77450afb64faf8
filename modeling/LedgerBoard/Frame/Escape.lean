import LedgerBoard.Frame.Basic

/-!
# Header escaping

Outside the two opening frames, header names and values stand on their line with four characters
escaped. `escape` always succeeds; `unescape` refuses every escape that is not one of the four.
-/

namespace LedgerBoard.Header

/-- The text that stands on the wire for one character of a header. -/
def escapeChar (c : Char) : List Char :=
  if c = '\\' then ['\\', '\\']
  else if c = '\n' then ['\\', 'n']
  else if c = '\r' then ['\\', 'r']
  else if c = ':' then ['\\', 'c']
  else [c]

/-- The text that stands on the wire for a header name or value. -/
def escapeChars (text : List Char) : List Char :=
  text.flatMap escapeChar

/-- The character that a backslash and `c` stand for. -/
def unescapeChar? (c : Char) : Option Char :=
  if c = '\\' then some '\\'
  else if c = 'n' then some '\n'
  else if c = 'r' then some '\r'
  else if c = 'c' then some ':'
  else none

/-- The header name or value that a text on the wire stands for. -/
def unescapeChars : List Char → Except FrameError (List Char)
  | [] => .ok []
  | '\\' :: [] => .error (.invalidEscape "\\")
  | '\\' :: c :: rest =>
      match unescapeChar? c with
      | some plain => (unescapeChars rest).map (plain :: ·)
      | none => .error (.invalidEscape (String.ofList ['\\', c]))
  | c :: rest => (unescapeChars rest).map (c :: ·)

/-- Writes a header name or value so that it fits on a header line. -/
def escape (text : String) : String :=
  String.ofList (escapeChars text.toList)

def unescape (text : String) : Except FrameError String :=
  (unescapeChars text.toList).map String.ofList

end LedgerBoard.Header
