import LedgerBoard.Text.Octets

/-!
# Positions in a text

A position names a place in a text by its line and by the octets before it on that line. Readers
report a place by the text that they have not read; `positionBefore` turns that into a position.
-/

namespace LedgerBoard.Text

def lastLine (text : List Char) : List Char :=
  (text.reverse.takeWhile (· ≠ '\n')).reverse

def lineFeeds (text : List Char) : Nat :=
  text.count '\n'

/-- What was read of a text when `rest` is what was not. -/
def readBefore (text rest : List Char) : List Char :=
  text.take (text.length - rest.length)

/-- The line on which a text ends, counted from one, and the octets on it. -/
def endPosition (text : List Char) : Nat × Nat :=
  (lineFeeds text + 1, octets (lastLine text))

/-- The line and the octets read on it when `rest` is what was not read of a text. -/
def positionBefore (text rest : List Char) : Nat × Nat :=
  endPosition (readBefore text rest)

end LedgerBoard.Text
