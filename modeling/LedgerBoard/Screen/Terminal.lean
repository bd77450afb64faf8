import LedgerBoard.Screen.Canvas
import LedgerBoard.Text.Cluster

/-!
# Screens of a terminal

What a reader sees of a canvas: the columns that a wide mark covers show nothing of their own, and
blanks at the end of a line cannot be seen.
-/

namespace LedgerBoard.Canvas

/-- The text of cells of which the first ones are covered. -/
def seen : Nat → List Cell → List Char
  | _, [] => []
  | covered + 1, _ :: rest => seen covered rest
  | 0, cell :: rest => cell.symbol ++ seen (Text.clusterWidth cell.symbol - 1) rest

def seenLine (canvas : Canvas) (width y : Nat) : String :=
  let text := seen 0 (canvas.line width y)
  String.ofList (text.reverse.dropWhile (· == ' ')).reverse

/-- What is seen of a screen, line by line. -/
def seenLines (canvas : Canvas) (width height : Nat) : List String :=
  (List.range height).map (canvas.seenLine width)

end LedgerBoard.Canvas
