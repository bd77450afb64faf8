import LedgerBoard.Screen.Line

/-!
# Borders

A border takes the outermost cells of an area. A title is written over the top border, from the
second column on.
-/

namespace LedgerBoard

namespace Area

def inner (area : Area) : Area :=
  ⟨area.x + min area.width 1, area.y + min area.height 1, area.width - 2, area.height - 2⟩

end Area

namespace Border

/-- Draws the border of an area. In a narrow area the upper left corner hides the others. -/
def draw (area : Area) (canvas : Canvas) : Canvas :=
  if area.isEmpty then canvas
  else
    let last := area.right - 1
    let low := area.bottom - 1
    canvas
      |> Canvas.fill ⟨area.x, area.y, 1, area.height⟩ '│' {}
      |> Canvas.fill ⟨area.x, area.y, area.width, 1⟩ '─' {}
      |> Canvas.fill ⟨last, area.y, 1, area.height⟩ '│' {}
      |> Canvas.fill ⟨area.x, low, area.width, 1⟩ '─' {}
      |> Canvas.fill ⟨last, low, 1, 1⟩ '┘' {}
      |> Canvas.fill ⟨last, area.y, 1, 1⟩ '┐' {}
      |> Canvas.fill ⟨area.x, low, 1, 1⟩ '└' {}
      |> Canvas.fill ⟨area.x, area.y, 1, 1⟩ '┌' {}

/-- Draws the border of an area with a title. -/
def drawTitled (area : Area) (title : String) (canvas : Canvas) : Canvas :=
  (draw area canvas) |> Column.draw ⟨area.x + 1, area.y, area.width - 2, min area.height 1⟩ title

end Border

end LedgerBoard
