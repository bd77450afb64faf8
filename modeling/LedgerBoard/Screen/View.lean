import LedgerBoard.Dashboard.App
import LedgerBoard.Screen.Table

/-!
# The view of the application

From top to bottom: a header, the controls with the state of the session, the two tables or a
message in their place, and a footer.
-/

namespace LedgerBoard

namespace View

def heading : String := "Block Dashboard"

def version : String := "v0.1.0"

/-- What the footer says while there is no message. -/
def keyHint : String := "[c] Connect  [d] Disconnect  [q] Quit"

/-- The areas of the view. -/
structure Layout where
  header : Area
  controls : Area
  body : Area
  footer : Area
  deriving DecidableEq, Repr

/-- The fewest lines of the body, if there is room. -/
def bodyHeight : Nat := 3

/-- Divides a screen from top to bottom. The body gets its fewest lines first and all that are left
over; the other parts have one line each, as long as there is room. -/
def layout (width height : Nat) : Layout :=
  let spare := height - bodyHeight
  let header := min spare 1
  let controls := min (spare - header) 1
  let footer := min (spare - header - controls) 1
  let body := height - header - controls - footer
  { header := ⟨0, 0, width, header⟩
    controls := ⟨0, header, width, controls⟩
    body := ⟨0, header + controls, width, body⟩
    footer := ⟨0, header + controls + body, width, footer⟩ }

/-- The left and the right half of an area. An odd width gives the left half one column more. -/
def halves (area : Area) : Area × Area :=
  let left := (area.width + 1) / 2
  ({ area with width := left }, { area with x := area.x + left, width := area.width - left })

def headerSpans (width : Nat) : List Span :=
  let padding := width - heading.length - version.length
  [⟨heading, { color := some .cyan }⟩, ⟨String.ofList (List.replicate padding ' '), {}⟩,
    ⟨version, { color := some .darkGray }⟩]

/-- The style of a control that can be used or not. -/
def controlTint (usable : Bool) : Tint :=
  if usable then { color := some .green, bold := true } else { color := some .darkGray }

/-- What is said about the state of the session. -/
def stateSpan (app : App) : Span :=
  if app.dashboard.isConnected then ⟨"connected", { color := some .green }⟩
  else if app.isConnecting then ⟨"connecting", { color := some .yellow }⟩
  else ⟨"disconnected", { color := some .darkGray }⟩

def controlSpans (app : App) : List Span :=
  let controls := app.dashboard.controls
  [⟨"[c] Connect", controlTint controls.connect⟩, ⟨"  ", {}⟩,
    ⟨"[d] Disconnect", controlTint controls.disconnect⟩, ⟨"   ", {}⟩, stateSpan app,
    ⟨"  " ++ app.plan.url, { color := some .darkGray }⟩]

def placeholder (app : App) : String :=
  if app.isConnecting then s!"Connecting to {app.plan.url} ..."
  else "Not connected. Press c to connect."

/-- The footer: a message that has not expired, or a hint at the keys. -/
def footerSpan (app : App) (now : Nat) : Span :=
  match app.notice.filter (Notice.isFresh now) with
  | some notice => ⟨notice.text, { color := some .yellow }⟩
  | none => ⟨keyHint, { color := some .darkGray }⟩

/-- Draws lines of text one below the other in the middle of an area. -/
def drawLines (area : Area) : Nat → List String → Canvas → Canvas
  | _, [], canvas => canvas
  | index, text :: rest, canvas =>
      if index < area.height then
        drawLines area (index + 1) rest (Line.drawCentered (area.line index) text canvas)
      else canvas

/-- Draws the message in place of the tables. -/
def drawPlaceholder (area : Area) (app : App) (canvas : Canvas) : Canvas :=
  canvas
    |> Canvas.tint area { color := some .darkGray }
    |> Border.draw area
    |> drawLines area.inner 0 (Line.split (placeholder app))

def drawTables (area : Area) (dashboard : Dashboard) (canvas : Canvas) : Canvas :=
  let (left, right) := halves area
  canvas
    |> Table.draw left .blocks dashboard.blocks.rows
    |> Table.draw right .transactions dashboard.transactions.rows

/-- Draws the application on a screen of a given size. -/
def draw (width height now : Nat) (app : App) : Canvas :=
  let parts := layout width height
  let framed := Canvas.blank
    |> Line.draw parts.header (headerSpans width)
    |> Line.draw parts.controls (controlSpans app)
  let filled :=
    if app.dashboard.showsTables then drawTables parts.body app.dashboard framed
    else drawPlaceholder parts.body app framed
  filled |> Line.draw parts.footer [footerSpan app now]

end View

end LedgerBoard
