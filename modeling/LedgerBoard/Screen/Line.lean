import LedgerBoard.Screen.Canvas
import LedgerBoard.Text.Cluster

/-!
# Lines of text on a screen

A line is a sequence of spans, each in one style. It is never wrapped: what does not fit is cut off
at the right edge.
-/

namespace LedgerBoard

/-- A text in one style. -/
structure Span where
  text : String
  tint : Tint := {}
  deriving DecidableEq, Repr

/-- A cluster and its style. -/
structure Piece where
  cluster : List Char
  tint : Tint
  deriving DecidableEq, Repr

namespace Piece

def width (piece : Piece) : Nat := Text.clusterWidth piece.cluster

/-- The glyphs of a piece: its mark, and a covered cell for every further column. -/
def glyphs (piece : Piece) : List Glyph :=
  .mark piece.cluster piece.tint :: List.replicate (piece.width - 1) .covered

end Piece

/-- The pieces of a span. Line feeds are left out. -/
def Span.pieces (span : Span) : List Piece :=
  ((Text.clusters span.text.toList).filter (· ≠ ['\n'])).map (⟨·, span.tint⟩)

namespace Line

/-- The pieces that fit into a number of columns. The first one that does not fit ends them; pieces
wider than all columns together are passed over. -/
def fitting (limit : Nat) : Nat → List Piece → List Piece
  | _, [] => []
  | used, piece :: rest =>
      if limit < piece.width then fitting limit used rest
      else if limit < used + piece.width then []
      else piece :: fitting limit (used + piece.width) rest

def width : List Piece → Nat
  | [] => 0
  | piece :: rest => piece.width + width rest

/-- The glyphs of pieces. Pieces without a column of their own are left out. -/
def glyphs (pieces : List Piece) : List Glyph :=
  (pieces.filter (0 < ·.width)).flatMap Piece.glyphs

/-- Draws spans from the left edge of an area. -/
def draw (area : Area) (spans : List Span) (canvas : Canvas) : Canvas :=
  if area.isEmpty then canvas
  else canvas.draw area.x area.y (glyphs (fitting area.width 0 (spans.flatMap Span.pieces)))

/-- Draws a text in the middle of an area: half of its columns, rounded down, stand left of the
middle column. -/
def drawCentered (area : Area) (text : String) (canvas : Canvas) : Canvas :=
  if area.isEmpty then canvas
  else
    let pieces := fitting area.width 0 (Span.pieces ⟨text, {}⟩)
    canvas.draw (area.x + (area.width / 2 - width pieces / 2)) area.y (glyphs pieces)

/-- A text without the carriage returns it ends with, of which there is at most one. -/
def dropReturn (text : List Char) : List Char :=
  if text.getLast? = some '\r' then text.dropLast else text

/-- The lines of a text. A line feed at the end does not start another one. -/
def split (text : String) : List String :=
  let parts := text.toList.splitOn '\n'
  let lines := if parts.getLast? = some [] then parts.dropLast else parts
  lines.map fun line => String.ofList (dropReturn line)

end Line

namespace Column

/-- Adds a piece to the glyphs of a table cell, which are given last glyph first. A piece without a
column of its own joins the mark before it. -/
def addPiece (glyphs : List Glyph) (piece : Piece) : List Glyph :=
  match piece.width, glyphs with
  | 0, .mark symbol tint :: earlier => .mark (symbol ++ piece.cluster) tint :: earlier
  | 0, _ => glyphs
  | _, _ => piece.glyphs.reverse ++ glyphs

/-- The pieces that fit into a number of columns; the first one that does not fit ends them. -/
def fitting (limit : Nat) : Nat → List Piece → List Piece
  | _, [] => []
  | used, piece :: rest =>
      if limit < used + piece.width then [] else piece :: fitting limit (used + piece.width) rest

/-- The glyphs of a table cell of a given width. -/
def glyphs (width : Nat) (text : String) : List Glyph :=
  ((fitting width 0 (Span.pieces ⟨text, {}⟩)).foldl addPiece []).reverse

/-- Draws the first line of a text into a table cell. -/
def draw (area : Area) (text : String) (canvas : Canvas) : Canvas :=
  if area.isEmpty then canvas
  else canvas.draw area.x area.y (glyphs area.width ((Line.split text).headD ""))

end Column

end LedgerBoard
