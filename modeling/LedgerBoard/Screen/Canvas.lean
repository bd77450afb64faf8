/-!
# Canvases

A canvas gives every cell of a screen its symbol and style. Drawing turns a canvas into another one,
and looking at a cell tells what was drawn there last.
-/

namespace LedgerBoard

/-- A text colour. -/
inductive Color where
  | usual
  | cyan
  | green
  | yellow
  | darkGray
  deriving DecidableEq, Repr

/-- How a cell is drawn. -/
structure Style where
  color : Color
  bold : Bool
  deriving DecidableEq, Repr

/-- The style of a cell that nothing was said about. -/
def Style.plain : Style := ⟨.usual, false⟩

/-- A change of style. -/
structure Tint where
  color : Option Color := none
  bold : Bool := false
  deriving DecidableEq, Repr

def Style.tinted (style : Style) (tint : Tint) : Style :=
  ⟨tint.color.getD style.color, tint.bold || style.bold⟩

/-- A cell: what is drawn in it, and how. -/
structure Cell where
  symbol : List Char
  style : Style
  deriving DecidableEq, Repr

def Cell.blank : Cell := ⟨[' '], .plain⟩

/-- A rectangle of cells. -/
structure Area where
  x : Nat
  y : Nat
  width : Nat
  height : Nat
  deriving DecidableEq, Repr

namespace Area

def right (area : Area) : Nat := area.x + area.width

def bottom (area : Area) : Nat := area.y + area.height

def isEmpty (area : Area) : Bool := area.width == 0 || area.height == 0

def contains (area : Area) (x y : Nat) : Bool :=
  area.x ≤ x && x < area.right && area.y ≤ y && y < area.bottom

def line (area : Area) (index : Nat) : Area :=
  ⟨area.x, area.y + index, area.width, 1⟩

end Area

/-- What is drawn at every place, by column and line. -/
abbrev Canvas := Nat → Nat → Cell

namespace Canvas

def blank : Canvas := fun _ _ => .blank

def tint (area : Area) (change : Tint) (canvas : Canvas) : Canvas := fun x y =>
  let cell := canvas x y
  if area.contains x y then { cell with style := cell.style.tinted change } else cell

end Canvas

/-- What is drawn into one cell. -/
inductive Glyph where
  | mark (symbol : List Char) (tint : Tint)
  /-- The second column of a wide mark. -/
  | covered
  deriving DecidableEq, Repr

/-- A cell after something was drawn into it. -/
def Glyph.drawn (cell : Cell) : Glyph → Cell
  | mark symbol tint => ⟨symbol, cell.style.tinted tint⟩
  | covered => .blank

namespace Canvas

def draw (x y : Nat) (glyphs : List Glyph) (canvas : Canvas) : Canvas := fun column row =>
  let cell := canvas column row
  if row = y ∧ x ≤ column then
    match glyphs[column - x]? with
    | some glyph => glyph.drawn cell
    | none => cell
  else cell

/-- Draws one symbol into every cell of an area. -/
def fill (area : Area) (symbol : Char) (change : Tint) (canvas : Canvas) : Canvas := fun x y =>
  let cell := canvas x y
  if area.contains x y then ⟨[symbol], cell.style.tinted change⟩ else cell

def line (canvas : Canvas) (width y : Nat) : List Cell :=
  (List.range width).map fun x => canvas x y

def lineText (canvas : Canvas) (width y : Nat) : String :=
  String.ofList ((canvas.line width y).flatMap (·.symbol))

end Canvas

/-- A run of cells of one style that is not the plain one; the end is not part of it. -/
structure StyleRun where
  start : Nat
  stop : Nat
  style : Style
  deriving DecidableEq, Repr

namespace StyleRun

/-- Adds the cell of a column to runs that are given last run first. -/
def add (runs : List StyleRun) (column : Nat) (style : Style) : List StyleRun :=
  if style = .plain then runs
  else
    match runs with
    | run :: earlier =>
        if run.stop = column ∧ run.style = style then { run with stop := column + 1 } :: earlier
        else ⟨column, column + 1, style⟩ :: runs
    | [] => [⟨column, column + 1, style⟩]

def ofLine (canvas : Canvas) (width y : Nat) : List StyleRun :=
  ((List.range width).foldl (fun runs x => add runs x (canvas x y).style) []).reverse

end StyleRun

end LedgerBoard
