import LedgerBoard.Proofs.Screen.Canvas
import LedgerBoard.Proofs.Text.Printable
import LedgerBoard.Screen.Border

/-!
# Text in columns and borders

A text drawn into a column stays inside it, whatever its characters are. Of a printable text the
column shows as many characters as fit, and behind them what stood there before. A border changes
the rim of its area only.
-/

namespace LedgerBoard

open Text (Printable)

namespace Column

theorem length_addPiece_le (glyphs : List Glyph) (piece : Piece) :
    (addPiece glyphs piece).length ≤ glyphs.length + piece.width := by
  rw [addPiece.eq_def]
  split
  · simp
  · omega
  · rename_i some_width _
    have one : 0 < piece.width := Nat.pos_of_ne_zero some_width
    simp only [Piece.glyphs, List.length_append, List.length_reverse, List.length_cons,
      List.length_replicate]
    omega

theorem length_foldl_addPiece_le (glyphs : List Glyph) (pieces : List Piece) :
    (pieces.foldl addPiece glyphs).length ≤ glyphs.length + Line.width pieces := by
  induction pieces generalizing glyphs with
  | nil => simp [Line.width]
  | cons piece rest ih =>
      have added := length_addPiece_le glyphs piece
      have further := ih (addPiece glyphs piece)
      rw [List.foldl_cons, Line.width]
      omega

theorem width_fitting_le {limit used : Nat} (pieces : List Piece) (within : used ≤ limit) :
    used + Line.width (fitting limit used pieces) ≤ limit := by
  fun_induction fitting limit used pieces with
  | case1 used => simpa [Line.width] using within
  | case2 used piece rest too_wide => simpa [Line.width] using within
  | case3 used piece rest fits ih =>
      have further := ih (by omega)
      rw [Line.width]
      omega

/-- A text takes no more cells than its column has. -/
theorem length_glyphs_le (width : Nat) (text : String) : (glyphs width text).length ≤ width := by
  have drawn := length_foldl_addPiece_le [] (fitting width 0 (Span.pieces ⟨text, {}⟩))
  have fits := width_fitting_le (Span.pieces ⟨text, {}⟩) (Nat.zero_le width)
  rw [glyphs, List.length_reverse]
  simp only [List.length_nil] at drawn
  omega

/-- Drawing a column changes nothing outside its area. -/
theorem changesOnly_draw {area : Area} {text : String} {canvas : Canvas} :
    canvas.ChangesOnly area.Has (draw area text canvas) := by
  rw [draw]
  split
  · exact .refl
  · rename_i solid
    rw [Bool.not_eq_true, Area.isEmpty_eq_false_iff] at solid
    exact Canvas.changesOnly_draw (length_glyphs_le _ _) solid.2

end Column

/-- The piece of a single character. -/
def Piece.ofChar (c : Char) : Piece :=
  ⟨[c], {}⟩

theorem Span.pieces_of_printable {text : String} (printable : ∀ c ∈ text.toList, Printable c) :
    Span.pieces ⟨text, {}⟩ = text.toList.map Piece.ofChar := by
  have no_feed : ∀ cluster ∈ text.toList.map ([·]), cluster ≠ ['\n'] := by
    intro cluster mem
    obtain ⟨c, found, rfl⟩ := List.mem_map.mp mem
    rintro ⟨⟩
    exact absurd (printable '\n' found).1 (by decide)
  rw [pieces, Text.clusters_of_printable printable,
    List.filter_eq_self.mpr (by simpa using no_feed), List.map_map]
  rfl

theorem Line.headD_split_of_printable {text : String} (printable : ∀ c ∈ text.toList, Printable c) :
    (split text).headD "" = text := by
  have no_feed : '\n' ∉ text.toList := fun mem => absurd (printable _ mem).1 (by decide)
  have no_return : text.toList.getLast? ≠ some '\r' := by
    intro last
    exact absurd (printable _ (List.mem_of_getLast? last)).1 (by decide)
  rw [split, List.splitOn_eq_singleton no_feed]
  by_cases empty : text = ""
  · subst empty
    rfl
  · simp [empty, dropReturn, no_return]

namespace Column

variable {text : List Char}

theorem fitting_of_printable {limit used : Nat} (printable : ∀ c ∈ text, Printable c)
    (within : used ≤ limit) :
    fitting limit used (text.map Piece.ofChar) = (text.take (limit - used)).map Piece.ofChar := by
  induction text generalizing used with
  | nil => simp [fitting]
  | cons c rest ih =>
      have one : (Piece.ofChar c).width = 1 :=
        (printable c List.mem_cons_self).clusterWidth_singleton
      rw [List.map_cons, fitting, one]
      split
      · rw [show limit - used = 0 by omega]
        rfl
      · rw [ih (fun d mem => printable d (List.mem_cons_of_mem c mem)) (by omega),
          show limit - used = limit - (used + 1) + 1 by omega]
        rfl

theorem foldl_addPiece_of_printable (glyphs : List Glyph) (printable : ∀ c ∈ text, Printable c) :
    (text.map Piece.ofChar).foldl addPiece glyphs =
      (text.map fun c => .mark [c] {}).reverse ++ glyphs := by
  induction text generalizing glyphs with
  | nil => rfl
  | cons c rest ih =>
      have one : (Piece.ofChar c).width = 1 :=
        (printable c List.mem_cons_self).clusterWidth_singleton
      have added : addPiece glyphs (Piece.ofChar c) = .mark [c] {} :: glyphs := by
        simp only [addPiece, one, Piece.glyphs]
        rfl
      rw [List.map_cons, List.foldl_cons, added,
        ih _ (fun d mem => printable d (List.mem_cons_of_mem c mem))]
      simp

/-- The glyphs of a printable text are its characters, as far as they fit. -/
theorem glyphs_of_printable {text : String} (width : Nat)
    (printable : ∀ c ∈ text.toList, Printable c) :
    glyphs width text = (text.toList.take width).map fun c => .mark [c] {} := by
  rw [glyphs, Span.pieces_of_printable printable,
    fitting_of_printable printable (Nat.zero_le width),
    foldl_addPiece_of_printable _ fun c mem => printable c (List.mem_of_mem_take mem)]
  simp

/-- A text cut to a width, or filled up to it. -/
def fitted (filler : Char) (width : Nat) (text : List Char) : List Char :=
  (text.take width).rightpad width filler

@[simp] theorem length_fitted (filler : Char) (width : Nat) (text : List Char) :
    (fitted filler width text).length = width := by
  simp only [fitted, List.rightpad, List.length_append, List.length_take, List.length_replicate]
  omega

theorem fitted_of_length_eq {width : Nat} (exact : text.length = width) (filler : Char) :
    fitted filler width text = text := by
  simp [fitted, List.rightpad, ← exact]

/-- A fitted text shows the text and then the filler. -/
theorem getElem?_fitted {filler : Char} {width offset : Nat} (inside : offset < width) :
    (fitted filler width text)[offset]? = some (text[offset]?.getD filler) := by
  rcases Nat.lt_or_ge offset text.length with found | behind
  · have taken : offset < (text.take width).length := by
      rw [List.length_take]
      omega
    rw [fitted, List.rightpad, List.getElem?_append_left taken, List.getElem?_take_of_lt inside,
      List.getElem?_eq_getElem found, Option.getD_some]
  · have padded : (text.take width).length ≤ offset := by
      rw [List.length_take]
      omega
    rw [fitted, List.rightpad, List.getElem?_append_right padded, List.getElem?_replicate_of_lt,
      List.getElem?_eq_none behind, Option.getD_none]
    rw [List.length_take] at padded ⊢
    omega

section

variable {text : String} {canvas : Canvas} {x y width height : Nat}

/-- A column shows a printable text: cut off where the column ends, and filled up by what stood
there before. -/
theorem draw_shows {filler : Char} (printable : ∀ c ∈ text.toList, Printable c) (solid : 0 < height)
    (backdrop : ∀ column, x ≤ column → column < x + width → (canvas column y).symbol = [filler]) :
    (draw ⟨x, y, width, height⟩ text canvas).Shows x y (fitted filler width text.toList) := by
  intro offset c found
  have inside : offset < width := by
    have bound := (List.getElem?_eq_some_iff.mp found).1
    rwa [length_fitted] at bound
  rw [getElem?_fitted inside, Option.some.injEq] at found
  subst found
  have not_empty : (Area.mk x y width height).isEmpty = false :=
    Area.isEmpty_eq_false_iff.mpr ⟨Nat.zero_lt_of_lt inside, solid⟩
  rw [draw, not_empty, Line.headD_split_of_printable printable, glyphs_of_printable width printable]
  simp only [Bool.false_eq_true, if_false, Canvas.draw, Nat.le_add_right, and_true, if_true,
    Nat.add_sub_cancel_left, List.getElem?_map, List.getElem?_take, inside]
  cases text.toList[offset]? with
  | none => exact backdrop (x + offset) (by omega) (by omega)
  | some c => rfl

/-- A column that stands one blank behind a shown text adds its own text to it. -/
theorem draw_behind {left : Nat} {shown : List Char} (shows : canvas.Shows left y shown)
    (place : x = left + shown.length + 1) (printable : ∀ c ∈ text.toList, Printable c)
    (solid : 0 < height)
    (backdrop : ∀ column, left + shown.length ≤ column → column < x + width →
      (canvas column y).symbol = [' ']) :
    (draw ⟨x, y, width, height⟩ text canvas).Shows left y
      (shown ++ ' ' :: fitted ' ' width text.toList) := by
  refine .append (shows.keep changesOnly_draw ?_) (.cons ?_ ?_)
  · intro offset inside
    simp only [Area.Has]
    omega
  · rw [changesOnly_draw (left + shown.length) y]
    · exact backdrop _ (Nat.le_refl _) (by omega)
    · simp only [Area.Has]
      omega
  · rw [← place]
    exact draw_shows printable solid fun column after before => backdrop column (by omega) before

end

end Column

namespace Area

/-- The outermost cells of an area. -/
def Rim (area : Area) (x y : Nat) : Prop :=
  area.Has x y ∧ ¬area.inner.Has x y

end Area

namespace Border

variable {area : Area} {canvas : Canvas}

theorem changesOnly_draw : canvas.ChangesOnly area.Rim (draw area canvas) := by
  rw [draw]
  split
  · exact .refl
  · rename_i solid
    rw [Bool.not_eq_true, Area.isEmpty_eq_false_iff] at solid
    refine .fill (.fill (.fill (.fill (.fill (.fill (.fill (.fill .refl ?_) ?_) ?_) ?_) ?_) ?_) ?_)
      ?_
    all_goals
      intro x y
      simp only [Area.Rim, Area.Has, Area.inner, Area.right, Area.bottom]
      omega

theorem changesOnly_drawTitled {title : String} :
    canvas.ChangesOnly area.Rim (drawTitled area title canvas) := by
  refine changesOnly_draw.trans (Column.changesOnly_draw.widen ?_)
  intro x y
  simp only [Area.Rim, Area.Has, Area.inner]
  omega

/-- Between its corners, the top border is a line. -/
theorem symbol_draw_top {x : Nat} (after : area.x < x) (before : x + 1 < area.x + area.width)
    (solid : 2 ≤ area.height) : (draw area canvas x area.y).symbol = ['─'] := by
  have not_empty : area.isEmpty = false := Area.isEmpty_eq_false_iff.mpr (by omega)
  rw [draw, not_empty]
  simp only [Bool.false_eq_true, if_false, Canvas.symbol_fill, Area.Has, Area.right, Area.bottom]
  rw [if_neg, if_neg, if_neg, if_neg, if_neg, if_neg, if_pos] <;> omega

theorem drawTitled_shows {title : String} (printable : ∀ c ∈ title.toList, Printable c)
    (solid : 2 ≤ area.height) :
    (drawTitled area title canvas).Shows (area.x + 1) area.y
      (Column.fitted '─' (area.width - 2) title.toList) := by
  apply Column.draw_shows printable
  · omega
  · intro x after before
    exact symbol_draw_top after (by omega) solid

end Border

end LedgerBoard
