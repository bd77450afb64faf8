import LedgerBoard.Proofs.Number.Decimal
import LedgerBoard.Proofs.Screen.Column
import LedgerBoard.Screen.Table

/-!
# What a table shows

Below its header a table shows the newest rows, one to a line, as far as they fit; the lines behind
them stay blank, and no cell outside its area changes. The columns of a table that is wide enough
have fixed places, so the text of a line is known from its row alone.
-/

namespace LedgerBoard

open Text (Printable)

theorem Number.printable_of_mem_decimal {n : Nat} {c : Char} (mem : c ∈ decimal n) :
    Printable c := by
  have bounds := isDigit_bounds (isDigit_of_mem_decimal mem)
  constructor <;> omega

theorem printable_of_mem_twoDigits {n : Nat} {c : Char} (mem : c ∈ twoDigits n) : Printable c := by
  rw [twoDigits] at mem
  split at mem
  · rcases List.mem_cons.mp mem with rfl | mem
    · decide
    · exact Number.printable_of_mem_decimal mem
  · exact Number.printable_of_mem_decimal mem

theorem length_twoDigits {n : Nat} (small : n < 100) : (twoDigits n).length = 2 := by
  rw [twoDigits, Number.decimal]
  split
  · rfl
  · rw [Number.decimal, if_pos (by omega)]
    rfl

namespace ClockTime

/-- A time that a clock shows, leap seconds included. -/
structure Valid (time : ClockTime) : Prop where
  hour : time.hour < 24
  minute : time.minute < 60
  second : time.second ≤ 60

theorem printable_text (time : ClockTime) : ∀ c ∈ time.text.toList, Printable c := by
  intro c mem
  simp only [text, String.toList_ofList, List.mem_append, List.mem_cons] at mem
  rcases mem with (mem | rfl | mem) | rfl | mem
  · exact printable_of_mem_twoDigits mem
  · decide
  · exact printable_of_mem_twoDigits mem
  · decide
  · exact printable_of_mem_twoDigits mem

theorem length_text {time : ClockTime} (valid : time.Valid) : time.text.toList.length = 8 := by
  rcases valid with ⟨hour, minute, second⟩
  simp [text, length_twoDigits (show time.hour < 100 by omega),
    length_twoDigits (show time.minute < 100 by omega),
    length_twoDigits (show time.second < 100 by omega)]

end ClockTime

/-- A row of printable texts that came at a time of day. -/
structure Row.Legible (row : Row) : Prop where
  id : ∀ c ∈ row.id.toList, Printable c
  detail : ∀ c ∈ (row.detail.getD "").toList, Printable c
  arrival : row.arrival.Valid

namespace ColumnWidths

/-- The three columns and the two gaps between them fill the width. -/
theorem sum_ofWidth (width : Nat) :
    (ofWidth width).time + (ofWidth width).detail + (ofWidth width).id = width - 2 := by
  simp only [ofWidth]
  omega

/-- In a wide table only the identifier's column depends on the width. -/
theorem ofWidth_of_wide {width : Nat} (wide : 32 ≤ width) :
    ofWidth width = ⟨8, 12, width - 22⟩ := by
  simp only [ofWidth, idWidth, timeWidth, detailWidth, mk.injEq]
  omega

end ColumnWidths

namespace Table

/-- The text of a row in a table of an inner width: the time, the detail and the identifier, one
column apart. -/
def rowText (width : Nat) (row : Row) : List Char :=
  row.arrival.text.toList ++ ' ' :: (Column.fitted ' ' 12 (row.detail.getD "").toList ++
    ' ' :: Column.fitted ' ' (width - 22) row.id.toList)

theorem length_rowText {width : Nat} {row : Row} (wide : 32 ≤ width) (valid : row.arrival.Valid) :
    (rowText width row).length = width := by
  simp only [rowText, List.length_append, List.length_cons, Column.length_fitted,
    ClockTime.length_text valid]
  omega

section

variable {area : Area} {time detail id : String} {canvas : Canvas}

theorem changesOnly_drawCells :
    canvas.ChangesOnly area.Has (drawCells area time detail id canvas) := by
  have sum := ColumnWidths.sum_ofWidth area.width
  rw [drawCells]
  refine .trans (.trans (Column.changesOnly_draw.widen ?_) (Column.changesOnly_draw.widen ?_))
    (Column.changesOnly_draw.widen ?_)
  all_goals
    intro x y
    simp only [Area.Has]
    omega

/-- The cells of a row are drawn from left to right, and each leaves alone what stands left and
right of it. -/
theorem drawCells_shows (wide : 32 ≤ area.width) (solid : 0 < area.height)
    (printable_time : ∀ c ∈ time.toList, Printable c)
    (printable_detail : ∀ c ∈ detail.toList, Printable c)
    (printable_id : ∀ c ∈ id.toList, Printable c)
    (backdrop : ∀ x, area.x ≤ x → x < area.x + area.width → (canvas x area.y).symbol = [' ']) :
    (drawCells area time detail id canvas).Shows area.x area.y
      (Column.fitted ' ' 8 time.toList ++ ' ' :: (Column.fitted ' ' 12 detail.toList ++
        ' ' :: Column.fitted ' ' (area.width - 22) id.toList)) := by
  let timed := Column.draw ⟨area.x, area.y, 8, area.height⟩ time canvas
  let detailed := Column.draw ⟨area.x + 8 + 1, area.y, 12, area.height⟩ detail timed
  have timing : canvas.ChangesOnly _ timed := Column.changesOnly_draw
  have detailing : timed.ChangesOnly _ detailed := Column.changesOnly_draw
  have time_shown : timed.Shows area.x area.y (Column.fitted ' ' 8 time.toList) :=
    Column.draw_shows printable_time solid fun x after before => backdrop x after (by omega)
  have detail_shown : detailed.Shows area.x area.y
      (Column.fitted ' ' 8 time.toList ++ ' ' :: Column.fitted ' ' 12 detail.toList) := by
    refine Column.draw_behind time_shown (by simp) printable_detail solid fun x after before => ?_
    rw [Column.length_fitted] at after
    rw [timing x area.y]
    · exact backdrop x (by omega) (by omega)
    · simp only [Area.Has]
      omega
  have place : area.x + 8 + 1 + 12 + 1 =
      area.x +
        (Column.fitted ' ' 8 time.toList ++ ' ' :: Column.fitted ' ' 12 detail.toList).length +
          1 := by
    simp only [List.length_append, List.length_cons, Column.length_fitted]
  rw [drawCells, ColumnWidths.ofWidth_of_wide wide, ← List.cons_append, ← List.append_assoc]
  change (Column.draw ⟨area.x + 8 + 1 + 12 + 1, area.y, area.width - 22, area.height⟩ id
    detailed).Shows _ _ _
  refine Column.draw_behind detail_shown place printable_id solid fun x after before => ?_
  rw [detailing x area.y, timing x area.y]
  · exact backdrop x (by omega) (by omega)
  all_goals
    simp only [Area.Has]
    omega

theorem changesOnly_drawHeader {titles : TableTitles} :
    canvas.ChangesOnly area.Has (drawHeader area titles canvas) :=
  Canvas.changesOnly_tint.trans changesOnly_drawCells

variable {row : Row}

theorem changesOnly_drawRow : canvas.ChangesOnly area.Has (drawRow area row canvas) := by
  have fits := ColumnWidths.sum_ofWidth area.width
  refine .trans (Canvas.changesOnly_tint.widen ?_) changesOnly_drawCells
  intro x y
  simp only [Area.Has]
  omega

/-- A row is shown in its line. -/
theorem drawRow_shows (wide : 32 ≤ area.width) (solid : 0 < area.height) (legible : row.Legible)
    (backdrop : ∀ x, area.x ≤ x → x < area.x + area.width → (canvas x area.y).symbol = [' ']) :
    (drawRow area row canvas).Shows area.x area.y (rowText area.width row) := by
  rw [rowText, ← Column.fitted_of_length_eq (ClockTime.length_text legible.arrival) ' ']
  refine drawCells_shows wide solid row.arrival.printable_text legible.detail legible.id ?_
  intro x after before
  rw [Canvas.symbol_tint]
  exact backdrop x after before

end

/-- Some lines of an area, the first one at an index. -/
def lines (area : Area) (index count : Nat) : Area :=
  ⟨area.x, area.y + index, area.width, count⟩

/-- Drawing rows changes nothing outside their lines. -/
theorem changesOnly_drawRows {area : Area} {index : Nat} {rows : List Row} {canvas : Canvas} :
    canvas.ChangesOnly (lines area index rows.length).Has (drawRows area index rows canvas) := by
  induction rows generalizing index canvas with
  | nil => exact .refl
  | cons row rest ih =>
      refine .trans (changesOnly_drawRow.widen ?_) (ih.widen ?_)
      all_goals
        intro x y
        simp only [Area.Has, Area.line, lines, List.length_cons]
        omega

/-- Each row is shown on its own line. Drawing a row leaves the lines below it as blank as they
were. -/
theorem drawRows_shows {area : Area} {index position : Nat} {rows : List Row} {row : Row}
    {canvas : Canvas} (wide : 32 ≤ area.width) (legible : ∀ row ∈ rows, row.Legible)
    (backdrop : ∀ x y, (lines area index rows.length).Has x y → (canvas x y).symbol = [' '])
    (found : rows[position]? = some row) :
    (drawRows area index rows canvas).Shows area.x (area.y + (index + position))
      (rowText area.width row) := by
  induction rows generalizing index position canvas with
  | nil => simp at found
  | cons first rest ih =>
      have first_legible := legible first List.mem_cons_self
      cases position with
      | zero =>
          obtain rfl : first = row := by simpa using found
          have shown : (drawRow (area.line index) first canvas).Shows area.x (area.y + index)
              (rowText area.width first) := by
            refine drawRow_shows wide Nat.one_pos first_legible fun x after before =>
              backdrop x _ ?_
            simp only [Area.Has, Area.line, lines, List.length_cons] at after before ⊢
            omega
          refine shown.keep changesOnly_drawRows fun offset inside => ?_
          simp only [Area.Has, lines]
          omega
      | succ position =>
          rw [show index + (position + 1) = index + 1 + position by omega]
          refine ih (fun row mem => legible row (List.mem_cons_of_mem first mem)) ?_
            (by simpa using found)
          intro x y has
          rw [changesOnly_drawRow x y]
          · apply backdrop
            simp only [Area.Has, lines, List.length_cons] at has ⊢
            omega
          · simp only [Area.Has, Area.line, lines] at has ⊢
            omega

theorem length_shown (area : Area) (rows : List Row) :
    (shown area rows).length = min rows.length (area.height - 3) := by
  rw [shown, List.length_drop, capacity]
  omega

theorem printable_title {titles : TableTitles} (known : titles = .blocks ∨ titles = .transactions)
    (count : Nat) :
    ∀ c ∈ (title titles count).toList, Printable c := by
  have printable_name : ∀ c ∈ titles.title.toList, Printable c := by
    rcases known with rfl | rfl
    · exact Text.printable_of_all (by decide)
    · exact Text.printable_of_all (by decide)
  intro c mem
  simp only [title, String.toList_append, String.toList_ofList, List.mem_append] at mem
  rcases mem with (((mem | mem) | mem) | mem) | mem
  · exact Text.printable_of_all (by decide) c mem
  · exact printable_name c mem
  · exact Text.printable_of_all (by decide) c mem
  · exact Number.printable_of_mem_decimal mem
  · exact Text.printable_of_all (by decide) c mem

section

variable {area : Area} {titles : TableTitles} {rows : List Row} {canvas : Canvas}

/-- What is drawn of a table before its rows. -/
def drawFrame (area : Area) (titles : TableTitles) (count : Nat) (canvas : Canvas) : Canvas :=
  canvas |> Border.drawTitled area (title titles count) |> drawHeader (area.inner.line 0) titles

theorem draw_eq (wide : 3 ≤ area.width) (high : 3 ≤ area.height) :
    draw area titles rows canvas =
      drawRows area.inner 1 (shown area rows) (drawFrame area titles rows.length canvas) := by
  have not_empty : area.inner.isEmpty = false := by
    simp only [Area.isEmpty_eq_false_iff, Area.inner]
    omega
  simp only [draw, not_empty, Bool.false_eq_true, if_false, drawFrame]

/-- Drawing a table changes no cell outside its area, however small that is. -/
theorem changesOnly_drawTable : canvas.ChangesOnly area.Has (draw area titles rows canvas) := by
  have framing :
      canvas.ChangesOnly area.Has (Border.drawTitled area (title titles rows.length) canvas) :=
    Border.changesOnly_drawTitled.widen fun x y rim => rim.1
  rw [draw]
  split
  · exact framing
  · rename_i solid
    simp only [Bool.not_eq_true, Area.isEmpty_eq_false_iff, Area.inner] at solid
    have fits := length_shown area rows
    refine (framing.trans (changesOnly_drawHeader.widen ?_)).trans (changesOnly_drawRows.widen ?_)
    all_goals
      intro x y
      simp only [Area.Has, Area.line, lines, Area.inner]
      omega

/-- Below the header, border and header leave the inner cells alone. -/
theorem drawFrame_below_header {count x y : Nat} (has : area.inner.Has x y)
    (below : area.inner.y < y) :
    drawFrame area titles count canvas x y = canvas x y := by
  rw [drawFrame, changesOnly_drawHeader x y, Border.changesOnly_drawTitled x y]
  · exact fun rim => rim.2 has
  · simp only [Area.Has, Area.line]
    omega

theorem getElem?_shown {position : Nat} (area : Area) (rows : List Row) :
    (shown area rows)[position]? =
      rows[rows.length - min rows.length (area.height - 3) + position]? := by
  rw [shown, List.getElem?_drop, capacity]
  congr 2
  omega

/-- The rows that are shown stand below the header. -/
theorem draw_shows_row {position : Nat} {row : Row} (wide : 34 ≤ area.width)
    (high : 3 ≤ area.height) (legible : ∀ row ∈ rows, row.Legible)
    (clear : ∀ x y, area.Has x y → canvas x y = .blank)
    (found : (shown area rows)[position]? = some row) :
    (draw area titles rows canvas).Shows (area.x + 1) (area.y + 2 + position)
      (rowText (area.width - 2) row) := by
  have place : area.inner = ⟨area.x + 1, area.y + 1, area.width - 2, area.height - 2⟩ := by
    rw [Area.inner, Nat.min_eq_right (by omega), Nat.min_eq_right (by omega)]
  have fits := length_shown area rows
  rw [draw_eq (by omega) high,
    show area.y + 2 + position = area.y + 1 + (1 + position) by omega, place]
  refine drawRows_shows (by simp only; omega)
    (fun row mem => legible row (List.mem_of_mem_drop mem)) ?_ found
  intro x y has
  simp only [Area.Has, lines] at has
  rw [drawFrame_below_header, clear x y]
  · rfl
  all_goals
    simp only [Area.Has, place]
    omega

/-- Where neither border nor header nor a row is drawn, a table leaves the canvas alone. -/
theorem draw_below_rows {x y : Nat} (wide : 3 ≤ area.width) (high : 3 ≤ area.height)
    (has : area.inner.Has x y) (below : area.y + 2 + min rows.length (area.height - 3) ≤ y) :
    draw area titles rows canvas x y = canvas x y := by
  rw [draw_eq wide high, changesOnly_drawRows x y, drawFrame_below_header has]
  · simp only [Area.inner]
    omega
  · rw [length_shown]
    simp only [Area.Has, lines, Area.inner]
    omega

/-- The title stands in the top border. -/
theorem draw_shows_title (known : titles = .blocks ∨ titles = .transactions) (wide : 3 ≤ area.width)
    (high : 3 ≤ area.height) : (draw area titles rows canvas).Shows (area.x + 1) area.y
      (Column.fitted '─' (area.width - 2) (title titles rows.length).toList) := by
  have framed : (Border.drawTitled area (title titles rows.length) canvas).Shows _ _ _ :=
    Border.drawTitled_shows (printable_title known rows.length) (by omega)
  rw [draw_eq wide high]
  refine (framed.keep changesOnly_drawHeader ?_).keep changesOnly_drawRows ?_
  all_goals
    intro offset inside
    simp only [Area.Has, Area.line, lines, Area.inner]
    omega

end

/-- A wide table on a blank area shows the newest rows, the newest one on the lowest of the lines it
takes; the other lines stay blank, the title counts all rows, and nothing else changes. -/
theorem draw_shows_newest_rows {area : Area} {titles : TableTitles} {list : RowList}
    {canvas : Canvas} (known : titles = .blocks ∨ titles = .transactions) (wide : 34 ≤ area.width)
    (high : 3 ≤ area.height) (legible : ∀ row ∈ list.rows, row.Legible)
    (clear : ∀ x y, area.Has x y → canvas x y = .blank) :
    let drawn := draw area titles list.rows canvas
    let count := min list.length (area.height - 3)
    (∀ index < count, ∃ row, list.get? (list.length - count + index) = some row ∧
      (rowText (area.width - 2) row).length = area.width - 2 ∧
      drawn.Shows (area.x + 1) (area.y + 2 + index) (rowText (area.width - 2) row)) ∧
    (∀ index, count ≤ index → index < area.height - 3 → ∀ offset < area.width - 2,
      drawn (area.x + 1 + offset) (area.y + 2 + index) = .blank) ∧
    drawn.Shows (area.x + 1) area.y
      (Column.fitted '─' (area.width - 2) (title titles list.length).toList) ∧
    canvas.ChangesOnly area.Has drawn := by
  intro drawn count
  have count_eq : count = min list.rows.length (area.height - 3) := rfl
  refine ⟨fun index inside => ?_, fun index behind inside offset within => ?_,
    draw_shows_title known (by omega) high,
    changesOnly_drawTable⟩
  · have held : list.rows.length - count + index < list.rows.length := by omega
    have row_legible := legible _ (List.getElem_mem held)
    refine ⟨list.rows[list.rows.length - count + index], List.getElem?_eq_getElem held,
      length_rowText (by omega) row_legible.arrival, ?_⟩
    apply draw_shows_row wide high legible clear
    rw [getElem?_shown]
    exact List.getElem?_eq_getElem held
  · have inner : area.inner.Has (area.x + 1 + offset) (area.y + 2 + index) := by
      simp only [Area.Has, Area.inner]
      omega
    have unchanged : drawn _ _ = canvas _ _ := draw_below_rows (by omega) high inner (by omega)
    rw [unchanged]
    exact clear _ _ (by simp only [Area.Has]; omega)

/-- Three rows and room for two: the oldest row gives way. -/
theorem draw_shows_newest_rows_of_full_area :
    let list : RowList :=
      ⟨none, [⟨"a1", some "#1", ⟨9, 5, 7⟩⟩, ⟨"b2", none, ⟨9, 5, 8⟩⟩,
        ⟨"c3", some "#3", ⟨23, 59, 60⟩⟩]⟩
    let drawn := draw ⟨2, 1, 34, 5⟩ .blocks list.rows .blank
    drawn.Shows 3 1 " Blocks (3) ────────────────────".toList ∧
      drawn.Shows 3 3 "09:05:08              b2        ".toList ∧
      drawn.Shows 3 4 "23:59:60 #3           c3        ".toList := by
  intro list drawn
  have title_text :
      Column.fitted '─' 32 (title .blocks 3).toList =
        " Blocks (3) ────────────────────".toList := by
    simp only [title, Number.decimal_eq_toDigits]
    decide
  have middle_text :
      rowText 32 ⟨"b2", none, ⟨9, 5, 8⟩⟩ = "09:05:08              b2        ".toList := by
    simp only [rowText, ClockTime.text, twoDigits, Number.decimal_eq_toDigits]
    decide
  have last_text :
      rowText 32 ⟨"c3", some "#3", ⟨23, 59, 60⟩⟩ = "23:59:60 #3           c3        ".toList := by
    simp only [rowText, ClockTime.text, twoDigits, Number.decimal_eq_toDigits]
    decide
  have legible : ∀ row ∈ list.rows, row.Legible := by
    intro row mem
    simp only [list, List.mem_cons, List.not_mem_nil, or_false] at mem
    rcases mem with rfl | rfl | rfl
    all_goals
      exact ⟨Text.printable_of_all (by decide), Text.printable_of_all (by decide), by decide,
        by decide, by decide⟩
  have wide : 34 ≤ (Area.mk 2 1 34 5).width := Nat.le_refl 34
  have clear : ∀ x y, (Area.mk 2 1 34 5).Has x y → Canvas.blank x y = .blank := fun _ _ _ => rfl
  obtain ⟨shown, -, titled, -⟩ := draw_shows_newest_rows (.inl rfl) wide (by decide) legible clear
  obtain ⟨middle, middle_held, -, middle_shown⟩ := shown 0 (by decide)
  obtain ⟨last, last_held, -, last_shown⟩ := shown 1 (by decide)
  obtain rfl := Option.some.inj middle_held
  obtain rfl := Option.some.inj last_held
  rw [← title_text, ← middle_text, ← last_text]
  exact ⟨titled, middle_shown, last_shown⟩

end Table

end LedgerBoard
