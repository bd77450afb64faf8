import LedgerBoard.Screen.Canvas

/-!
# What drawing leaves alone, and what it shows

Drawing is described by two facts about the canvases before and after. `ChangesOnly` says outside
which area nothing changed; such facts are joined along a chain of drawings. `Shows` says that a
text stands on a canvas, one character to a cell, and goes on doing so through every drawing that
changes other cells only.
-/

namespace LedgerBoard

namespace Area

/-- A place, by column and line, lies in an area. -/
def Has (area : Area) (x y : Nat) : Prop :=
  area.x ≤ x ∧ x < area.x + area.width ∧ area.y ≤ y ∧ y < area.y + area.height

instance (area : Area) (x y : Nat) : Decidable (area.Has x y) :=
  inferInstanceAs (Decidable (_ ∧ _ ∧ _ ∧ _))

theorem contains_iff {area : Area} {x y : Nat} : area.contains x y = true ↔ area.Has x y := by
  simp only [contains, Bool.and_eq_true, decide_eq_true_eq, and_assoc]
  rfl

theorem isEmpty_eq_false_iff {area : Area} :
    area.isEmpty = false ↔ 0 < area.width ∧ 0 < area.height := by
  simp only [isEmpty, Bool.or_eq_false_iff, beq_eq_false_iff_ne]
  omega

end Area

namespace Canvas

/-- Two canvases agree outside some places. -/
def ChangesOnly (places : Nat → Nat → Prop) (before after : Canvas) : Prop :=
  ∀ x y, ¬places x y → after x y = before x y

variable {places wider : Nat → Nat → Prop} {area : Area} {before between after canvas : Canvas}
  {x y : Nat}

theorem changesOnly_fill {symbol : Char} {change : Tint} :
    ChangesOnly area.Has canvas (fill area symbol change canvas) := by
  intro x y outside
  rw [← Area.contains_iff] at outside
  simp [fill, outside]

theorem changesOnly_tint {change : Tint} :
    ChangesOnly area.Has canvas (tint area change canvas) := by
  intro x y outside
  rw [← Area.contains_iff] at outside
  simp [tint, outside]

/-- Glyphs change their own line only, from the place of the first one on. -/
theorem changesOnly_draw {glyphs : List Glyph} (fits : glyphs.length ≤ area.width)
    (solid : 0 < area.height) :
    ChangesOnly area.Has canvas (canvas.draw area.x area.y glyphs) := by
  intro column row outside
  simp only [Area.Has] at outside
  simp only [draw]
  split
  · have behind : glyphs.length ≤ column - area.x := by omega
    simp [behind]
  · rfl

namespace ChangesOnly

theorem refl : ChangesOnly places before before :=
  fun _ _ _ => rfl

theorem trans (first : ChangesOnly places before between)
    (second : ChangesOnly places between after) :
    ChangesOnly places before after :=
  fun x y outside => (second x y outside).trans (first x y outside)

theorem widen (changes : ChangesOnly places before after) (within : ∀ x y, places x y → wider x y) :
    ChangesOnly wider before after :=
  fun x y outside => changes x y fun inside => outside (within x y inside)

/-- One more filling, of an area within the places. -/
theorem fill {symbol : Char} {change : Tint} (changes : ChangesOnly places before after)
    (within : ∀ x y, area.Has x y → places x y) :
    ChangesOnly places before (Canvas.fill area symbol change after) :=
  changes.trans (changesOnly_fill.widen within)

end ChangesOnly

/-- Filling an area sets its symbols, and no others. -/
theorem symbol_fill (symbol : Char) (change : Tint) :
    (fill area symbol change canvas x y).symbol =
      if area.Has x y then [symbol] else (canvas x y).symbol := by
  simp only [fill, Area.contains_iff]
  split <;> rfl

@[simp] theorem symbol_tint (change : Tint) :
    (tint area change canvas x y).symbol = (canvas x y).symbol := by
  simp only [tint]
  split <;> rfl

/-- The characters of a text stand in cells of their own, from a place to the right. -/
def Shows (canvas : Canvas) (x y : Nat) (text : List Char) : Prop :=
  ∀ offset c, text[offset]? = some c → (canvas (x + offset) y).symbol = [c]

namespace Shows

variable {text rest : List Char}

/-- One text is shown behind the other. -/
theorem append (first : canvas.Shows x y text) (second : canvas.Shows (x + text.length) y rest) :
    canvas.Shows x y (text ++ rest) := by
  intro offset c found
  rcases Nat.lt_or_ge offset text.length with inside | behind
  · exact first offset c (by rwa [List.getElem?_append_left inside] at found)
  · rw [List.getElem?_append_right behind] at found
    have shown := second _ c found
    rwa [show x + text.length + (offset - text.length) = x + offset by omega] at shown

theorem cons {c : Char} (first : (canvas x y).symbol = [c]) (second : canvas.Shows (x + 1) y rest) :
    canvas.Shows x y (c :: rest) := by
  have one : canvas.Shows x y [c] := by
    intro offset d found
    obtain ⟨rfl, rfl⟩ : offset = 0 ∧ c = d := by simpa [List.getElem?_singleton] using found
    exact first
  exact one.append second

/-- A shown text is still shown after changes to other cells. -/
theorem keep (shown : canvas.Shows x y text) (changes : ChangesOnly places canvas after)
    (apart : ∀ offset < text.length, ¬places (x + offset) y) : after.Shows x y text := by
  intro offset c found
  have inside : offset < text.length := (List.getElem?_eq_some_iff.mp found).1
  rw [changes _ _ (apart offset inside)]
  exact shown offset c found

end Shows

end Canvas

end LedgerBoard
