import LedgerBoard.Proofs.Text.Octets
import LedgerBoard.Text.Position

/-!
# What a position says

The line of a position counts the line feeds in front of a place, and its column the octets behind
the last of them. Both describe one line: the lines before it, each with its line feed, and the
octets before the column are together what stands in front of the place.
-/

namespace LedgerBoard.Text

/-- The first lines of a text, each with the line feed that ends it. -/
def firstLines (count : Nat) (text : List Char) : List Char :=
  ((text.splitOn '\n').take count).flatMap (· ++ ['\n'])

/-- How many octets stand before the last line feed of a text. -/
def lastFeed? : List Char → Option Nat
  | [] => none
  | c :: rest =>
      match lastFeed? rest with
      | some offset => some (c.utf8Size + offset)
      | none => if c = '\n' then some 0 else none

/-- Where the line on which a text ends starts: right behind the last line feed, or with the
text. -/
def lineStart (text : List Char) : Nat :=
  (lastFeed? text).elim 0 (· + 1)

variable {text front back : List Char}

/-- A text is one line, or it is divided by its last line feed. -/
theorem oneLine_or_lastFeed (text : List Char) :
    '\n' ∉ text ∨ ∃ front back, text = front ++ '\n' :: back ∧ '\n' ∉ back := by
  by_cases feed : '\n' ∈ text
  · rcases List.eq_append_cons_of_mem (List.mem_reverse.mpr feed) with
      ⟨behind, before, split, unbroken⟩
    refine .inr ⟨before.reverse, behind.reverse, ?_, by simpa using unbroken⟩
    rw [← List.reverse_reverse text, split]
    simp
  · exact .inl feed

theorem readBefore_append (before place : List Char) :
    readBefore (before ++ place) place = before := by
  simp [readBefore]

/-- What has no line feed belongs to the line that it is written behind. -/
theorem lastLine_append (unbroken : '\n' ∉ back) :
    lastLine (front ++ back) = lastLine front ++ back := by
  have all : ∀ c ∈ back.reverse, decide (c ≠ '\n') = true := by
    intro c mem
    simpa using ne_of_mem_of_not_mem (List.mem_reverse.mp mem) unbroken
  rw [lastLine, List.reverse_append, List.takeWhile_append_of_pos all]
  simp [lastLine]

theorem lastLine_of_oneLine (unbroken : '\n' ∉ text) : lastLine text = text := by
  have alone := @lastLine_append [] text unbroken
  exact alone

theorem lastLine_append_feed (unbroken : '\n' ∉ back) :
    lastLine (front ++ '\n' :: back) = back := by
  have behind_feed : lastLine (front ++ ['\n']) = [] := by simp [lastLine]
  rw [List.append_cons, lastLine_append unbroken, behind_feed, List.nil_append]

theorem lastFeed?_of_oneLine (unbroken : '\n' ∉ text) : lastFeed? text = none := by
  induction text with
  | nil => rfl
  | cons c rest ih =>
      simp only [List.mem_cons, not_or] at unbroken
      simp [lastFeed?, ih unbroken.2, Ne.symm unbroken.1]

theorem lastFeed?_append_feed (unbroken : '\n' ∉ back) :
    lastFeed? (front ++ '\n' :: back) = some (octets front) := by
  induction front with
  | nil => simp [lastFeed?, lastFeed?_of_oneLine unbroken, octets]
  | cons c rest ih => simp [lastFeed?, ih, octets]

/-- A line starts in front of its octets. -/
theorem lineStart_add_lastLine (text : List Char) :
    lineStart text + octets (lastLine text) = octets text := by
  rcases oneLine_or_lastFeed text with unbroken | ⟨front, back, rfl, unbroken⟩
  · rw [lineStart, lastFeed?_of_oneLine unbroken, lastLine_of_oneLine unbroken]
    exact Nat.zero_add _
  · have one : octets ('\n' :: back) = 1 + octets back := rfl
    rw [lineStart, lastFeed?_append_feed unbroken, lastLine_append_feed unbroken,
      octets_append, one]
    exact Nat.add_assoc _ _ _

theorem lineStart_le (text : List Char) : lineStart text ≤ octets text :=
  Nat.le.intro (lineStart_add_lastLine text)

theorem length_splitOn_feed (text : List Char) :
    (text.splitOn '\n').length = lineFeeds text + 1 := by
  induction text with
  | nil => rfl
  | cons c rest ih =>
      rw [lineFeeds] at ih
      rw [List.splitOn_cons_eq_if_modifyHead, lineFeeds]
      by_cases feed : c = '\n'
      · simp [feed, ih]
      · simp [feed, ih]

theorem flatMap_splitOn_feed (text : List Char) :
    (text.splitOn '\n').flatMap (· ++ ['\n']) = text ++ ['\n'] := by
  induction text with
  | nil => rfl
  | cons c rest ih =>
      rw [List.splitOn_cons_eq_if_modifyHead]
      by_cases feed : c = '\n'
      · simp [feed, ih]
      · rcases List.exists_cons_of_ne_nil (List.splitOn_ne_nil '\n' rest) with
          ⟨first, others, split⟩
        rw [split] at ih ⊢
        simp only [List.flatMap_cons] at ih
        simp [feed, ← ih]

theorem firstLines_append_feed (front back : List Char) :
    firstLines (lineFeeds front + 1) (front ++ '\n' :: back) = front ++ ['\n'] := by
  rw [firstLines, List.splitOn_append_cons_self, List.take_left' (length_splitOn_feed front),
    flatMap_splitOn_feed]

/-- What stands before a place is the lines before its line and what is left of its line. -/
theorem firstLines_append_lastLine (before place : List Char) :
    firstLines (lineFeeds before) (before ++ place) ++ lastLine before = before ∧
    '\n' ∉ lastLine before := by
  rcases oneLine_or_lastFeed before with unbroken | ⟨front, back, rfl, unbroken⟩
  · rw [lastLine_of_oneLine unbroken, lineFeeds, List.count_eq_zero_of_not_mem unbroken]
    exact ⟨rfl, unbroken⟩
  · have feeds : lineFeeds (front ++ '\n' :: back) = lineFeeds front + 1 := by
      simp [lineFeeds, List.count_eq_zero_of_not_mem unbroken]
    rw [lastLine_append_feed unbroken, feeds, List.append_assoc, List.cons_append,
      firstLines_append_feed]
    exact ⟨by simp, unbroken⟩

/-- A position leads to an offset of a text: the lines before it, each with its line feed, and the
octets before its column, which lie on its own line, are what the text starts with up to the
offset. -/
structure PointsAt (text : List Char) (offset line column : Nat) : Prop where
  line_pos : 1 ≤ line
  column_pos : 1 ≤ column
  offset_eq : offset = octets (firstLines (line - 1) text) + (column - 1)
  same_line :
    ∃ inner rest, text = firstLines (line - 1) text ++ inner ++ rest ∧ octets inner = column - 1 ∧
    '\n' ∉ inner

/-- A position leads to one offset only. -/
theorem PointsAt.unique {offset other line column : Nat} (points : PointsAt text offset line column)
    (others : PointsAt text other line column) : offset = other :=
  points.offset_eq.trans others.offset_eq.symm

theorem pointsAt_positionBefore (before place : List Char) :
    PointsAt (before ++ place) (octets before) (positionBefore (before ++ place) place).1
      ((positionBefore (before ++ place) place).2 + 1) := by
  obtain ⟨split, unbroken⟩ := firstLines_append_lastLine before place
  rw [positionBefore, readBefore_append, endPosition]
  refine ⟨Nat.le_add_left 1 _, Nat.le_add_left 1 _, ?_, lastLine before, place, ?_, rfl, unbroken⟩
  · simp only [Nat.add_sub_cancel]
    rw [← octets_append, split]
  · simp only [Nat.add_sub_cancel]
    rw [split]

end LedgerBoard.Text
