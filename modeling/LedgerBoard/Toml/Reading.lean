import LedgerBoard.Text.Octets

/-!
# Reading settings texts

Settings are written in TOML. Its readers consume the front of a text and hand back the rest; a
fault is the place at which reading cannot go on. This file reads what stands between values.
-/

namespace LedgerBoard.Toml

/-- A place in a text, given by what follows it. -/
abbrev Place := List Char

/-- The outcome of reading from the front of a text: a value and the rest, or the place of a
fault. -/
abbrev Reading (α : Type) := Except Place (α × List Char)

/-- Whether a character is a blank within a line. -/
def isGap (c : Char) : Bool :=
  c == ' ' || c == '\t'

/-- A text without the blanks it starts with. -/
def skipGaps (text : List Char) : List Char :=
  text.dropWhile isGap

/-- Whether a character may stand in a comment, or as itself in a text. -/
def isPlain (c : Char) : Bool :=
  c == '\t' || (0x20 ≤ c.toNat && c.toNat ≠ 0x7F)

/-- The text after a line end, if one comes first. -/
def lineEnd? : List Char → Option (List Char)
  | '\n' :: rest => some rest
  | '\r' :: '\n' :: rest => some rest
  | _ => none

/-- A text without the comment it starts with. -/
def skipComment : List Char → List Char
  | '#' :: rest => rest.dropWhile isPlain
  | text => text

/-- Skips what may follow on a line: blanks, a comment, and the end of the line or of the text. -/
def skipLineRest (text : List Char) : Except Place (List Char) :=
  let text := skipComment (skipGaps text)
  match lineEnd? text, text with
  | some rest, _ => .ok rest
  | none, [] => .ok []
  | none, _ => .error text

theorem length_skipGaps (text : List Char) : (skipGaps text).length ≤ text.length :=
  (List.dropWhile_sublist _).length_le

theorem length_lineEnd {text rest : List Char} (ended : lineEnd? text = some rest) :
    rest.length < text.length := by
  rw [lineEnd?.eq_def] at ended
  split at ended <;> cases ended
  · exact Nat.lt_succ_self _
  · exact Nat.lt_succ_of_lt (Nat.lt_succ_self _)

theorem length_skipComment (text : List Char) : (skipComment text).length ≤ text.length := by
  rw [skipComment.eq_def]
  split
  · exact Nat.le_succ_of_le (List.dropWhile_sublist _).length_le
  · exact Nat.le_refl _

/-- A text without the blanks and line ends it starts with. -/
def skipLines (text : List Char) : List Char :=
  match _ended : lineEnd? (skipGaps text) with
  | some rest => skipLines rest
  | none => skipGaps text
termination_by text.length
decreasing_by exact Nat.lt_of_lt_of_le (length_lineEnd _ended) (length_skipGaps text)

/-- Skips blanks, line ends and comments, which end with their line. -/
def skipSpace (text : List Char) : Except Place (List Char) :=
  match _ended : lineEnd? (skipComment (skipGaps text)) with
  | some rest => skipSpace rest
  | none =>
      match skipGaps text with
      | '#' :: _ | '\r' :: _ => .error (skipComment (skipGaps text))
      | start => .ok start
termination_by text.length
decreasing_by
  have := length_skipGaps text
  have := length_skipComment (skipGaps text)
  have := length_lineEnd _ended
  omega

end LedgerBoard.Toml
