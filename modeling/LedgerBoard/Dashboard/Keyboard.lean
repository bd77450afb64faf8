import LedgerBoard.Dashboard.Key

/-!
# Typed text

A terminal sends what is typed as characters. Control characters stand for keys that are pressed
together with the control key, and an escape character that is followed by others starts the name of
a key without a character.
-/

namespace LedgerBoard

namespace KeyPress

/-- A character that is typed without the control key. -/
def plain (key : Key) : KeyPress := ⟨key, false⟩

/-- The key press that one character stands for. -/
def ofChar (c : Char) : KeyPress :=
  if c = '\x00' then ⟨.char ' ', true⟩
  else if c = '\t' then plain .tab
  else if c = '\r' then plain .enter
  else if c = '\x1b' then plain .escape
  else if c = '\x7f' then plain .backspace
  else if c.toNat ≤ 26 then ⟨.char (Char.ofNat (c.toNat + 96)), true⟩
  else if c.toNat < 32 then ⟨.char (Char.ofNat (c.toNat + 24)), true⟩
  else plain (.char c)

/-- What follows the name of a key that starts with an escape character and a bracket. -/
def skipName : List Char → List Char
  | [] => []
  | c :: rest => if '@' ≤ c ∧ c ≤ '~' then rest else skipName rest

theorem skipName_length (text : List Char) : (skipName text).length ≤ text.length := by
  induction text with
  | nil => simp [skipName]
  | cons c rest ih =>
      rw [skipName]
      split
      · simp
      · simpa using Nat.le_succ_of_le ih

/-- The key presses that a piece of typed text stands for. -/
def ofTyped (text : List Char) : List KeyPress :=
  match text with
  | '\x1b' :: '[' :: rest =>
      have : (skipName rest).length ≤ rest.length := skipName_length rest
      plain .up :: ofTyped (skipName rest)
  | '\x1b' :: 'O' :: _ :: rest => plain .up :: ofTyped rest
  | '\x1b' :: '\x1b' :: rest => plain .escape :: ofTyped rest
  | '\x1b' :: c :: rest => ofChar c :: ofTyped rest
  | c :: rest => ofChar c :: ofTyped rest
  | [] => []
termination_by text.length

end KeyPress

end LedgerBoard
