import LedgerBoard.Shape.Mismatch

/-!
# Faults of a payload

Payloads are JSON texts. Reading one from left to right stops at the first fault; the readers of
this folder consume the front of a text and hand back the rest.
-/

namespace LedgerBoard.Json

/-- Why reading a payload stopped. -/
inductive Fault where
  /-- The text ends before the value does. -/
  | truncated
  /-- The text is not JSON. -/
  | grammar
  /-- The text is JSON of another shape; `rest` is what was not read. -/
  | shape (cause : Mismatch) (rest : List Char)
  deriving DecidableEq, Repr

/-- The outcome of reading from the front of a text: a value and the rest. -/
abbrev Reading (α : Type) := Except Fault (α × List Char)

/-- Whether a character may stand between the parts of a payload. -/
def isSpace (c : Char) : Bool :=
  c == ' ' || c == '\n' || c == '\t' || c == '\r'

def skipSpace (text : List Char) : List Char :=
  text.dropWhile isSpace

theorem length_skipSpace (text : List Char) : (skipSpace text).length ≤ text.length :=
  (List.dropWhile_sublist _).length_le

theorem length_of_skipSpace {text rest : List Char} {c : Char} (next : skipSpace text = c :: rest) :
    rest.length < text.length := by
  have text_le := length_skipSpace text
  rw [next] at text_le
  exact text_le

/-- The fault of meeting something unexpected, or the end of the text. -/
def unexpected (text : List Char) : Fault :=
  if text.isEmpty then .truncated else .grammar

/-- Reads the rest of a word after its first letter. -/
def readWord : List Char → List Char → Except Fault (List Char)
  | [], rest => .ok rest
  | _, [] => .error .truncated
  | wanted :: word, c :: rest => if c = wanted then readWord word rest else .error .grammar

theorem length_readWord {word text rest : List Char} (read : readWord word text = .ok rest) :
    rest.length ≤ text.length := by
  induction word generalizing text with
  | nil =>
      cases text <;> simp_all [readWord]
  | cons wanted word ih =>
      cases text with
      | nil => simp [readWord] at read
      | cons c tail =>
          simp only [readWord] at read
          split at read
          · exact Nat.le_succ_of_le (ih read)
          · cases read

end LedgerBoard.Json
