import LedgerBoard.Number.Decimal
import LedgerBoard.Toml.Reading

/-!
# Texts in settings

A text stands between double quotes, where a backslash starts an escape, or between single quotes,
where it does not. Three quotes open a text of several lines, which drops a line end right after
them. This file also reads keys, which are bare words or texts of one line.
-/

namespace LedgerBoard.Toml

/-- The kinds of quotes around a text. -/
inductive Quote where
  /-- Double quotes: a backslash starts an escape. -/
  | basic
  /-- Single quotes: every character stands for itself. -/
  | literal
  deriving DecidableEq, Repr

def Quote.mark : Quote → Char
  | basic => '"'
  | literal => '\''

def hexDigitsValue? (digits : List Char) : Option Nat :=
  digits.foldlM (fun value c => (Number.hexValue? c).map (value * 16 + ·)) 0

/-- Reads the code point of an escape with a given number of digits. -/
def readCodePoint (count : Nat) (text : List Char) : Reading Char :=
  match hexDigitsValue? (text.take count) with
  | some code =>
      if count ≤ text.length ∧ code.isValidChar then .ok (Char.ofNat code, text.drop count)
      else .error text
  | none => .error text

def readEscape : List Char → Reading Char
  | 'b' :: rest => .ok ('\x08', rest)
  | 'f' :: rest => .ok ('\x0C', rest)
  | 'n' :: rest => .ok ('\n', rest)
  | 'r' :: rest => .ok ('\r', rest)
  | 't' :: rest => .ok ('\t', rest)
  | '"' :: rest => .ok ('"', rest)
  | '\\' :: rest => .ok ('\\', rest)
  | 'u' :: rest => readCodePoint 4 rest
  | 'U' :: rest => readCodePoint 8 rest
  | _ :: rest => .error rest
  | [] => .error []

theorem length_readCodePoint {count : Nat} {text rest : List Char} {c : Char}
    (read : readCodePoint count text = .ok (c, rest)) : rest.length ≤ text.length := by
  rw [readCodePoint] at read
  split at read
  · split at read
    · simp only [Except.ok.injEq, Prod.mk.injEq] at read
      rw [← read.2]
      simp
    · cases read
  · cases read

theorem length_readEscape {text rest : List Char} {c : Char}
    (read : readEscape text = .ok (c, rest)) : rest.length < text.length := by
  rw [readEscape.eq_def] at read
  split at read
  case h_8 => exact Nat.lt_succ_of_le (length_readCodePoint read)
  case h_9 => exact Nat.lt_succ_of_le (length_readCodePoint read)
  all_goals cases read
  all_goals exact Nat.lt_succ_self _

/-- A reading with one character more in front. -/
def withChar (c : Char) (reading : Reading (List Char)) : Reading (List Char) :=
  reading.map fun (found, rest) => (c :: found, rest)

/-- Reads a text of one line after its opening quote. -/
def readShort (quote : Quote) (text : List Char) : Reading (List Char) :=
  match text with
  | [] => .error []
  | c :: rest =>
      if c = quote.mark then .ok ([], rest)
      else if c = '\\' ∧ quote = .basic then
        match _escape : readEscape rest with
        | .error place => .error place
        | .ok (found, rest) => withChar found (readShort quote rest)
      else if isPlain c then withChar c (readShort quote rest)
      else .error (c :: rest)
termination_by text.length
decreasing_by
  · exact Nat.lt_succ_of_lt (length_readEscape _escape)
  · exact Nat.lt_succ_self _

/-- The text after a number of marks, if they come first. -/
def afterMarks? (mark : Char) : Nat → List Char → Option (List Char)
  | 0, text => some text
  | count + 1, c :: rest => if c = mark then afterMarks? mark count rest else none
  | _ + 1, [] => none

/-- The end of a text of several lines: up to two marks that belong to the text, and three that
close it. -/
def closing? (mark : Char) (text : List Char) : Option (List Char × List Char) :=
  match afterMarks? mark 5 text, afterMarks? mark 4 text, afterMarks? mark 3 text with
  | some rest, _, _ => some ([mark, mark], rest)
  | none, some rest, _ => some ([mark], rest)
  | none, none, some rest => some ([], rest)
  | none, none, none => none

theorem length_skipLines (text : List Char) : (skipLines text).length ≤ text.length := by
  fun_induction skipLines text with
  | case1 text rest ended ih =>
      exact Nat.le_trans ih (Nat.le_of_lt
        (Nat.lt_of_lt_of_le (length_lineEnd ended) (length_skipGaps text)))
  | case2 text _ => exact length_skipGaps text

/-- The text after an escaped line end, which swallows the blanks and line ends behind it. -/
def afterEscapedLine? (rest : List Char) : Option (List Char) :=
  (lineEnd? (skipGaps rest)).map skipLines

theorem length_afterEscapedLine {text rest : List Char}
    (skipped : afterEscapedLine? text = some rest) : rest.length < text.length := by
  obtain ⟨line, ended, rfl⟩ := Option.map_eq_some_iff.mp skipped
  have := length_lineEnd ended
  have := length_skipGaps text
  have := length_skipLines line
  omega

/-- Reads a text of several lines after its opening quotes. A line end is read as a line feed. -/
def readLong (quote : Quote) (text : List Char) : Reading (List Char) :=
  match closing? quote.mark text with
  | some found => .ok found
  | none =>
      match _ended : lineEnd? text with
      | some rest => withChar '\n' (readLong quote rest)
      | none =>
          match text with
          | [] => .error []
          | c :: rest =>
              if c = '\\' ∧ quote = .basic then
                match _line : afterEscapedLine? rest with
                | some rest => readLong quote rest
                | none =>
                    match _escape : readEscape rest with
                    | .error place => .error place
                    | .ok (found, rest) => withChar found (readLong quote rest)
              else if isPlain c then withChar c (readLong quote rest)
              else .error (c :: rest)
termination_by text.length
decreasing_by
  · exact length_lineEnd _ended
  · exact Nat.lt_succ_of_lt (length_afterEscapedLine _line)
  · exact Nat.lt_succ_of_lt (length_readEscape _escape)
  · exact Nat.lt_succ_self _

def readText (quote : Quote) (text : List Char) : Reading String :=
  let found :=
    match afterMarks? quote.mark 3 text with
    | some rest => readLong quote ((lineEnd? rest).getD rest)
    | none => readShort quote (text.drop 1)
  found.map fun (found, rest) => (String.ofList found, rest)

/-- A part of a key, and where it starts. -/
structure Key where
  name : String
  place : Place
  deriving DecidableEq, Repr

/-- Whether a character may stand in a bare key. -/
def isBare (c : Char) : Bool :=
  c.isAlphanum || c == '_' || c == '-'

def readKeyPart (text : List Char) : Reading Key :=
  let quoted (quote : Quote) (rest : List Char) : Reading Key :=
    (readShort quote rest).map fun (found, rest) => (⟨String.ofList found, text⟩, rest)
  match text with
  | '"' :: rest => quoted .basic rest
  | '\'' :: rest => quoted .literal rest
  | _ =>
      let name := text.takeWhile isBare
      if name.isEmpty then .error text
      else .ok (⟨String.ofList name, text⟩, text.dropWhile isBare)

/-- The number of parts that a key may not reach, and of brackets that may not be open at once. -/
def nestingLimit : Nat := 80

/-- Reads at most `limit` parts of a key, with a point between any two. -/
def readKeyParts : Nat → List Char → Reading (List Key)
  | 0, text => .error text
  | limit + 1, text =>
      match readKeyPart (skipGaps text) with
      | .error place => .error place
      | .ok (key, rest) =>
          match skipGaps rest with
          | '.' :: rest =>
              (readKeyParts limit rest).map fun (keys, rest) => (key :: keys, rest)
          | rest => .ok ([key], rest)

def readKey (text : List Char) : Reading (List Key) :=
  readKeyParts (nestingLimit - 1) text

end LedgerBoard.Toml
