import LedgerBoard.Number.Shortest
import LedgerBoard.Toml.Reading

/-!
# Numbers and moments in settings

Numbers are integers of sixty-four bits, in base ten or after `0x`, `0o` and `0b` in another base,
and fractions. Underscores may stand between digits. A moment is a date, a time of day, or both;
only its shape counts here.
-/

namespace LedgerBoard.Toml

open Number

/-- The fractions of settings are written without an exponent. -/
def fractionLayout : Layout := ⟨fun _ => true⟩

/-- A number. -/
inductive Numeral where
  | integer (value : Int)
  /-- A fraction, by its written form. -/
  | fraction (written : String)
  deriving DecidableEq, Repr

/-- Reads the digits of a run in which single underscores may separate digits. The run ends before
an underscore that no digit follows. -/
def spanDigits (digit : Char → Bool) : List Char → List Char × List Char
  | '_' :: c :: rest =>
      if digit c then ((spanDigits digit rest).map (c :: ·) id) else ([], '_' :: c :: rest)
  | c :: rest =>
      if digit c then ((spanDigits digit rest).map (c :: ·) id) else ([], c :: rest)
  | [] => ([], [])

/-- Reads a run of digits that starts with a digit. -/
def spanRun (digit : Char → Bool) (text : List Char) : List Char × List Char :=
  match text with
  | '_' :: _ => ([], text)
  | _ => spanDigits digit text

/-- Whether a number is negative, and the text after its sign. -/
def readSign : List Char → Bool × List Char
  | '-' :: rest => (true, rest)
  | '+' :: rest => (false, rest)
  | text => (false, text)

/-- Reads the whole part of a number, in which only zero starts with the digit zero. -/
def spanWhole (text : List Char) : List Char × List Char :=
  match text with
  | '0' :: rest => (['0'], rest)
  | _ => spanRun Char.isDigit text

/-- Reads the exponent of a fraction, if one comes first. -/
def readExponent? (text : List Char) : Option (Int × List Char) :=
  match text with
  | c :: rest =>
      if c = 'e' ∨ c = 'E' then
        let (negative, rest) := readSign rest
        let (digits, rest) := spanRun Char.isDigit rest
        let exponent : Int := digitsValue digits
        if digits.isEmpty then none else some (if negative then -exponent else exponent, rest)
      else none
  | [] => none

/-- Reads the digits after a point, if they come first. -/
def readPlaces? (text : List Char) : Option (List Char × List Char) :=
  match text with
  | '.' :: rest =>
      let (digits, rest) := spanRun Char.isDigit rest
      if digits.isEmpty then none else some (digits, rest)
  | _ => none

/-- The written form of `±digits * 10 ^ exponent`. A number that is too large is infinite, and only
a negative one may be. -/
def writeFraction? (negative : Bool) (digits : List Char) (exponent : Int) : Option String :=
  match Binary64.ofDecimal? (digitsValue digits) exponent with
  | some magnitude => some (fractionLayout.text negative magnitude)
  | none => if negative then some "-inf" else none

/-- Reads the digits of another base, and their value. -/
def readBase (base : Nat) (text : List Char) : Option (Int × List Char) :=
  let value (c : Char) : Nat := (hexValue? c).getD base
  let (digits, rest) := spanRun (fun c => value c < base) text
  let total := digits.foldl (fun total c => total * base + value c) 0
  if digits.isEmpty || maxSigned < total then none else some (total, rest)

/-- The written form of a special fraction after its sign. -/
def readSpecial? (negative : Bool) : List Char → Option (String × List Char)
  | 'i' :: 'n' :: 'f' :: rest => some (if negative then "-inf" else "inf", rest)
  | 'n' :: 'a' :: 'n' :: rest => some ("NaN", rest)
  | _ => none

/-- Reads a number in base ten, or a special fraction. -/
def readDecimal? (text : List Char) : Option (Numeral × List Char) :=
  let (negative, start) := readSign text
  match readSpecial? negative start with
  | some (written, rest) => some (.fraction written, rest)
  | none =>
      let (digits, rest) := spanWhole start
      if digits.isEmpty then none
      else
        match readPlaces? rest, readExponent? rest with
        | some (places, rest), _ =>
            let (exponent, rest) := (readExponent? rest).getD (0, rest)
            (writeFraction? negative (digits ++ places) (exponent - places.length)).map
              fun written => (.fraction written, rest)
        | none, some (exponent, rest) =>
            (writeFraction? negative digits exponent).map fun written => (.fraction written, rest)
        | none, none =>
            let size : Int := digitsValue digits
            let value := if negative then -size else size
            if -maxSigned - 1 ≤ value ∧ value ≤ maxSigned then some (.integer value, rest) else none

def readNumber? : List Char → Option (Numeral × List Char)
  | '0' :: 'x' :: rest => (readBase 16 rest).map fun (value, rest) => (.integer value, rest)
  | '0' :: 'o' :: rest => (readBase 8 rest).map fun (value, rest) => (.integer value, rest)
  | '0' :: 'b' :: rest => (readBase 2 rest).map fun (value, rest) => (.integer value, rest)
  | text => readDecimal? text

/-- Reads an exact number of digits whose value lies in a range. -/
def readField? (count low high : Nat) (text : List Char) : Option (Nat × List Char) :=
  let digits := text.take count
  let value := digitsValue digits
  if digits.length = count ∧ digits.all Char.isDigit ∧ low ≤ value ∧ value ≤ high then
    some (value, text.drop count)
  else none

/-- The text after a character, if it comes first. -/
def afterChar? (wanted : Char) : List Char → Option (List Char)
  | c :: rest => if c = wanted then some rest else none
  | [] => none

def daysOf (year month : Nat) : Nat :=
  if month = 2 then
    if year % 4 = 0 ∧ (year % 100 ≠ 0 ∨ year % 400 = 0) then 29 else 28
  else if month = 4 ∨ month = 6 ∨ month = 9 ∨ month = 11 then 30
  else 31

/-- The text after a date, if one comes first. -/
def afterDate? (text : List Char) : Option (List Char) := do
  let (year, rest) ← readField? 4 0 9999 text
  let (month, rest) ← readField? 2 1 12 (← afterChar? '-' rest)
  let (_, rest) ← readField? 2 1 (daysOf year month) (← afterChar? '-' rest)
  return rest

/-- The text after the fraction of a second, if one comes first. -/
def afterPlaces (text : List Char) : List Char :=
  match text with
  | '.' :: c :: rest => if c.isDigit then rest.dropWhile Char.isDigit else text
  | _ => text

/-- The text after a time of day, if one comes first. -/
def afterTime? (text : List Char) : Option (List Char) := do
  let (_, rest) ← readField? 2 0 23 text
  let (_, rest) ← readField? 2 0 59 (← afterChar? ':' rest)
  let (_, rest) ← readField? 2 0 60 (← afterChar? ':' rest)
  return afterPlaces rest

/-- The text after an offset from universal time, if one comes first. -/
def afterOffset? (text : List Char) : Option (List Char) :=
  match text with
  | 'Z' :: rest | 'z' :: rest => some rest
  | '+' :: rest | '-' :: rest => do
      let (_, rest) ← readField? 2 0 23 rest
      let (_, rest) ← readField? 2 0 59 (← afterChar? ':' rest)
      return rest
  | _ => none

/-- Whether a character may stand between a date and a time. -/
def isTimeMark (c : Char) : Bool :=
  c == 'T' || c == 't' || c == ' '

/-- The text after a moment, if one comes first. -/
def afterMoment? (text : List Char) : Option (List Char) :=
  match afterDate? text with
  | none => afterTime? text
  | some rest =>
      match rest with
      | c :: tail =>
          if isTimeMark c then
            match afterTime? tail with
            | some rest => some ((afterOffset? rest).getD rest)
            | none => some rest
          else some rest
      | [] => some rest

end LedgerBoard.Toml
