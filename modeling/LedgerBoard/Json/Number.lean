import LedgerBoard.Json.Fault
import LedgerBoard.Number.Shortest

/-!
# Numbers in a payload

`readNumber` decodes a number. Integers that fit sixty-four bits stay exact; every other number
becomes a binary magnitude, computed from its leading digits and a power of ten, and is refused
where that is too large. `skipNumber` only checks the spelling, so numbers of any size pass.
-/

namespace LedgerBoard.Json

open Number

/-- A decoded number. -/
inductive Numeral where
  | integer (value : Int)
  | fraction (negative : Bool) (magnitude : Binary64)
  deriving DecidableEq, Repr

/-- How the fractions of a payload are written: without an exponent while the leading digit stands
for a power of ten from -5 to 15. -/
def fractionLayout : Layout := ⟨fun leading => -5 ≤ leading ∧ leading < 16⟩

/-- What a numeral is when something else was wanted. -/
def Numeral.found : Numeral → Found
  | .integer value => .integer value
  | .fraction negative magnitude => .fraction (fractionLayout.text negative magnitude)

/-- The digits a text starts with, and the rest. -/
def spanDigits (text : List Char) : List Char × List Char :=
  (text.takeWhile Char.isDigit, text.dropWhile Char.isDigit)

/-- Appends digits to a significand for as long as it fits sixty-four bits, and hands back the
digits that are left over. -/
def absorb : Nat → List Char → Nat × List Char
  | significand, [] => (significand, [])
  | significand, c :: digits =>
      if significand * 10 + digitValue c ≤ maxWord then
        absorb (significand * 10 + digitValue c) digits
      else (significand, c :: digits)

/-- The largest power of ten that is scaled by in one step. -/
def scaleLimit : Nat := 308

def powerOfTen (exponent : Nat) : Binary64 :=
  (Binary64.ofDecimal? 1 exponent).getD ⟨0, Binary64.minExponent⟩

/-- Divides a magnitude by a power of ten, in steps of the largest one. -/
def scaleDownBy (magnitude : Binary64) (exponent : Nat) : Binary64 :=
  if exponent ≤ scaleLimit ∨ magnitude.mantissa = 0 then
    (magnitude.div? (powerOfTen (min exponent scaleLimit))).getD magnitude
  else scaleDownBy ((magnitude.div? (powerOfTen scaleLimit)).getD magnitude) (exponent - scaleLimit)
termination_by exponent
decreasing_by simp only [scaleLimit] at *; omega

/-- The magnitude of a significand times a power of ten, unless it is too large. The significand is
rounded first and the scaled magnitude once more. -/
def scaled? (significand : Nat) (exponent : Int) : Option Binary64 := do
  let magnitude ← Binary64.ofRatio? significand 1
  if exponent < 0 then return scaleDownBy magnitude exponent.natAbs
  else if magnitude.mantissa = 0 then return magnitude
  else if exponent ≤ scaleLimit then magnitude.mul? (powerOfTen exponent.toNat)
  else none

/-- The numeral of a significand and exponent. -/
def fraction (negative : Bool) (significand : Nat) (exponent : Int) : Except Fault Numeral :=
  match scaled? significand exponent with
  | some magnitude => .ok (.fraction negative magnitude)
  | none => .error .grammar

/-- The largest exponent that is taken as written. -/
def exponentLimit : Nat := 0x7FFFFFFF

/-- Reads the exponent of a numeral after its `e`. -/
def readExponent (negative : Bool) (significand : Nat) (exponent : Int) (text : List Char) :
    Reading Numeral :=
  let (down, text) := match text with
    | '+' :: rest => (false, rest)
    | '-' :: rest => (true, rest)
    | _ => (false, text)
  let (digits, rest) := spanDigits text
  if digits.isEmpty then .error (unexpected rest)
  else
    let written := digitsValue digits
    let numeral :=
      if written ≤ exponentLimit then
        fraction negative significand (if down then exponent - written else exponent + written)
      else if significand ≠ 0 ∧ !down then .error .grammar
      else fraction negative 0 0
    numeral.map (·, rest)

/-- Reads what follows the digits of a significand. -/
def readTail (negative : Bool) (significand : Nat) (exponent : Int) (text : List Char) :
    Reading Numeral :=
  match text with
  | 'e' :: rest | 'E' :: rest => readExponent negative significand exponent rest
  | _ => (fraction negative significand exponent).map (·, text)

/-- Reads the part of a numeral after its point. -/
def readDecimals (negative : Bool) (significand : Nat) (exponent : Int) (text : List Char) :
    Reading Numeral :=
  let (digits, rest) := spanDigits text
  if digits.isEmpty then .error (unexpected rest)
  else
    let (significand, left) := absorb significand digits
    readTail negative significand (exponent - (digits.length - left.length : Nat)) rest

/-- The numeral of digits that no point and no exponent follows. -/
def whole (negative : Bool) (significand : Nat) : Except Fault Numeral :=
  if !negative then .ok (.integer significand)
  else if 0 < significand ∧ significand ≤ maxSigned + 1 then .ok (.integer (-significand))
  else fraction true significand 0

/-- Reads the digits of a numeral and what follows them. -/
def readDigits (negative : Bool) (text : List Char) : Reading Numeral :=
  let (digits, rest) := spanDigits text
  let (significand, left) := absorb 0 digits
  if digits.isEmpty then .error (unexpected rest)
  else if 1 < digits.length ∧ digits.head? = some '0' then .error .grammar
  else
    match rest with
    | '.' :: rest => readDecimals negative significand left.length rest
    | 'e' :: _ | 'E' :: _ => readTail negative significand left.length rest
    | _ =>
        if left.isEmpty then (whole negative significand).map (·, rest)
        else (fraction negative significand left.length).map (·, rest)

/-- Reads a number from its first character on. -/
def readNumber (text : List Char) : Reading Numeral :=
  match text with
  | '-' :: rest => readDigits true rest
  | _ => readDigits false text

/-- Skips digits, of which there must be one. -/
def skipDigits (text : List Char) : Except Fault (List Char) :=
  match text with
  | c :: rest => if c.isDigit then .ok (rest.dropWhile Char.isDigit) else .error .grammar
  | [] => .error .grammar

/-- Skips an exponent, if there is one. -/
def skipExponent (text : List Char) : Except Fault (List Char) :=
  match text with
  | 'e' :: '+' :: rest | 'e' :: '-' :: rest | 'E' :: '+' :: rest | 'E' :: '-' :: rest
  | 'e' :: rest | 'E' :: rest => skipDigits rest
  | _ => .ok text

/-- Skips the digits of a number and what follows them. -/
def skipUnsigned (text : List Char) : Except Fault (List Char) :=
  match text with
  | '0' :: c :: rest =>
      if c.isDigit then .error .grammar else skipFraction (c :: rest)
  | _ => (skipDigits text).bind skipFraction
where
  /-- Skips what follows the digits of a number. -/
  skipFraction (text : List Char) : Except Fault (List Char) :=
    match text with
    | '.' :: rest => (skipDigits rest).bind skipExponent
    | _ => skipExponent text

/-- Skips a number from its first character on. -/
def skipNumber (text : List Char) : Except Fault (List Char) :=
  match text with
  | '-' :: rest => skipUnsigned rest
  | _ => skipUnsigned text

theorem length_skipDigits {text rest : List Char} (skip : skipDigits text = .ok rest) :
    rest.length < text.length := by
  rw [skipDigits.eq_def] at skip
  split at skip
  · split at skip <;> cases skip
    exact Nat.lt_succ_of_le (List.dropWhile_sublist _).length_le
  · cases skip

theorem length_skipExponent {text rest : List Char} (skip : skipExponent text = .ok rest) :
    rest.length ≤ text.length := by
  rw [skipExponent.eq_def] at skip
  split at skip
  case h_7 => cases skip; exact Nat.le_refl _
  all_goals
    have := length_skipDigits skip
    simp only [List.length_cons]
    omega

theorem length_skipFraction {text rest : List Char}
    (skip : skipUnsigned.skipFraction text = .ok rest) : rest.length ≤ text.length := by
  rw [skipUnsigned.skipFraction.eq_def] at skip
  split at skip
  · rename_i tail
    cases digits : skipDigits tail with
    | error cause => simp [digits, Except.bind] at skip
    | ok after =>
        have after_lt := length_skipDigits digits
        simp only [digits, Except.bind] at skip
        have rest_le := length_skipExponent skip
        simp only [List.length_cons]
        omega
  · exact length_skipExponent skip

theorem length_skipUnsigned {text rest : List Char} (skip : skipUnsigned text = .ok rest) :
    rest.length < text.length := by
  rw [skipUnsigned.eq_def] at skip
  split at skip
  · split at skip
    · cases skip
    · exact Nat.lt_succ_of_le (length_skipFraction skip)
  · cases digits : skipDigits text with
    | error cause => simp [digits, Except.bind] at skip
    | ok after =>
        simp only [digits, Except.bind] at skip
        exact Nat.lt_of_le_of_lt (length_skipFraction skip) (length_skipDigits digits)

theorem length_skipNumber {text rest : List Char} (skip : skipNumber text = .ok rest) :
    rest.length < text.length := by
  rw [skipNumber.eq_def] at skip
  split at skip
  · exact Nat.lt_succ_of_lt (length_skipUnsigned skip)
  · exact length_skipUnsigned skip

theorem length_spanDigits (text : List Char) : (spanDigits text).2.length ≤ text.length :=
  (List.dropWhile_sublist _).length_le

theorem map_pair_eq_ok {α : Type} {value : Except Fault α} {found : α} {tail rest : List Char}
    (mapped : value.map (·, tail) = .ok (found, rest)) : rest = tail := by
  cases value with
  | error cause => cases mapped
  | ok value => cases mapped; rfl

theorem length_readExponent {negative : Bool} {significand : Nat} {exponent : Int}
    {text rest : List Char} {numeral : Numeral}
    (read : readExponent negative significand exponent text = .ok (numeral, rest)) :
    rest.length ≤ text.length := by
  rw [readExponent.eq_def] at read
  split at read
  rename_i down after signed
  have after_le : after.length ≤ text.length := by
    split at signed <;> cases signed <;> simp
  simp only at read
  split at read
  · cases read
  · have := map_pair_eq_ok read
    have := length_spanDigits after
    simp_all
    omega

theorem length_readTail {negative : Bool} {significand : Nat} {exponent : Int}
    {text rest : List Char} {numeral : Numeral}
    (read : readTail negative significand exponent text = .ok (numeral, rest)) :
    rest.length ≤ text.length := by
  rw [readTail.eq_def] at read
  split at read
  · exact Nat.le_succ_of_le (length_readExponent read)
  · exact Nat.le_succ_of_le (length_readExponent read)
  · exact Nat.le_of_eq (congrArg List.length (map_pair_eq_ok read))

theorem length_readDecimals {negative : Bool} {significand : Nat} {exponent : Int}
    {text rest : List Char} {numeral : Numeral}
    (read : readDecimals negative significand exponent text = .ok (numeral, rest)) :
    rest.length ≤ text.length := by
  rw [readDecimals] at read
  simp only at read
  split at read
  · cases read
  · exact Nat.le_trans (length_readTail read) (length_spanDigits text)

theorem length_readDigits {negative : Bool} {text rest : List Char} {numeral : Numeral}
    (read : readDigits negative text = .ok (numeral, rest)) : rest.length < text.length := by
  have parts := congrArg List.length
    (List.takeWhile_append_dropWhile (p := Char.isDigit) (l := text))
  rw [List.length_append] at parts
  unfold readDigits spanDigits at read
  simp only at read
  split at read
  · cases read
  · rename_i digits
    have digits_pos : 0 < (text.takeWhile Char.isDigit).length :=
      List.length_pos_iff.mpr fun empty => digits (by rw [empty]; rfl)
    split at read
    · cases read
    · split at read
      · rename_i point
        have := length_readDecimals read
        rw [point] at parts
        simp only [List.length_cons] at parts
        omega
      · have := length_readTail read
        omega
      · have := length_readTail read
        omega
      · split at read
        all_goals
          have rest_eq := map_pair_eq_ok read
          subst rest_eq
          omega

theorem length_readNumber {text rest : List Char} {numeral : Numeral}
    (read : readNumber text = .ok (numeral, rest)) : rest.length < text.length := by
  rw [readNumber.eq_def] at read
  split at read
  · exact Nat.lt_succ_of_lt (length_readDigits read)
  · exact length_readDigits read

end LedgerBoard.Json
