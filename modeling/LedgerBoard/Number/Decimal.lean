/-!
# Decimal numerals

Natural numbers in base ten: `decimal` writes them without leading zeros, `digitsValue` reads a
run of digits, and `unsigned?` reads a numeral that must fit a given bound.
-/

namespace LedgerBoard.Number

def digit (n : Nat) : Char :=
  Char.ofNat (48 + n % 10)

/-- The decimal numeral of a number, without leading zeros. -/
def decimal (n : Nat) : List Char :=
  if n < 10 then [digit n] else decimal (n / 10) ++ [digit n]

def digitValue (c : Char) : Nat :=
  c.toNat - 48

/-- The number that a run of digits stands for. -/
def digitsValue (digits : List Char) : Nat :=
  digits.foldl (fun value c => value * 10 + digitValue c) 0

def decimalInt : Int → List Char
  | .ofNat n => decimal n
  | .negSucc n => '-' :: decimal (n + 1)

def hexValue? (c : Char) : Option Nat :=
  let code := c.toNat
  if 48 ≤ code ∧ code ≤ 57 then some (code - 48)
  else if 97 ≤ code ∧ code ≤ 102 then some (code - 87)
  else if 65 ≤ code ∧ code ≤ 70 then some (code - 55)
  else none

/-- Reads a numeral of at least one digit, with an optional plus sign, that is at most `limit`. -/
def unsigned? (limit : Nat) (text : List Char) : Option Nat :=
  let digits := match text with
    | '+' :: rest => rest
    | _ => text
  if !digits.isEmpty && digits.all Char.isDigit && digitsValue digits ≤ limit then
    some (digitsValue digits)
  else none

def maxWord : Nat := 0xFFFFFFFFFFFFFFFF

/-- The largest signed number of sixty-four bits. -/
def maxSigned : Nat := 0x7FFFFFFFFFFFFFFF

end LedgerBoard.Number
