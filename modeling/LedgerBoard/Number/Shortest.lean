import LedgerBoard.Number.Binary64
import LedgerBoard.Number.Decimal

/-!
# Shortest decimal texts

The shortest decimal text of a binary magnitude has the fewest digits that read back as the same
magnitude, and of those the nearest. `shortest` finds these digits; a `Layout` then says which of
them are written with an exponent.
-/

namespace LedgerBoard.Number

namespace Binary64

/-- A decimal magnitude `digits * 10 ^ exponent`. -/
structure Digits where
  digits : Nat
  exponent : Int
  deriving DecidableEq, Repr

/-- The power of ten of the leading digit of a positive quotient. -/
def leading (num den : Nat) : Int :=
  if den ≤ num then (decimal (num / den)).length - 1
  else -(decimal ((den - 1) / num)).length

/-- Moves factors of ten from the digits to the exponent, at most `limit` of them. -/
def Digits.strip : Nat → Digits → Digits
  | 0, x => x
  | limit + 1, x =>
      if x.digits ≠ 0 ∧ x.digits % 10 = 0 then
        strip limit ⟨x.digits / 10, x.exponent + 1⟩
      else x

/-- The points of the decimal grid with spacing `10 ^ exponent` next to a magnitude that round to
it, the nearer one if both do. The numbers that round to a magnitude reach half way to its
neighbours, and include the ends when its mantissa is even. -/
def nearestOnGrid? (x : Binary64) (exponent : Int) : Option Nat :=
  let unit := x.exponent - 2
  let point (n : Nat) : Nat := n * Nat.pow 10 exponent.toNat * Nat.pow 2 (-unit).toNat
  let quarters (n : Nat) : Nat := n * Nat.pow 2 unit.toNat * Nat.pow 10 (-exponent).toNat
  let middle := 4 * x.mantissa
  let narrow := x.mantissa = minMantissa ∧ minExponent < x.exponent
  let low := quarters (middle - if narrow then 1 else 2)
  let high := quarters (middle + 2)
  let closed := x.mantissa % 2 = 0
  let inside (n : Nat) : Bool :=
    (low < point n || (closed && low == point n)) &&
      (point n < high || (closed && high == point n))
  let below := quarters middle / point 1
  let above := below + 1
  match inside below && below != 0, inside above with
  | true, true =>
      let sum := point below + point above
      let twice := 2 * quarters middle
      if twice < sum || (twice == sum && below % 2 == 0) then some below else some above
  | true, false => some below
  | false, true => some above
  | false, false => none

/-- The fewest digits that read back as a magnitude. -/
def shortest (x : Binary64) : Digits :=
  if x.mantissa = 0 then ⟨0, 0⟩
  else
    let top := leading x.ratio.1 x.ratio.2
    let hit := (List.range 17).findSome? fun (count : Nat) =>
      let exponent := top - count
      (nearestOnGrid? x exponent).map fun digits => Digits.mk digits exponent
    (hit.getD ⟨0, 0⟩).strip 20

end Binary64

/-- Which numbers are written without an exponent, by the power of ten of their leading digit. -/
structure Layout where
  positional : Int → Bool

namespace Layout

def zeros (count : Nat) : List Char :=
  List.replicate count '0'

/-- The text of decimal digits: positional with at least one digit after the point, or with an
exponent that always has its sign. -/
def write (layout : Layout) (x : Binary64.Digits) : List Char :=
  let digits := decimal x.digits
  let lead := x.exponent + digits.length - 1
  if layout.positional lead then
    if 0 ≤ x.exponent then digits ++ zeros x.exponent.toNat ++ ['.', '0']
    else if 0 ≤ lead then
      digits.take (lead.toNat + 1) ++ '.' :: digits.drop (lead.toNat + 1)
    else '0' :: '.' :: zeros (-lead - 1).toNat ++ digits
  else
    let sign := if lead < 0 then '-' else '+'
    let tail := digits.drop 1
    digits.take 1 ++ (if tail.isEmpty then [] else '.' :: tail) ++
      'e' :: sign :: decimal lead.natAbs

def text (layout : Layout) (negative : Bool) (x : Binary64) : String :=
  String.ofList ((if negative then ['-'] else []) ++ layout.write x.shortest)

end Layout

end LedgerBoard.Number
