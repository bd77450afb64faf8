import LedgerBoard.Number.Decimal
import LedgerBoard.Text.Blank

/-!
# Numerals read back

The decimal numeral of a number is the one of the standard library. It holds digits only, so nothing
is trimmed off it, and it reads back as the number wherever the number is allowed.
-/

namespace LedgerBoard

theorem Text.trim_eq_self {text : List Char} (solid : ∀ c ∈ text, isBlank c = false) :
    trim text = text := by
  have kept : ∀ part : List Char, (∀ c ∈ part, isBlank c = false) →
      part.dropWhile isBlank = part := by
    intro part solid
    cases part with
    | nil => rfl
    | cons c rest => simp [solid c List.mem_cons_self]
  rw [trim, trimStart, kept text solid, trimEnd, kept text.reverse, List.reverse_reverse]
  intro c mem
  exact solid c (List.mem_reverse.mp mem)

namespace Number

theorem digit_eq_digitChar {n : Nat} (small : n < 10) : digit n = n.digitChar := by
  decide +revert

theorem decimal_eq_toDigits (n : Nat) : decimal n = Nat.toDigits 10 n := by
  fun_induction decimal n with
  | case1 n small => rw [Nat.toDigits_of_lt_base small, digit_eq_digitChar small]
  | case2 n large ih =>
      rw [Nat.toDigits_of_base_le (by decide) (by omega), ih]
      have last : digit n = digit (n % 10) := by simp [digit]
      rw [last, digit_eq_digitChar (Nat.mod_lt n (by decide))]

theorem ofList_decimal (n : Nat) : String.ofList (decimal n) = toString n := by
  rw [decimal_eq_toDigits, Nat.toString_eq_ofList_toDigits]

theorem isDigit_of_mem_decimal {n : Nat} {c : Char} (mem : c ∈ decimal n) : c.isDigit = true := by
  rw [decimal_eq_toDigits] at mem
  exact Nat.isDigit_of_mem_toDigits (by decide) (by decide) mem

theorem decimal_ne_nil (n : Nat) : decimal n ≠ [] := by
  rw [decimal_eq_toDigits]
  exact Nat.toDigits_ne_nil

theorem digitsValue_decimal (n : Nat) : digitsValue (decimal n) = n := by
  have same_fold : ∀ text : List Char, digitsValue text = Nat.ofDigitChars 10 text 0 := by
    intro text
    simp [digitsValue, Nat.ofDigitChars, digitValue, Nat.mul_comm]
  rw [same_fold, decimal_eq_toDigits, Nat.ofDigitChars_ten_toDigits]

theorem isDigit_bounds {c : Char} (is_digit : c.isDigit = true) : 48 ≤ c.toNat ∧ c.toNat ≤ 57 := by
  simp only [Char.isDigit, Bool.and_eq_true, decide_eq_true_eq] at is_digit
  exact ⟨UInt32.le_iff_toNat_le.mp is_digit.1, UInt32.le_iff_toNat_le.mp is_digit.2⟩

theorem isBlank_of_isDigit {c : Char} (digit : c.isDigit = true) : Text.isBlank c = false := by
  have bounds := isDigit_bounds digit
  simp only [Text.isBlank, Bool.or_eq_false_iff, Bool.and_eq_false_iff, decide_eq_false_iff_not,
    beq_eq_false_iff_ne]
  omega

theorem trim_decimal (n : Nat) : Text.trim (decimal n) = decimal n := by
  apply Text.trim_eq_self
  intro c mem
  exact isBlank_of_isDigit (isDigit_of_mem_decimal mem)

/-- A numeral reads back as the number, up to the largest one that is allowed. -/
theorem unsigned?_decimal {limit n : Nat} (allowed : n ≤ limit) :
    unsigned? limit (decimal n) = some n := by
  have all_digits : (decimal n).all Char.isDigit = true :=
    List.all_eq_true.mpr fun c mem => isDigit_of_mem_decimal mem
  have no_sign : ∀ rest, decimal n ≠ '+' :: rest := by
    intro rest signed
    have sign_digit : '+'.isDigit = true := isDigit_of_mem_decimal (signed ▸ List.mem_cons_self)
    exact absurd sign_digit (by decide)
  rw [unsigned?.eq_def]
  split
  · rename_i rest signed
    exact absurd signed (no_sign rest)
  · simp [all_digits, digitsValue_decimal, decimal_ne_nil, allowed]

end Number

end LedgerBoard
