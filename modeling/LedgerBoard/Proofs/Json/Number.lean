import Mathlib.Data.List.Induction
import LedgerBoard.Proofs.Json.Grammar
import LedgerBoard.Proofs.Number.Decimal
import LedgerBoard.Proofs.Outcome

/-!
# Numbers read back

Skipping finds the end of every number. Reading a number gives an integer exactly if it is spelled
as the decimal numeral of one that fits sixty-four bits; a point, an exponent or a negative zero
make it a fraction.
-/

namespace LedgerBoard.Json

open Number

/-- Text that cannot go on a run of digits before it. -/
def EndsDigits (rest : List Char) : Prop :=
  ∀ c ∈ rest.head?, c.isDigit = false

section Skip

variable {digits fraction exponent rest : List Char}

theorem Ends.endsDigits (ends : Ends rest) : EndsDigits rest :=
  fun c first => (ends c first).1

theorem endsDigits_cons {c : Char} (no_digit : c.isDigit = false) (rest : List Char) :
    EndsDigits (c :: rest) := by
  rintro other ⟨⟩
  exact no_digit

theorem ExponentText.endsDigits (exponent_text : ExponentText exponent) (ends : Ends rest) :
    EndsDigits (exponent ++ rest) := by
  rcases exponent_text with rfl | ⟨mark, sign, digits, rfl, marks, -⟩
  · exact ends.endsDigits
  · exact endsDigits_cons (by rcases marks with rfl | rfl <;> rfl) _

theorem FractionText.endsDigits (fraction_text : FractionText fraction) (ends : EndsDigits rest) :
    EndsDigits (fraction ++ rest) := by
  rcases fraction_text with rfl | ⟨digits, rfl, -⟩
  · exact ends
  · exact endsDigits_cons rfl _

theorem dropWhile_digits (all_digits : ∀ c ∈ digits, c.isDigit = true) (ends : EndsDigits rest) :
    (digits ++ rest).dropWhile Char.isDigit = rest := by
  rw [List.dropWhile_append_of_pos all_digits]
  cases rest with
  | nil => rfl
  | cons c tail => rw [List.dropWhile_cons, ends c rfl, if_neg Bool.false_ne_true]

theorem takeWhile_digits (all_digits : ∀ c ∈ digits, c.isDigit = true) (ends : EndsDigits rest) :
    (digits ++ rest).takeWhile Char.isDigit = digits := by
  rw [List.takeWhile_append_of_pos all_digits]
  cases rest with
  | nil => simp
  | cons c tail => rw [List.takeWhile_cons, ends c rfl, if_neg Bool.false_ne_true, List.append_nil]

theorem Digits.skip (run : Digits digits) (ends : EndsDigits rest) :
    skipDigits (digits ++ rest) = .ok rest := by
  rcases run with ⟨some_digits, all_digits⟩
  cases digits with
  | nil => exact absurd rfl some_digits
  | cons first others =>
      rw [List.cons_append, skipDigits, if_pos (all_digits first List.mem_cons_self),
        dropWhile_digits (fun c mem => all_digits c (List.mem_cons_of_mem first mem)) ends]

theorem ExponentText.skip (exponent_text : ExponentText exponent) (ends : Ends rest) :
    skipExponent (exponent ++ rest) = .ok rest := by
  rcases exponent_text with rfl | ⟨mark, sign, digits, rfl, marks, signs, run⟩
  · rw [List.nil_append, skipExponent.eq_def]
    split
    case h_7 => rfl
    all_goals
      have no_mark := ends _ rfl
      simp at no_mark
  · have skipped : skipDigits (digits ++ rest) = .ok rest := run.skip ends.endsDigits
    rw [List.cons_append, List.append_assoc]
    rcases signs with rfl | rfl | rfl
    · rw [List.nil_append]
      rcases run with ⟨some_digits, all_digits⟩
      cases digits with
      | nil => exact absurd rfl some_digits
      | cons first others =>
          have no_sign : first ≠ '+' ∧ first ≠ '-' := by
            have first_digit := all_digits first List.mem_cons_self
            constructor <;> rintro rfl <;> cases first_digit
          rcases marks with rfl | rfl <;> simpa [skipExponent, no_sign] using skipped
    · rcases marks with rfl | rfl <;> exact skipped
    · rcases marks with rfl | rfl <;> exact skipped

theorem ExponentText.no_point (exponent_text : ExponentText exponent) (ends : Ends rest) :
    (exponent ++ rest).head? ≠ some '.' := by
  rcases exponent_text with rfl | ⟨mark, sign, digits, rfl, marks, -⟩
  · intro point
    exact (ends '.' point).2.1 rfl
  · rcases marks with rfl | rfl <;> nofun

theorem FractionText.skip (fraction_text : FractionText fraction)
    (exponent_text : ExponentText exponent) (ends : Ends rest) :
    skipUnsigned.skipFraction (fraction ++ (exponent ++ rest)) = .ok rest := by
  rcases fraction_text with rfl | ⟨digits, rfl, run⟩
  · rw [List.nil_append, skipUnsigned.skipFraction.eq_def]
    split
    · rename_i point
      exact absurd (congrArg List.head? point) (exponent_text.no_point ends)
    · exact exponent_text.skip ends
  · rw [List.cons_append, skipUnsigned.skipFraction, run.skip (exponent_text.endsDigits ends)]
    exact exponent_text.skip ends

/-- What follows the digits of a whole number is skipped as its fraction and exponent. A zero stands
alone. -/
theorem WholeDigits.skip (whole : WholeDigits digits) {tail : List Char} (ends : EndsDigits tail) :
    skipUnsigned (digits ++ tail) = skipUnsigned.skipFraction tail := by
  rw [skipUnsigned.eq_def]
  split
  · rename_i c behind split
    have zero : digits = ['0'] := by
      apply whole.2
      cases digits with
      | nil => exact absurd rfl whole.1.1
      | cons first others => rw [(List.cons.inj split).1, List.head?_cons]
    subst zero
    cases split
    rw [ends c rfl, if_neg Bool.false_ne_true]
  · rw [whole.1.skip ends]
    rfl

theorem WholeDigits.no_minus (whole : WholeDigits digits) {tail behind : List Char} :
    digits ++ tail ≠ '-' :: behind := by
  rcases whole.1 with ⟨some_digits, all_digits⟩
  cases digits with
  | nil => exact absurd rfl some_digits
  | cons first others =>
      intro same
      have minus_digit := all_digits first List.mem_cons_self
      rw [(List.cons.inj same).1] at minus_digit
      cases minus_digit

/-- Skipping finds the end of a number. -/
theorem NumberText.skip {text : List Char} (number : NumberText text) (ends : Ends rest) :
    skipNumber (text ++ rest) = .ok rest := by
  cases number with
  | @parts minus digits fraction exponent minus_text whole fraction_text exponent_text =>
      have skipped : skipUnsigned (digits ++ (fraction ++ (exponent ++ rest))) = .ok rest :=
        (whole.skip (fraction_text.endsDigits (exponent_text.endsDigits ends))).trans
          (fraction_text.skip exponent_text ends)
      simp only [List.append_assoc]
      rcases minus_text with rfl | rfl
      · rw [List.nil_append, skipNumber.eq_def]
        split
        · rename_i minus
          exact absurd minus whole.no_minus
        · exact skipped
      · exact skipped

end Skip

theorem digitsValue_concat (digits : List Char) (c : Char) :
    digitsValue (digits ++ [c]) = digitsValue digits * 10 + digitValue c := by
  simp [digitsValue]

theorem digit_digitValue {c : Char} (is_digit : c.isDigit = true) (tens : Nat) :
    digit (tens * 10 + digitValue c) = c := by
  have bounds := isDigit_bounds is_digit
  have code : 48 + (tens * 10 + digitValue c) % 10 = c.toNat := by
    rw [digitValue]
    omega
  rw [digit, code, Char.ofNat_toNat]

theorem head?_append_of_some_digits {digits : List Char} (some_digits : digits ≠ [])
    {tail : List Char} :
    (digits ++ tail).head? = digits.head? := by
  cases digits with
  | nil => exact absurd rfl some_digits
  | cons first others => rfl

/-- Digits without a leading zero are the decimal numeral of their value, as all but the last one
are the numeral of the tens. -/
theorem WholeDigits.decimal_eq {digits : List Char} (whole : WholeDigits digits) :
    decimal (digitsValue digits) = digits := by
  induction digits using List.reverseRecOn with
  | nil => exact absurd rfl whole.1.1
  | append_singleton front last ih =>
      have last_digit : last.isDigit = true :=
        whole.1.2 last (List.mem_append_right front List.mem_cons_self)
      have last_small : digitValue last < 10 := by
        have := isDigit_bounds last_digit
        rw [digitValue]
        omega
      rw [digitsValue_concat]
      by_cases alone : front = []
      · subst alone
        rw [decimal, if_pos (by simpa [digitsValue] using last_small), digit_digitValue last_digit]
        rfl
      · have same_head : (front ++ [last]).head? = front.head? := head?_append_of_some_digits alone
        have no_zero : front.head? ≠ some '0' := by
          intro zero
          have single := congrArg List.length (whole.2 (same_head.trans zero))
          have := List.length_pos_iff.mpr alone
          simp only [List.length_append, List.length_cons, List.length_nil] at single
          omega
        have front_digits : Digits front :=
          ⟨alone, fun c mem => whole.1.2 c (List.mem_append_left _ mem)⟩
        have tens := ih ⟨front_digits, fun zero => absurd zero no_zero⟩
        have some_tens : digitsValue front ≠ 0 := by
          intro none
          rw [none, decimal] at tens
          exact no_zero (tens ▸ rfl)
        have quotient : (digitsValue front * 10 + digitValue last) / 10 = digitsValue front := by
          omega
        rw [decimal, if_neg (by omega), quotient, tens, digit_digitValue last_digit]

theorem wholeDigits_decimal (n : Nat) : WholeDigits (decimal n) := by
  refine ⟨⟨decimal_ne_nil n, fun c mem => isDigit_of_mem_decimal mem⟩, ?_⟩
  fun_induction decimal n with
  | case1 n small =>
      intro zero
      exact congrArg (fun c => [c]) (Option.some.inj zero)
  | case2 n large ih =>
      intro zero
      rw [head?_append_of_some_digits (decimal_ne_nil _)] at zero
      have no_tens := congrArg digitsValue (ih zero)
      rw [digitsValue_decimal] at no_tens
      have tens : n / 10 = 0 := no_tens
      omega

theorem foldl_digits_ge (digits : List Char) (significand : Nat) :
    significand ≤ digits.foldl (fun value c => value * 10 + digitValue c) significand := by
  induction digits generalizing significand with
  | nil => exact Nat.le_refl _
  | cons c rest ih =>
      have := ih (significand * 10 + digitValue c)
      rw [List.foldl_cons]
      omega

/-- All digits are absorbed exactly if the value fits sixty-four bits, and then the value is
exact. -/
theorem absorb_eq (digits : List Char) {significand : Nat} (fits : significand ≤ maxWord) :
    absorb significand digits =
        (digits.foldl (fun value c => value * 10 + digitValue c) significand, []) ∧
        digits.foldl (fun value c => value * 10 + digitValue c) significand ≤ maxWord ∨
      (absorb significand digits).2 ≠ [] ∧
        maxWord < digits.foldl (fun value c => value * 10 + digitValue c) significand := by
  induction digits generalizing significand with
  | nil => exact .inl ⟨rfl, fits⟩
  | cons c rest ih =>
      rw [absorb, List.foldl_cons]
      split
      · exact ih ‹_›
      · rename_i large
        refine .inr ⟨nofun, ?_⟩
        exact Nat.lt_of_lt_of_le (Nat.not_le.mp large) (foldl_digits_ge rest _)

/-- Nothing is read, or a number that is no integer. -/
def NoInteger (reading : Reading Numeral) : Prop :=
  ∀ value last, reading ≠ .ok (.integer value, last)

theorem noInteger_error (cause : Fault) : NoInteger (.error cause) := by
  intro value last read
  cases read

theorem noInteger_fraction (negative : Bool) (significand : Nat) (exponent : Int)
    (rest : List Char) :
    NoInteger ((fraction negative significand exponent).map (·, rest)) := by
  intro value last
  rw [fraction]
  split <;> nofun

theorem noInteger_readExponent (negative : Bool) (significand : Nat) (exponent : Int)
    (text : List Char) :
    NoInteger (readExponent negative significand exponent text) := by
  rw [readExponent.eq_def]
  split
  dsimp only
  split
  · exact noInteger_error _
  · split
    · exact noInteger_fraction _ _ _ _
    · split
      · exact noInteger_error _
      · exact noInteger_fraction _ _ _ _

theorem noInteger_readTail (negative : Bool) (significand : Nat) (exponent : Int)
    (text : List Char) :
    NoInteger (readTail negative significand exponent text) := by
  rw [readTail.eq_def]
  split
  · exact noInteger_readExponent _ _ _ _
  · exact noInteger_readExponent _ _ _ _
  · exact noInteger_fraction _ _ _ _

theorem noInteger_readDecimals (negative : Bool) (significand : Nat) (exponent : Int)
    (text : List Char) :
    NoInteger (readDecimals negative significand exponent text) := by
  rw [readDecimals]
  dsimp only
  split
  · exact noInteger_error _
  · exact noInteger_readTail _ _ _ _

section Read

variable {digits : List Char}

/-- What is read after the digits of a numeral, given the significand and the digits that it left
over. -/
def readAfterDigits (negative : Bool) (absorbed : Nat × List Char) (rest : List Char) :
    Reading Numeral :=
  match rest with
  | '.' :: tail => readDecimals negative absorbed.1 absorbed.2.length tail
  | 'e' :: _ | 'E' :: _ => readTail negative absorbed.1 absorbed.2.length rest
  | _ =>
      if absorbed.2.isEmpty then (whole negative absorbed.1).map (·, rest)
      else (fraction negative absorbed.1 absorbed.2.length).map (·, rest)

theorem readDigits_eq (negative : Bool) (whole_digits : WholeDigits digits) {rest : List Char}
    (ends : EndsDigits rest) :
    readDigits negative (digits ++ rest) = readAfterDigits negative (absorb 0 digits) rest := by
  have some_digits : digits.isEmpty = false := by simpa using whole_digits.1.1
  have no_zero : ¬(1 < digits.length ∧ digits.head? = some '0') := by
    rintro ⟨long, zero⟩
    rw [whole_digits.2 zero] at long
    exact absurd long (by decide)
  rw [readDigits, spanDigits, takeWhile_digits whole_digits.1.2 ends,
    dropWhile_digits whole_digits.1.2 ends]
  simp only [some_digits, if_neg Bool.false_ne_true, if_neg no_zero]
  rfl

/-- A point or an exponent makes a fraction. -/
theorem noInteger_readDigits (negative : Bool) (whole_digits : WholeDigits digits) {mark : Char}
    (marks : mark = '.' ∨ mark = 'e' ∨ mark = 'E') (tail : List Char) :
    NoInteger (readDigits negative (digits ++ mark :: tail)) := by
  have ends : EndsDigits (mark :: tail) :=
    endsDigits_cons (by rcases marks with rfl | rfl | rfl <;> rfl) tail
  rw [readDigits_eq negative whole_digits ends, readAfterDigits.eq_def]
  rcases marks with rfl | rfl | rfl
  · exact noInteger_readDecimals _ _ _ _
  · exact noInteger_readTail _ _ _ _
  · exact noInteger_readTail _ _ _ _

/-- Digits alone make an integer if it fits. -/
theorem readDigits_eq_integer_iff (negative : Bool) (whole_digits : WholeDigits digits)
    {rest : List Char} (ends : Ends rest) {value : Int} {last : List Char} :
    readDigits negative (digits ++ rest) = .ok (.integer value, last) ↔
      last = rest ∧ digitsValue digits ≤ maxWord ∧
        whole negative (digitsValue digits) = .ok (.integer value) := by
  rw [readDigits_eq negative whole_digits ends.endsDigits, readAfterDigits.eq_def]
  split
  · exact absurd rfl (ends _ rfl).2.1
  · exact absurd rfl (ends _ rfl).2.2.1
  · exact absurd rfl (ends _ rfl).2.2.2
  · rcases absorb_eq digits (Nat.zero_le maxWord) with ⟨absorbed, fits⟩ | ⟨some_left, large⟩
    · rw [absorbed, List.isEmpty_nil, if_pos rfl, Outcome.map_eq_ok_iff]
      constructor
      · rintro ⟨numeral, found, same⟩
        cases same
        exact ⟨rfl, fits, found⟩
      · rintro ⟨rfl, -, found⟩
        exact ⟨.integer value, found, rfl⟩
    · rw [List.isEmpty_eq_false_iff.mpr some_left, if_neg Bool.false_ne_true]
      constructor
      · intro read
        exact absurd read (noInteger_fraction _ _ _ _ value last)
      · rintro ⟨-, fits, -⟩
        exact absurd fits (Nat.not_le.mpr large)

theorem decimalInt_neg {n : Nat} (positive : 0 < n) :
    decimalInt (-(n : Int)) = '-' :: decimal n := by
  cases n with
  | zero => cases positive
  | succ n => rfl

theorem whole_eq_integer_iff (negative : Bool) (significand : Nat) (value : Int) :
    whole negative significand = .ok (.integer value) ↔
      if negative then 0 < significand ∧ significand ≤ maxSigned + 1 ∧ value = -significand
      else value = significand := by
  cases negative with
  | false => simp [whole, eq_comm]
  | true =>
      rw [whole, if_neg (by decide), if_pos rfl]
      split
      · rename_i fits
        simp [fits, eq_comm]
      · rename_i large
        constructor
        · intro read
          exact absurd (by rw [read]; rfl) (noInteger_fraction true significand 0 [] value [])
        · rintro ⟨positive, small, -⟩
          exact absurd ⟨positive, small⟩ large

/-- A number that is read as an integer has no point and no exponent. -/
theorem eq_nil_of_integer {negative : Bool} {fraction exponent rest last : List Char} {value : Int}
    (whole_digits : WholeDigits digits) (fraction_text : FractionText fraction)
    (exponent_text : ExponentText exponent)
    (read : readDigits negative (digits ++ (fraction ++ (exponent ++ rest))) =
      .ok (.integer value, last)) :
    fraction = [] ∧ exponent = [] := by
  rcases fraction_text with rfl | ⟨decimals, rfl, -⟩
  · rcases exponent_text with rfl | ⟨mark, sign, power, rfl, marks, -⟩
    · exact ⟨rfl, rfl⟩
    · exact absurd read (noInteger_readDigits negative whole_digits (.inr marks) _ value last)
  · exact absurd read (noInteger_readDigits negative whole_digits (.inl rfl) _ value last)

end Read

/-- The integers that fit sixty-four bits, with a sign or without. -/
def FitsWord (value : Int) : Prop :=
  -(maxSigned + 1 : Nat) ≤ value ∧ value ≤ maxWord

theorem readNumber_decimalInt {value : Int} (fits : FitsWord value) {rest : List Char}
    (ends : Ends rest) :
    readNumber (decimalInt value ++ rest) = .ok (.integer value, rest) := by
  rcases fits with ⟨low, high⟩
  cases value with
  | ofNat n =>
      rw [decimalInt, readNumber.eq_def]
      split
      · rename_i minus
        exact absurd minus (wholeDigits_decimal n).no_minus
      · rw [readDigits_eq_integer_iff false (wholeDigits_decimal n) ends, digitsValue_decimal,
          whole_eq_integer_iff]
        exact ⟨rfl, Int.ofNat_le.mp high, rfl⟩
  | negSucc n =>
      show readDigits true (decimal (n + 1) ++ rest) = _
      rw [readDigits_eq_integer_iff true (wholeDigits_decimal (n + 1)) ends, digitsValue_decimal,
        whole_eq_integer_iff]
      have small : n + 1 ≤ maxSigned + 1 := by omega
      exact ⟨rfl, Nat.le_trans small (by decide), Nat.succ_pos n, small, rfl⟩

/-- A number is read as an integer exactly if it is spelled as the decimal numeral of one that
fits. -/
theorem NumberText.read_eq_integer_iff {text rest last : List Char} (number : NumberText text)
    (ends : Ends rest) {value : Int} :
    readNumber (text ++ rest) = .ok (.integer value, last) ↔
      last = rest ∧ text = decimalInt value ∧ FitsWord value := by
  constructor
  · intro read
    cases number with
    | @parts minus digits fraction exponent minus_text whole_digits fraction_text exponent_text =>
        simp only [List.append_assoc] at read
        rcases minus_text with rfl | rfl
        · rw [List.nil_append, readNumber.eq_def] at read
          split at read
          · rename_i minus
            exact absurd minus whole_digits.no_minus
          · rcases eq_nil_of_integer whole_digits fraction_text exponent_text read with ⟨rfl, rfl⟩
            rcases (readDigits_eq_integer_iff false whole_digits ends).mp read with
              ⟨same, fits, found⟩
            rw [whole_eq_integer_iff, if_neg Bool.false_ne_true] at found
            subst found
            refine ⟨same, ?_, by omega, Int.ofNat_le.mpr fits⟩
            have numeral : decimalInt (digitsValue digits) = decimal (digitsValue digits) := rfl
            rw [numeral, whole_digits.decimal_eq]
            simp
        · have read_digits : readDigits true (digits ++ (fraction ++ (exponent ++ rest))) =
              .ok (.integer value, last) := read
          rcases eq_nil_of_integer whole_digits fraction_text exponent_text read_digits with
            ⟨rfl, rfl⟩
          rcases (readDigits_eq_integer_iff true whole_digits ends).mp read_digits with
            ⟨same, -, found⟩
          rw [whole_eq_integer_iff, if_pos rfl] at found
          rcases found with ⟨positive, small, rfl⟩
          refine ⟨same, ?_, by omega, by omega⟩
          rw [decimalInt_neg positive, whole_digits.decimal_eq]
          simp
  · rintro ⟨rfl, rfl, fits⟩
    exact readNumber_decimalInt fits ends

end LedgerBoard.Json
