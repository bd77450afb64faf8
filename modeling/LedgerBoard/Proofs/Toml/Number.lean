import LedgerBoard.Proofs.Json.Text
import LedgerBoard.Proofs.Toml.Space

/-!
# Numbers and moments read back

Every spelling of a number or a moment is read as what it stands for, where nothing behind it could
belong to it.
-/

namespace LedgerBoard.Toml

open Json (IsHex)
open Number

variable {c : Char} {base value : Nat} {values places : List Nat}
  {digits text rest sign : List Char} {negative : Bool}

theorem eq_digitChar (hex : IsHex c value) (small : value < 10) : c = value.digitChar := by
  apply Char.toNat_inj.mp
  rw [Nat.toNat_digitChar_of_lt_ten small]
  have read := Json.hexValue?_eq_some_iff.mpr hex
  simp only [hexValue?] at read
  split at read
  · cases read
    omega
  · split at read
    · cases read
      omega
    · split at read
      · cases read
        omega
      · cases read

theorem eq_map_digitChar (hex : List.Forall₂ IsHex digits values)
    (small : ∀ value ∈ values, value < 10) :
    digits = values.map Nat.digitChar := by
  induction hex with
  | nil => rfl
  | cons first others ih =>
      rw [List.map_cons, ← eq_digitChar first (small _ List.mem_cons_self),
        ih fun value mem => small value (List.mem_cons_of_mem _ mem)]

theorem isDigit_digitChar (small : value < 10) : value.digitChar.isDigit = true := by
  decide +revert

theorem isDigit_of_mem (small : ∀ value ∈ values, value < 10) :
    ∀ c ∈ values.map Nat.digitChar, c.isDigit = true := by
  intro c mem
  rcases List.mem_map.mp mem with ⟨value, listed, rfl⟩
  exact isDigit_digitChar (small value listed)

theorem digitsValue_map_digitChar (small : ∀ value ∈ values, value < 10) :
    digitsValue (values.map Nat.digitChar) = valueOf 10 values := by
  rw [digitsValue, valueOf, List.foldl_map]
  apply List.foldl_ext
  intro total value mem
  rw [digitValue, Nat.toNat_digitChar_of_lt_ten (small value mem), Nat.add_sub_cancel_left]

/-- A text that no run of digits could go on with. -/
def EndsRun (digit : Char → Bool) (rest : List Char) : Prop :=
  ∀ c ∈ rest.head?, digit c = false ∧ c ≠ '_'

section Runs

variable {digit : Char → Bool}

theorem spanDigits_cons (is_digit : digit c = true) (no_mark : c ≠ '_') (rest : List Char) :
    spanDigits digit (c :: rest) = (spanDigits digit rest).map (c :: ·) id := by
  rw [spanDigits.eq_def]
  split
  · rename_i same
    exact absurd (List.cons.inj same).1 no_mark
  · rename_i same
    cases same
    rw [if_pos is_digit]
  · rename_i same
    cases same

theorem spanDigits_apart (is_digit : digit c = true) (no_mark : c ≠ '_') (rest : List Char) :
    spanDigits digit ('_' :: c :: rest) = spanDigits digit (c :: rest) := by
  rw [spanDigits_cons is_digit no_mark, spanDigits, if_pos is_digit]

theorem EndsRun.span (ends : EndsRun digit rest) : spanDigits digit rest = ([], rest) := by
  cases rest with
  | nil => rfl
  | cons first others =>
      rcases ends first rfl with ⟨no_digit, no_mark⟩
      rw [spanDigits.eq_def]
      split
      · rename_i same
        exact absurd (List.cons.inj same).1 no_mark
      · rename_i same
        cases same
        rw [if_neg (by simp [no_digit])]
      · rename_i same
        cases same

theorem ne_underscore (hex : IsHex c value) : c ≠ '_' := by
  rintro rfl
  have no_value : hexValue? '_' = none := by decide
  cases no_value.symm.trans (Json.hexValue?_eq_some_iff.mpr hex)

theorem DigitRun.head (run : DigitRun base values text) :
    ∃ first others value, text = first :: others ∧ values.head? = some value ∧ IsHex first value ∧
      value < base := by
  cases run with
  | one hex small => exact ⟨_, _, _, rfl, rfl, hex, small⟩
  | next hex small => exact ⟨_, _, _, rfl, rfl, hex, small⟩
  | apart hex small => exact ⟨_, _, _, rfl, rfl, hex, small⟩

theorem DigitRun.small (run : DigitRun base values text) : ∀ value ∈ values, value < base := by
  induction run with
  | one hex small => simpa using small
  | next hex small others ih => simpa using ⟨small, ih⟩
  | apart hex small others ih => simpa using ⟨small, ih⟩

/-- A run of digits is read up to what ends it, without the underscores. -/
theorem DigitRun.span (run : DigitRun base values text)
    (is_digit : ∀ {c value}, IsHex c value → value < base → digit c = true)
    (ends : EndsRun digit rest) :
    ∃ digits, spanRun digit (text ++ rest) = (digits, rest) ∧ List.Forall₂ IsHex digits values := by
  have spanned : ∃ digits, spanDigits digit (text ++ rest) = (digits, rest) ∧
      List.Forall₂ IsHex digits values := by
    induction run with
    | @one c value hex small =>
        refine ⟨[c], ?_, .cons hex .nil⟩
        rw [List.cons_append, spanDigits_cons (is_digit hex small) (ne_underscore hex),
          List.nil_append, ends.span]
        rfl
    | @next c value values written hex small others ih =>
        rcases ih with ⟨digits, read, same⟩
        refine ⟨c :: digits, ?_, .cons hex same⟩
        rw [List.cons_append, spanDigits_cons (is_digit hex small) (ne_underscore hex), read]
        rfl
    | @apart c value values written hex small others ih =>
        rcases ih with ⟨digits, read, same⟩
        refine ⟨c :: digits, ?_, .cons hex same⟩
        obtain ⟨first, tail, second, rfl, -, first_hex, first_small⟩ := others.head
        rw [List.cons_append, spanDigits_cons (is_digit hex small) (ne_underscore hex),
          List.cons_append, List.cons_append,
          spanDigits_apart (is_digit first_hex first_small) (ne_underscore first_hex),
          ← List.cons_append, read]
        rfl
  obtain ⟨first, tail, second, rfl, -, first_hex, first_small⟩ := run.head
  rw [spanRun.eq_def]
  split
  · rename_i same
    exact absurd (List.cons.inj same).1 (ne_underscore first_hex)
  · exact spanned

end Runs

/-- A run of decimal digits. -/
theorem DigitRun.span_decimal (run : DigitRun 10 values text) (ends : EndsRun Char.isDigit rest) :
    spanRun Char.isDigit (text ++ rest) = (values.map Nat.digitChar, rest) := by
  have is_digit : ∀ {c value}, IsHex c value → value < 10 → c.isDigit = true := by
    intro c value hex small
    rw [eq_digitChar hex small]
    exact isDigit_digitChar small
  rcases run.span is_digit ends with ⟨digits, read, hex⟩
  rw [read, eq_map_digitChar hex run.small]

/-- The text of a run of decimal digits holds nothing but digits and underscores. -/
theorem DigitRun.mem (run : DigitRun 10 values text) : ∀ c ∈ text, c.isDigit = true ∨ c = '_' := by
  induction run with
  | one hex small => simp [eq_digitChar hex small, isDigit_digitChar small]
  | next hex small others ih => simpa [eq_digitChar hex small, isDigit_digitChar small] using ih
  | apart hex small others ih => simpa [eq_digitChar hex small, isDigit_digitChar small] using ih

/-- The digits in front of a point are read up to what ends them. -/
theorem WholeText.span (whole : WholeText values text) (ends : EndsRun Char.isDigit rest) :
    spanWhole (text ++ rest) = (values.map Nat.digitChar, rest) := by
  rcases whole with ⟨run, zero_alone⟩
  have spanned := run.span_decimal ends
  obtain ⟨first, tail, value, rfl, head, hex, small⟩ := run.head
  rw [spanWhole.eq_def]
  split
  · rename_i behind same
    rw [List.cons_append, List.cons.injEq] at same
    obtain ⟨rfl, rfl⟩ := same
    have zero : value = 0 := Option.some.inj ((Json.hexValue?_eq_some_iff.mpr hex).symm.trans rfl)
    cases zero_alone (zero ▸ head)
    rw [List.cons_append, List.nil_append, spanRun, spanDigits_cons rfl (by decide), ends.span]
      at spanned
    · exact spanned
    · nofun
  · exact spanned

theorem SignText.read (sign_text : SignText negative sign)
    (no_sign : ∀ c ∈ rest.head?, c ≠ '-' ∧ c ≠ '+') :
    readSign (sign ++ rest) = (negative, rest) := by
  cases sign_text with
  | absent =>
      rw [List.nil_append, readSign.eq_def]
      split
      · exact absurd rfl (no_sign _ rfl).1
      · exact absurd rfl (no_sign _ rfl).2
      · rfl
  | plus => rfl
  | minus => rfl

theorem WholeText.head (whole : WholeText values text) :
    ∃ first others, text = first :: others ∧ first.isDigit = true := by
  obtain ⟨first, others, value, rfl, -, hex, small⟩ := whole.1.head
  exact ⟨first, others, rfl, eq_digitChar hex small ▸ isDigit_digitChar small⟩

theorem ne_of_isDigit {mark : Char} (is_digit : c.isDigit = true)
    (no_digit : mark.isDigit = false) : c ≠ mark := by
  rintro rfl
  cases is_digit.symm.trans no_digit

theorem readSpecial?_of_digit (is_digit : c.isDigit = true) :
    readSpecial? negative (c :: rest) = none := by
  rw [readSpecial?.eq_def]
  split
  · rename_i same
    exact absurd (List.cons.inj same).1 (ne_of_isDigit is_digit rfl)
  · rename_i same
    exact absurd (List.cons.inj same).1 (ne_of_isDigit is_digit rfl)
  · rfl

/-- Digits behind a point are read, if there is a point. -/
theorem PlacesText.read (places_text : PlacesText places text) (ends : EndsRun Char.isDigit rest)
    (no_point : ∀ c ∈ rest.head?, c ≠ '.') :
    readPlaces? (text ++ rest) =
      if text = [] then none else some (places.map Nat.digitChar, rest) := by
  cases places_text with
  | absent =>
      rw [List.nil_append, if_pos rfl, readPlaces?.eq_def]
      split
      · exact absurd rfl (no_point _ rfl)
      · rfl
  | present run =>
      obtain ⟨first, tail, value, -, head, -, -⟩ := run.head
      have some_digit : places ≠ [] := by
        rintro rfl
        cases head
      simp [readPlaces?, run.span_decimal ends, some_digit]

theorem ExponentText.read {exponent : Int} (exponent_text : ExponentText exponent text)
    (ends : EndsRun Char.isDigit rest) (no_mark : ∀ c ∈ rest.head?, c ≠ 'e' ∧ c ≠ 'E') :
    readExponent? (text ++ rest) = if text = [] then none else some (exponent, rest) := by
  cases exponent_text with
  | absent =>
      rw [List.nil_append, if_pos rfl, readExponent?.eq_def]
      split
      · rw [if_neg]
        have other := no_mark _ rfl
        simpa using other
      · rfl
  | @present mark negative values sign digits is_mark sign_text run =>
      obtain ⟨first, tail, value, same, head, hex, small⟩ := run.head
      have some_digit : values ≠ [] := by
        rintro rfl
        cases head
      have is_digit : first.isDigit = true := eq_digitChar hex small ▸ isDigit_digitChar small
      have sign_read : readSign (sign ++ (digits ++ rest)) = (negative, digits ++ rest) := by
        apply sign_text.read
        rw [same]
        rintro _ ⟨rfl⟩
        exact ⟨ne_of_isDigit is_digit rfl, ne_of_isDigit is_digit rfl⟩
      simp [readExponent?, is_mark, sign_read, run.span_decimal ends, some_digit,
        digitsValue_map_digitChar run.small, signed]

/-- A signed run of digits is read up to what ends it. -/
theorem read_front (sign_text : SignText negative sign) (whole : WholeText values digits)
    (ends : EndsRun Char.isDigit rest) :
    readSign (sign ++ (digits ++ rest)) = (negative, digits ++ rest) ∧
      readSpecial? negative (digits ++ rest) = none ∧
      spanWhole (digits ++ rest) = (values.map Nat.digitChar, rest) ∧ values ≠ [] := by
  obtain ⟨first, others, same, is_digit⟩ := whole.head
  refine ⟨?_, ?_, whole.span ends, ?_⟩
  · apply sign_text.read
    rw [same]
    rintro _ ⟨rfl⟩
    exact ⟨ne_of_isDigit is_digit rfl, ne_of_isDigit is_digit rfl⟩
  · rw [same]
    exact readSpecial?_of_digit is_digit
  · obtain ⟨_, _, value, -, head, -, -⟩ := whole.1.head
    rintro rfl
    cases head

/-- No number of another base starts like a decimal one. -/
theorem readNumber?_decimal (no_base : ∀ c tail, text = '0' :: c :: tail → c ∉ ['x', 'o', 'b']) :
    readNumber? text = readDecimal? text := by
  rw [readNumber?.eq_def]
  split
  · exact absurd (by simp) (no_base _ _ rfl)
  · exact absurd (by simp) (no_base _ _ rfl)
  · exact absurd (by simp) (no_base _ _ rfl)
  · rfl

theorem WholeText.no_base (sign_text : SignText negative sign) (whole : WholeText values digits)
    (other : ∀ c ∈ rest.head?, c ∉ ['x', 'o', 'b']) :
    ∀ c tail, sign ++ (digits ++ rest) = '0' :: c :: tail → c ∉ ['x', 'o', 'b'] := by
  intro c tail same
  cases sign_text with
  | plus => cases same
  | minus => cases same
  | absent =>
      obtain ⟨first, others, value, rfl, head, hex, small⟩ := whole.1.head
      simp only [List.nil_append, List.cons_append, List.cons.injEq] at same
      obtain ⟨rfl, same⟩ := same
      have zero : value = 0 := Option.some.inj ((Json.hexValue?_eq_some_iff.mpr hex).symm.trans rfl)
      cases whole.2 (zero ▸ head)
      rw [List.nil_append] at same
      exact other c (by rw [same]; rfl)

/-- The digits of another base are read. -/
theorem DigitRun.read_base (run : DigitRun base values text)
    (high : valueOf base values < 0x8000000000000000) (follows : Follows rest) :
    readBase base (text ++ rest) = some ((valueOf base values : Int), rest) := by
  have is_digit : ∀ {c value}, IsHex c value → value < base →
      decide ((hexValue? c).getD base < base) = true := by
    intro c value hex small
    simpa [Json.hexValue?_eq_some_iff.mpr hex] using small
  have ends : EndsRun (fun c => decide ((hexValue? c).getD base < base)) rest := by
    refine follows.all ?_
    simp [hexValue?]
  obtain ⟨digits, spanned, hex⟩ := run.span is_digit ends
  have from_any :
      ∀ start, digits.foldl (fun total c => total * base + (hexValue? c).getD base) start =
      values.foldl (fun total value => total * base + value) start := by
    clear spanned run high
    induction hex with
    | nil => exact fun start => rfl
    | cons first others ih => simp [Json.hexValue?_eq_some_iff.mpr first, ih]
  have total :
      digits.foldl (fun total c => total * base + (hexValue? c).getD base) 0 =
        valueOf base values :=
    from_any 0
  have some_digit : digits ≠ [] := by
    rintro rfl
    cases hex
    obtain ⟨_, _, _, -, head, -, -⟩ := run.head
    cases head
  have in_range : ¬maxSigned < valueOf base values := by
    simp only [maxSigned]
    omega
  simp [readBase, spanned, total, some_digit, Nat.not_lt.mp in_range]

/-- Every spelling of an integer is read. -/
theorem IntegerText.read {value : Int} (integer_text : IntegerText value text)
    (follows : Follows rest) :
    readNumber? (text ++ rest) = some (.integer value, rest) := by
  cases integer_text with
  | @decimal negative values sign digits sign_text whole low high =>
      have ends : EndsRun Char.isDigit rest := follows.all (by decide)
      rcases read_front sign_text whole ends with ⟨sign_read, special, spanned, some_digit⟩
      have no_places : readPlaces? rest = none :=
        PlacesText.absent.read ends (follows.all (by decide))
      have no_exponent : readExponent? rest = none :=
        ExponentText.absent.read ends (follows.all (by decide))
      have in_range : -(maxSigned : Int) - 1 ≤ signed negative (valueOf 10 values) ∧
          signed negative (valueOf 10 values) ≤ maxSigned := by
        simp only [maxSigned]
        omega
      rw [List.append_assoc, readNumber?_decimal]
      · simp only [readDecimal?, sign_read, special, spanned, no_places, no_exponent,
          digitsValue_map_digitChar whole.1.small, List.isEmpty_map, List.isEmpty_iff, some_digit,
          if_false]
        exact if_pos in_range
      · apply whole.no_base sign_text
        exact follows.all (by decide)
  | @based mark base values digits listed run high =>
      simp only [List.mem_cons, Prod.mk.injEq, List.not_mem_nil, or_false] at listed
      rcases listed with ⟨rfl, rfl⟩ | ⟨rfl, rfl⟩ | ⟨rfl, rfl⟩ <;>
        simp [readNumber?, run.read_base high follows]

/-- Nothing behind a number belongs to an exponent. -/
theorem ExponentText.ends {exponent : Int} (exponent_text : ExponentText exponent text)
    (follows : Follows rest) :
    EndsRun Char.isDigit (text ++ rest) ∧ ∀ c ∈ (text ++ rest).head?, c ∉ ['.', 'x', 'o', 'b'] := by
  cases exponent_text with
  | absent =>
      exact ⟨follows.all (by decide), follows.all (by decide)⟩
  | present is_mark =>
      constructor
      · rintro _ ⟨rfl⟩
        rcases is_mark with rfl | rfl <;> decide
      · rintro _ ⟨rfl⟩
        rcases is_mark with rfl | rfl <;> decide

theorem ExponentText.read_or_zero {exponent : Int} (exponent_text : ExponentText exponent text)
    (follows : Follows rest) :
    (readExponent? (text ++ rest)).getD (0, text ++ rest) = (exponent, rest) ∧
      (text ≠ [] → readExponent? (text ++ rest) = some (exponent, rest)) := by
  have read := exponent_text.read (follows.all (by decide)) (follows.all (by decide))
  rw [read]
  cases exponent_text with
  | absent => simp
  | present is_mark => simp

theorem SignText.read_special {name shown : String} (sign_text : SignText negative sign)
    (special : readSpecial? negative (name.toList ++ rest) = some (shown, rest))
    (letter : ∀ c ∈ (name.toList ++ rest).head?, c ≠ '-' ∧ c ≠ '+' ∧ c ≠ '0') :
    readNumber? ((sign ++ name.toList) ++ rest) = some (.fraction shown, rest) := by
  rw [List.append_assoc, readNumber?_decimal]
  · have sign_read := sign_text.read fun c mem => ⟨(letter c mem).1, (letter c mem).2.1⟩
    simp only [readDecimal?, sign_read, special]
  · intro c tail same
    cases sign_text with
    | absent => exact absurd rfl (letter _ (by rw [List.nil_append] at same; rw [same]; rfl)).2.2
    | plus => cases same
    | minus => cases same

/-- Every spelling of a fraction is read. -/
theorem FractionText.read {shown : String} (fraction_text : FractionText shown text)
    (follows : Follows rest) :
    readNumber? (text ++ rest) = some (.fraction shown, rest) := by
  cases fraction_text with
  | infinite sign_text => exact sign_text.read_special rfl (by simp)
  | undefined sign_text => exact sign_text.read_special rfl (by simp)
  | @decimal negative whole places exponent shown sign digits fraction power sign_text whole_text
      places_text exponent_text no_integer rounded =>
      rcases exponent_text.ends follows with ⟨power_ends, power_other⟩
      rcases exponent_text.read_or_zero follows with ⟨power_read, power_found⟩
      have no_point : ∀ c ∈ (power ++ rest).head?, c ≠ '.' := by
        rintro c mem rfl
        exact power_other _ mem (by decide)
      have fraction_read := places_text.read power_ends no_point
      simp only [List.append_assoc]
      cases places_text with
      | absent =>
          rcases read_front sign_text whole_text power_ends with
            ⟨sign_read, special, spanned, some_digit⟩
          rw [List.nil_append, readNumber?_decimal]
          · rw [List.nil_append, if_pos rfl] at fraction_read
            simp only [readDecimal?, sign_read, special, spanned, List.isEmpty_map,
              List.isEmpty_iff, some_digit, fraction_read, power_found no_integer]
            simp only [List.append_nil, List.length_nil, Int.ofNat_zero, Int.sub_zero] at rounded
            simp [rounded]
          · apply whole_text.no_base sign_text
            intro c mem listed
            exact power_other c mem (List.mem_cons_of_mem _ listed)
      | @present _ digits_behind run =>
          have fraction_ends :
              EndsRun Char.isDigit ('.' :: (digits_behind ++ (power ++ rest))) := by
            rintro _ ⟨rfl⟩
            decide
          rcases read_front sign_text whole_text fraction_ends with
            ⟨sign_read, special, spanned, some_digit⟩
          rw [List.cons_append, readNumber?_decimal]
          · rw [List.cons_append, if_neg (List.cons_ne_nil _ _)] at fraction_read
            simp only [readDecimal?, sign_read, special, spanned, List.isEmpty_map,
              List.isEmpty_iff, some_digit, fraction_read, power_read, List.length_map]
            rw [List.map_append] at rounded
            simp [rounded]
          · apply whole_text.no_base sign_text
            rintro _ ⟨rfl⟩
            decide

end LedgerBoard.Toml
