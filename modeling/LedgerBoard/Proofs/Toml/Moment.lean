import LedgerBoard.Proofs.Json.Number
import LedgerBoard.Proofs.Toml.Number

/-!
# Moments read back

A date, a time of day or both are read up to what stands behind them, and no number starts like one
of them.
-/

namespace LedgerBoard.Toml

open Json (IsHex)
open Number

variable {c : Char} {count low high value year month day : Nat} {digits text rest : List Char}

theorem readField?_eq_some {found : Nat × List Char}
    (read : readField? count low high text = some found) :
    ∃ digits, digits.length = count ∧ (∀ c ∈ digits, c.isDigit = true) ∧
    text = digits ++ found.2 := by
  rw [readField?] at read
  split at read
  · rename_i holds
    rcases holds with ⟨length, all_digits, -, -⟩
    cases read
    exact ⟨text.take count, length, by simpa using all_digits,
      (List.take_append_drop count text).symm⟩
  · cases read

theorem afterChar?_eq_some {wanted : Char} (found : afterChar? wanted text = some rest) :
    text = wanted :: rest := by
  rw [afterChar?.eq_def] at found
  split at found
  · split at found
    · rename_i same
      cases found
      rw [same]
    · cases found
  · cases found

theorem afterDate?_front (found : afterDate? text = some rest) :
    ∃ digits tail, digits.length = 4 ∧ (∀ c ∈ digits, c.isDigit = true) ∧
    text = digits ++ '-' :: tail := by
  simp only [afterDate?, Option.bind_eq_bind, Option.bind_eq_some_iff] at found
  obtain ⟨year, year_read, behind, separator, -⟩ := found
  obtain ⟨digits, length, all_digits, same⟩ := readField?_eq_some year_read
  exact ⟨digits, behind, length, all_digits, by rw [same, afterChar?_eq_some separator]⟩

theorem afterTime?_front (found : afterTime? text = some rest) :
    ∃ digits tail, digits.length = 2 ∧ (∀ c ∈ digits, c.isDigit = true) ∧
    text = digits ++ ':' :: tail := by
  simp only [afterTime?, Option.bind_eq_bind, Option.bind_eq_some_iff] at found
  obtain ⟨hour, hour_read, behind, separator, -⟩ := found
  obtain ⟨digits, length, all_digits, same⟩ := readField?_eq_some hour_read
  exact ⟨digits, behind, length, all_digits, by rw [same, afterChar?_eq_some separator]⟩

/-- No moment starts without digits that a separator follows. -/
theorem afterMoment?_eq_none
    (no_field : ∀ digits mark tail, digits ≠ [] → (∀ c ∈ digits, c.isDigit = true) →
      mark = '-' ∨ mark = ':' → text ≠ digits ++ mark :: tail) : afterMoment? text = none := by
  have no_date : afterDate? text = none := by
    rw [Option.eq_none_iff_forall_not_mem]
    intro rest found
    obtain ⟨digits, tail, length, all_digits, same⟩ := afterDate?_front found
    exact no_field digits '-' tail (by rintro rfl; cases length) all_digits (.inl rfl) same
  have no_time : afterTime? text = none := by
    rw [Option.eq_none_iff_forall_not_mem]
    intro rest found
    obtain ⟨digits, tail, length, all_digits, same⟩ := afterTime?_front found
    exact no_field digits ':' tail (by rintro rfl; cases length) all_digits (.inr rfl) same
  rw [afterMoment?, no_date]
  exact no_time

/-- A text that starts with something else than a digit starts with no moment. -/
theorem afterMoment?_of_other (other : ∀ c ∈ text.head?, c.isDigit = false) :
    afterMoment? text = none := by
  apply afterMoment?_eq_none
  rintro digits mark tail some_digits all_digits - rfl
  obtain ⟨first, others, rfl⟩ := List.exists_cons_of_ne_nil some_digits
  cases (other first rfl).symm.trans (all_digits first List.mem_cons_self)

/-- Digits and underscores are no moment if no separator follows them. -/
theorem afterMoment?_of_run (run : ∀ c ∈ digits, c.isDigit = true ∨ c = '_')
    (ends : ∀ c ∈ rest.head?, c.isDigit = false ∧ c ≠ '-' ∧ c ≠ ':') :
    afterMoment? (digits ++ rest) = none := by
  apply afterMoment?_eq_none
  intro front mark tail some_digits all_digits is_mark same
  have mark_other : mark.isDigit = false ∧ mark ≠ '_' := by
    rcases is_mark with rfl | rfl <;> decide
  have not_mark : ∀ tail, rest ≠ mark :: tail := by
    rintro tail rfl
    have other := (ends mark rfl).2
    rcases is_mark with rfl | rfl <;> simp at other
  rcases List.append_eq_append_iff.mp same with ⟨more, rfl, behind⟩ | ⟨more, rfl, behind⟩
  · cases more with
    | nil => exact not_mark tail behind
    | cons first others =>
        have no_digit := (ends first (by rw [behind]; rfl)).1
        cases no_digit.symm.trans (all_digits first (List.mem_append_right _ List.mem_cons_self))
  · cases more with
    | nil => exact not_mark tail behind.symm
    | cons first others =>
        rw [List.cons_append, List.cons.injEq] at behind
        have inner := run first (List.mem_append_right _ List.mem_cons_self)
        rw [← behind.1] at inner
        rcases inner with is_digit | rfl
        · cases mark_other.1.symm.trans is_digit
        · exact mark_other.2 rfl

section Numbers

variable {sign : List Char} {negative : Bool} {values : List Nat}

theorem SignText.no_moment (sign_text : SignText negative sign)
    (unsigned : afterMoment? rest = none) :
    afterMoment? (sign ++ rest) = none := by
  cases sign_text with
  | absent => exact unsigned
  | plus => exact afterMoment?_of_other (by simp)
  | minus => exact afterMoment?_of_other (by simp)

theorem Follows.no_moment (follows : Follows rest) :
    ∀ c ∈ rest.head?, c.isDigit = false ∧ c ≠ '-' ∧ c ≠ ':' :=
  follows.all (by decide)

/-- No integer is a moment. -/
theorem IntegerText.no_moment {value : Int} (integer_text : IntegerText value text)
    (follows : Follows rest) :
    afterMoment? (text ++ rest) = none := by
  cases integer_text with
  | decimal sign_text whole =>
      rw [List.append_assoc]
      exact sign_text.no_moment (afterMoment?_of_run whole.1.mem follows.no_moment)
  | based listed =>
      simp only [List.mem_cons, Prod.mk.injEq, List.not_mem_nil, or_false] at listed
      have zero : ∀ c ∈ ['0'], c.isDigit = true ∨ c = '_' := by simp
      apply afterMoment?_of_run zero
      rintro _ ⟨rfl⟩
      rcases listed with ⟨rfl, -⟩ | ⟨rfl, -⟩ | ⟨rfl, -⟩ <;> decide

theorem ExponentText.no_moment {exponent : Int} (exponent_text : ExponentText exponent text)
    (follows : Follows rest) :
    ∀ c ∈ (text ++ rest).head?, c.isDigit = false ∧ c ≠ '-' ∧ c ≠ ':' := by
  cases exponent_text with
  | absent => exact follows.no_moment
  | present is_mark =>
      rintro _ ⟨rfl⟩
      rcases is_mark with rfl | rfl <;> decide

/-- No fraction is a moment. -/
theorem FractionText.no_moment {shown : String} (fraction_text : FractionText shown text)
    (follows : Follows rest) : afterMoment? (text ++ rest) = none := by
  cases fraction_text with
  | infinite sign_text =>
      rw [List.append_assoc]
      exact sign_text.no_moment (afterMoment?_of_other (by simp))
  | undefined sign_text =>
      rw [List.append_assoc]
      exact sign_text.no_moment (afterMoment?_of_other (by simp))
  | decimal sign_text whole places_text exponent_text =>
      simp only [List.append_assoc]
      apply sign_text.no_moment
      apply afterMoment?_of_run whole.1.mem
      cases places_text with
      | absent => exact exponent_text.no_moment follows
      | present run =>
          rintro _ ⟨rfl⟩
          decide

end Numbers

theorem FieldText.read (field : FieldText count low high value text) (rest : List Char) :
    readField? count low high (text ++ rest) = some (value, rest) := by
  rcases field with ⟨values, hex, small, length, same, least, most⟩
  have digits := eq_map_digitChar hex small
  have taken : (text ++ rest).take count = text := by
    rw [← length, List.take_left]
  have left : (text ++ rest).drop count = rest := by
    rw [← length, List.drop_left]
  have total : digitsValue text = value := by
    rw [digits, digitsValue_map_digitChar small, same]
  have all_digits : text.all Char.isDigit = true := by
    rw [digits, List.all_eq_true]
    exact isDigit_of_mem small
  rw [readField?, taken, left, total, if_pos ⟨length, all_digits, least, most⟩]

theorem FieldText.isDigit (field : FieldText count low high value text) :
    ∀ c ∈ text, c.isDigit = true := by
  rcases field with ⟨values, hex, small, -⟩
  rw [eq_map_digitChar hex small]
  exact isDigit_of_mem small

theorem afterChar?_cons (wanted : Char) (rest : List Char) :
    afterChar? wanted (wanted :: rest) = some rest := by
  simp [afterChar?]

theorem DateText.read (date_text : DateText text) (rest : List Char) :
    afterDate? (text ++ rest) = some rest := by
  cases date_text with
  | parts year_text month_text day_text =>
      simp [afterDate?, year_text.read, month_text.read, day_text.read, afterChar?_cons]

/-- A time of day is read up to something else than a digit or a point. -/
theorem TimeText.read (time_text : TimeText text)
    (ends : ∀ c ∈ rest.head?, c.isDigit = false ∧ c ≠ '.') :
    afterTime? (text ++ rest) = some rest := by
  cases time_text with
  | @parts hour minute second first middle last places hour_text minute_text second_text
      places_text =>
      have places_read : afterPlaces (places ++ rest) = rest := by
        rcases places_text with rfl | ⟨digits, rfl, some_digit, all_digits⟩
        · rw [List.nil_append, afterPlaces.eq_def]
          split
          · exact absurd rfl (ends _ rfl).2
          · rfl
        · obtain ⟨c, others, rfl⟩ := List.exists_cons_of_ne_nil some_digit
          rw [List.cons_append, List.cons_append, afterPlaces,
            if_pos (all_digits c List.mem_cons_self)]
          exact Json.dropWhile_digits (fun c mem => all_digits c (List.mem_cons_of_mem _ mem))
            fun c mem => (ends c mem).1
      simp [afterTime?, hour_text.read, minute_text.read, second_text.read, afterChar?_cons,
        places_read]

theorem OffsetText.read (offset_text : OffsetText text) (follows : Follows rest) :
    (afterOffset? (text ++ rest)).getD (text ++ rest) = rest ∧
      ∀ c ∈ (text ++ rest).head?, c.isDigit = false ∧ c ≠ '.' := by
  cases offset_text with
  | zero is_mark => rcases is_mark with rfl | rfl <;> simp [afterOffset?]
  | away is_sign hour_text minute_text =>
      rcases is_sign with rfl | rfl <;>
        simp [afterOffset?, hour_text.read, minute_text.read, afterChar?_cons]
  | absent =>
      rw [List.nil_append]
      constructor
      · have not_found : afterOffset? rest = none := by
          have head := follows.head
          rw [afterOffset?.eq_def]
          split <;> simp at head ⊢
        rw [not_found]
        rfl
      · exact follows.all (by decide)

/-- No time of day is a date. -/
theorem TimeText.no_date (time_text : TimeText text) (rest : List Char) :
    afterDate? (text ++ rest) = none := by
  rw [Option.eq_none_iff_forall_not_mem]
  intro behind found
  obtain ⟨digits, tail, length, all_digits, same⟩ := afterDate?_front found
  cases time_text with
  | @parts hour minute second first middle last places hour_text minute_text second_text
      places_text =>
      have short : first.length = 2 := by
        rcases hour_text with ⟨values, hex, -, length, -⟩
        exact length
      rw [List.append_assoc, List.cons_append] at same
      rcases List.append_eq_append_iff.mp same with ⟨more, rfl, behind⟩ | ⟨more, rfl, -⟩
      · cases more with
        | nil => simp [short] at length
        | cons separator others =>
            rw [List.cons_append, List.cons.injEq] at behind
            rw [← behind.1] at all_digits
            cases all_digits ':' (List.mem_append_right _ List.mem_cons_self)
      · rw [List.length_append, length] at short
        omega

theorem afterTime?_of_other (other : ∀ c ∈ text.head?, c.isDigit = false) :
    afterTime? text = none := by
  rw [Option.eq_none_iff_forall_not_mem]
  intro rest found
  obtain ⟨digits, tail, length, all_digits, rfl⟩ := afterTime?_front found
  cases digits with
  | nil => cases length
  | cons first others => cases (other first rfl).symm.trans (all_digits first List.mem_cons_self)

/-- A blank behind a date does not lead to a time of day, as no digit follows it. -/
theorem DateText.read_alone (date_text : DateText text) (follows : Follows rest) :
    afterMoment? (text ++ rest) = some rest := by
  rw [afterMoment?, date_text.read]
  cases rest with
  | nil => rfl
  | cons c tail =>
      by_cases blank : c = ' '
      · subst blank
        have behind : ∀ c ∈ tail.head?, c.isDigit = false :=
          fun c mem => (follows.tail.no_moment c mem).1
        simp [isTimeMark, afterTime?_of_other behind]
      · have no_mark : isTimeMark c = false := by
          have letter : ∀ first ∈ (c :: tail).head?, first ≠ 'T' ∧ first ≠ 't' :=
            follows.all (by decide)
          simp [isTimeMark, letter c rfl, blank]
        simp [no_mark]

/-- Every spelling of a moment is read. -/
theorem MomentText.read (moment_text : MomentText text) (follows : Follows rest) :
    afterMoment? (text ++ rest) = some rest := by
  cases moment_text with
  | date date_text => exact date_text.read_alone follows
  | time time_text =>
      rw [afterMoment?, time_text.no_date]
      exact time_text.read (OffsetText.absent.read follows).2
  | @both mark date time offset date_text is_mark time_text offset_text =>
      rcases offset_text.read follows with ⟨offset_read, ends⟩
      simp only [List.append_assoc, List.cons_append]
      rw [afterMoment?, date_text.read]
      rcases is_mark with rfl | rfl | rfl <;> simp [isTimeMark, time_text.read ends, offset_read]

end LedgerBoard.Toml
