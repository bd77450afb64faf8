import LedgerBoard.Proofs.Toml.Moment
import LedgerBoard.Proofs.Toml.Text

/-!
# What readers leave

What a reader of blanks, of the end of a text, of a number or of a moment leaves is what the text
that it was given ends with.
-/

namespace LedgerBoard.Toml

variable {text rest : List Char}

theorem tail_suffix {whole : List Char} {c : Char} (inside : c :: rest <:+ whole) :
    rest <:+ whole :=
  (List.suffix_cons c rest).trans inside

theorem skipGaps_suffix (text : List Char) : skipGaps text <:+ text :=
  List.dropWhile_suffix _

theorem lineEnd?_suffix (ended : lineEnd? text = some rest) : rest <:+ text := by
  rw [lineEnd?.eq_def] at ended
  split at ended <;> cases ended
  · exact List.suffix_cons _ _
  · exact (List.suffix_cons _ _).trans (List.suffix_cons _ _)

theorem skipComment_suffix (text : List Char) : skipComment text <:+ text := by
  rw [skipComment.eq_def]
  split
  · exact (List.dropWhile_suffix _).trans (List.suffix_cons _ _)
  · exact List.suffix_refl _

theorem skipLines_suffix (text : List Char) : skipLines text <:+ text := by
  fun_induction skipLines text with
  | case1 text rest ended ih =>
      exact ih.trans ((lineEnd?_suffix ended).trans (skipGaps_suffix text))
  | case2 text not_ended => exact skipGaps_suffix text

theorem suffix_of_skipLineRest
    (skipped : skipLineRest text = .ok rest ∨ skipLineRest text = .error rest) :
    rest <:+ text := by
  have start_suffix := (skipComment_suffix (skipGaps text)).trans (skipGaps_suffix text)
  simp only [skipLineRest] at skipped
  split at skipped
  · rename_i after ended
    rcases skipped with skipped | skipped <;> cases skipped
    exact (lineEnd?_suffix ended).trans start_suffix
  · rcases skipped with skipped | skipped <;> cases skipped
    exact List.nil_suffix
  · rcases skipped with skipped | skipped <;> cases skipped
    exact start_suffix

theorem suffix_of_skipSpace (skipped : skipSpace text = .ok rest ∨ skipSpace text = .error rest) :
    rest <:+ text := by
  fun_induction skipSpace text with
  | case1 text after ended ih =>
      exact (ih skipped).trans ((lineEnd?_suffix ended).trans
        ((skipComment_suffix _).trans (skipGaps_suffix text)))
  | case2 text not_ended tail start =>
      rcases skipped with skipped | skipped <;> cases skipped
      exact (skipComment_suffix _).trans (skipGaps_suffix text)
  | case3 text not_ended tail start =>
      rcases skipped with skipped | skipped <;> cases skipped
      exact (skipComment_suffix _).trans (skipGaps_suffix text)
  | case4 text not_ended start other =>
      rcases skipped with skipped | skipped <;> cases skipped
      exact skipGaps_suffix text

theorem afterMarks?_suffix {mark : Char} {count : Nat}
    (found : afterMarks? mark count text = some rest) :
    rest <:+ text :=
  ⟨_, (afterMarks?_eq_some_iff.mp found).symm⟩

theorem closing?_suffix {mark : Char} {marks : List Char}
    (found : closing? mark text = some (marks, rest)) :
    rest <:+ text := by
  rw [closing?] at found
  split at found
  · rename_i after_marks
    cases found
    exact afterMarks?_suffix after_marks
  · rename_i after_marks
    cases found
    exact afterMarks?_suffix after_marks
  · rename_i after_marks
    cases found
    exact afterMarks?_suffix after_marks
  · cases found

theorem afterEscapedLine?_suffix (found : afterEscapedLine? text = some rest) : rest <:+ text := by
  obtain ⟨line, ended, rfl⟩ := Option.map_eq_some_iff.mp found
  exact (skipLines_suffix line).trans ((lineEnd?_suffix ended).trans (skipGaps_suffix text))

theorem spanDigits_suffix (digit : Char → Bool) (text : List Char) :
    (spanDigits digit text).2 <:+ text := by
  fun_induction spanDigits digit text with
  | case1 c rest is_digit ih => exact ih.trans ((List.suffix_cons _ _).trans (List.suffix_cons _ _))
  | case2 c rest no_digit => exact List.suffix_refl _
  | case3 c rest other is_digit ih => exact ih.trans (List.suffix_cons _ _)
  | case4 c rest other no_digit => exact List.suffix_refl _
  | case5 => exact List.suffix_refl _

theorem spanRun_suffix (digit : Char → Bool) (text : List Char) :
    (spanRun digit text).2 <:+ text := by
  rw [spanRun.eq_def]
  split
  · exact List.suffix_refl _
  · exact spanDigits_suffix digit text

theorem readSign_suffix (text : List Char) : (readSign text).2 <:+ text := by
  rw [readSign.eq_def]
  split
  · exact List.suffix_cons _ _
  · exact List.suffix_cons _ _
  · exact List.suffix_refl _

theorem spanWhole_suffix (text : List Char) : (spanWhole text).2 <:+ text := by
  rw [spanWhole.eq_def]
  split
  · exact List.suffix_cons _ _
  · exact spanRun_suffix _ _

theorem readExponent?_suffix {exponent : Int} (read : readExponent? text = some (exponent, rest)) :
    rest <:+ text := by
  rw [readExponent?.eq_def] at read
  split at read
  · rename_i c tail
    simp only at read
    split at read
    · split at read
      · cases read
      · cases read
        exact (spanRun_suffix _ _).trans ((readSign_suffix tail).trans (List.suffix_cons _ _))
    · cases read
  · cases read

theorem readPlaces?_suffix {digits : List Char} (read : readPlaces? text = some (digits, rest)) :
    rest <:+ text := by
  rw [readPlaces?.eq_def] at read
  split at read
  · simp only at read
    split at read
    · cases read
    · cases read
      exact (spanRun_suffix _ _).trans (List.suffix_cons _ _)
  · cases read

theorem readBase_suffix {base : Nat} {value : Int}
    (read : readBase base text = some (value, rest)) :
    rest <:+ text := by
  simp only [readBase] at read
  split at read
  · cases read
  · cases read
    exact spanRun_suffix _ _

theorem readSpecial?_suffix {negative : Bool} {written : String}
    (read : readSpecial? negative text = some (written, rest)) : rest <:+ text := by
  rw [readSpecial?.eq_def] at read
  split at read
  · cases read
    exact ⟨['i', 'n', 'f'], rfl⟩
  · cases read
    exact ⟨['n', 'a', 'n'], rfl⟩
  · cases read

theorem getD_readExponent?_suffix (text : List Char) :
    ((readExponent? text).getD (0, text)).2 <:+ text := by
  cases read : readExponent? text with
  | none => exact List.suffix_refl _
  | some found => exact readExponent?_suffix read

theorem readDecimal?_suffix {numeral : Numeral} (read : readDecimal? text = some (numeral, rest)) :
    rest <:+ text := by
  have start := readSign_suffix text
  simp only [readDecimal?] at read
  split at read
  · rename_i special
    cases read
    exact (readSpecial?_suffix special).trans start
  · split at read
    · cases read
    · have whole := (spanWhole_suffix (readSign text).2).trans start
      split at read
      · rename_i behind places
        obtain ⟨written, -, same⟩ := Option.map_eq_some_iff.mp read
        cases same
        exact (getD_readExponent?_suffix behind).trans ((readPlaces?_suffix places).trans whole)
      · rename_i exponent
        obtain ⟨written, -, same⟩ := Option.map_eq_some_iff.mp read
        cases same
        exact (readExponent?_suffix exponent).trans whole
      · rw [Option.ite_none_right_eq_some] at read
        cases read.2
        exact whole

theorem readNumber?_suffix {numeral : Numeral} (read : readNumber? text = some (numeral, rest)) :
    rest <:+ text := by
  have of_base {base : Nat} {mark : Char} {value : Int} {tail behind : List Char}
      (read : readBase base tail = some (value, behind)) : behind <:+ '0' :: mark :: tail :=
    (readBase_suffix read).trans ((List.suffix_cons _ _).trans (List.suffix_cons _ _))
  rw [readNumber?.eq_def] at read
  split at read
  case h_4 => exact readDecimal?_suffix read
  all_goals
    obtain ⟨⟨value, behind⟩, digits_read, same⟩ := Option.map_eq_some_iff.mp read
    cases same
    exact of_base digits_read

theorem readField?_suffix {count low high value : Nat}
    (read : readField? count low high text = some (value, rest)) :
    rest <:+ text := by
  obtain ⟨digits, -, -, split⟩ := readField?_eq_some read
  exact ⟨digits, split.symm⟩

theorem afterChar?_suffix {mark : Char} (found : afterChar? mark text = some rest) :
    rest <:+ text :=
  ⟨[mark], (afterChar?_eq_some found).symm⟩

/-- A mark and a field behind it. -/
theorem markedField_suffix {mark : Char} {count low high value : Nat} {behind : List Char}
    (marked : afterChar? mark text = some behind)
    (read : readField? count low high behind = some (value, rest)) :
    rest <:+ text :=
  (readField?_suffix read).trans (afterChar?_suffix marked)

theorem afterDate?_suffix (found : afterDate? text = some rest) : rest <:+ text := by
  simp only [afterDate?, Option.bind_eq_bind, Option.bind_eq_some_iff, Option.pure_def, Prod.exists]
    at found
  obtain ⟨year, after_year, year_read, behind, first_mark, month, after_month, month_read, tail,
    second_mark, day, after_day, day_read, same⟩ := found
  cases same
  exact (markedField_suffix second_mark day_read).trans
    ((markedField_suffix first_mark month_read).trans (readField?_suffix year_read))

theorem afterPlaces_suffix (text : List Char) : afterPlaces text <:+ text := by
  rw [afterPlaces.eq_def]
  split
  · split
    · exact (List.dropWhile_suffix _).trans ((List.suffix_cons _ _).trans (List.suffix_cons _ _))
    · exact List.suffix_refl _
  · exact List.suffix_refl _

theorem afterTime?_suffix (found : afterTime? text = some rest) : rest <:+ text := by
  simp only [afterTime?, Option.bind_eq_bind, Option.bind_eq_some_iff, Option.pure_def, Prod.exists]
    at found
  obtain ⟨hour, after_hour, hour_read, behind, first_mark, minute, after_minute, minute_read, tail,
    second_mark, second, after_second, second_read, same⟩ := found
  cases same
  exact (afterPlaces_suffix _).trans ((markedField_suffix second_mark second_read).trans
    ((markedField_suffix first_mark minute_read).trans (readField?_suffix hour_read)))

theorem afterOffset?_suffix (found : afterOffset? text = some rest) : rest <:+ text := by
  rw [afterOffset?.eq_def] at found
  split at found
  case h_3 | h_4 =>
    simp only [Option.bind_eq_bind, Option.bind_eq_some_iff, Option.pure_def, Prod.exists] at found
    obtain ⟨hour, after_hour, hour_read, behind, mark, minute, after_minute, minute_read, same⟩ :=
      found
    cases same
    exact (markedField_suffix mark minute_read).trans
      ((readField?_suffix hour_read).trans (List.suffix_cons _ _))
  case h_5 => cases found
  all_goals
    cases found
    exact List.suffix_cons _ _

theorem afterMoment?_suffix (found : afterMoment? text = some rest) : rest <:+ text := by
  rw [afterMoment?] at found
  split at found
  · exact afterTime?_suffix found
  · rename_i after_date date
    refine List.IsSuffix.trans ?_ (afterDate?_suffix date)
    split at found
    · rename_i c tail
      split at found
      · split at found
        · rename_i after_time time
          cases found
          refine List.IsSuffix.trans ?_ ((afterTime?_suffix time).trans (List.suffix_cons _ _))
          cases offset : afterOffset? after_time with
          | none => exact List.suffix_refl _
          | some behind => exact afterOffset?_suffix offset
        · cases found
          exact List.suffix_refl _
      · cases found
        exact List.suffix_refl _
    · cases found
      exact List.suffix_refl _

end LedgerBoard.Toml
