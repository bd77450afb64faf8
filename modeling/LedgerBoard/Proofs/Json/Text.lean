import LedgerBoard.Proofs.Json.Grammar
import LedgerBoard.Proofs.Outcome

/-!
# Texts read back

Skipping finds the end of every well-formed text, whatever its escapes stand for. Reading accepts
exactly the spellings, and gives the text that is spelled.
-/

namespace LedgerBoard.Json

theorem hexValue?_eq (c : Char) : Number.hexValue? c = hexDigits.idxOf? c.toLower := by
  by_cases small : c.toNat < 128
  · have same : ∀ code : Fin 128,
        Number.hexValue? (Char.ofNat code) = hexDigits.idxOf? (Char.ofNat code).toLower := by
      decide +kernel
    simpa using same ⟨c.toNat, small⟩
  · have none_found : Number.hexValue? c = none := by
      simp only [Number.hexValue?]
      rw [if_neg (by omega), if_neg (by omega), if_neg (by omega)]
    have unchanged : c.toLower = c := by
      refine dif_neg fun upper => ?_
      have code_le := UInt32.le_iff_toNat_le.mp upper.2
      exact small (Nat.lt_of_le_of_lt code_le (by decide))
    have digits_small : ∀ digit ∈ hexDigits, digit.toNat < 128 := forall_mem_of_all (by decide)
    rw [none_found, unchanged, eq_comm, List.idxOf?_eq_none_iff]
    exact fun mem => small (digits_small c mem)

theorem hexValue?_eq_some_iff {c : Char} {value : Nat} :
    Number.hexValue? c = some value ↔ IsHex c value := by
  rw [hexValue?_eq, IsHex]

theorem IsHex.lt {c : Char} {value : Nat} (is_hex : IsHex c value) : value < 16 := by
  have bounded := List.findIdx?_eq_some_iff_getElem.mp is_hex
  exact bounded.1

theorem CodeUnit.lt {digits : List Char} {code : Nat} (unit : CodeUnit digits code) :
    code < 0x10000 := by
  cases unit with
  | digits first second third fourth =>
      have := first.lt
      have := second.lt
      have := third.lt
      have := fourth.lt
      omega

theorem four_le_octets (a b c d : Char) (rest : List Char) :
    4 ≤ Text.octets (a :: b :: c :: d :: rest) := by
  have := a.utf8Size_pos
  have := b.utf8Size_pos
  have := c.utf8Size_pos
  have := d.utf8Size_pos
  simp only [Text.octets]
  omega

theorem readUnit_eq_ok_iff {text rest : List Char} {code : Nat} :
    readUnit text = .ok (code, rest) ↔ ∃ digits, text = digits ++ rest ∧ CodeUnit digits code := by
  constructor
  · intro read
    rw [readUnit.eq_def] at read
    split at read
    · cases read
    · split at read
      · rename_i first second third fourth tail _
        split at read
        · rename_i a b c d first_value second_value third_value fourth_value
          cases read
          exact ⟨[first, second, third, fourth], rfl, .digits (hexValue?_eq_some_iff.mp first_value)
            (hexValue?_eq_some_iff.mp second_value) (hexValue?_eq_some_iff.mp third_value)
            (hexValue?_eq_some_iff.mp fourth_value)⟩
        · cases read
      · cases read
  · rintro ⟨digits, rfl, unit⟩
    cases unit with
    | digits first second third fourth =>
        rw [readUnit.eq_def]
        simp only [List.cons_append, List.nil_append]
        rw [if_neg (Nat.not_lt.mpr (four_le_octets ..)), hexValue?_eq_some_iff.mpr first,
          hexValue?_eq_some_iff.mpr second, hexValue?_eq_some_iff.mpr third,
          hexValue?_eq_some_iff.mpr fourth]

theorem shortEscape?_eq_some_iff {mark plain : Char} :
    shortEscape? mark = some plain ↔ (mark, plain) ∈ shortEscapes := by
  constructor
  · intro found
    rw [shortEscape?] at found
    repeat' split at found
    all_goals cases found
    all_goals
      subst_vars
      decide
  · intro listed
    have all_found : ∀ pair ∈ shortEscapes, shortEscape? pair.1 = some pair.2 := by decide
    exact all_found _ listed

theorem ne_u_of_listed {mark plain : Char} (listed : (mark, plain) ∈ shortEscapes) :
    mark ≠ 'u' := by
  have all_other : ∀ pair ∈ shortEscapes, pair.1 ≠ 'u' := by decide
  exact all_other _ listed

/-- What may follow a backslash is skipped, whatever it stands for. -/
theorem EscapeText.skip {mark : List Char} (escape : EscapeText mark) (rest : List Char) :
    skipEscape (mark ++ rest) = .ok rest := by
  cases escape with
  | short listed =>
      rename_i mark plain
      rw [List.singleton_append, skipEscape.eq_def]
      split
      · contradiction
      · rename_i same
        exact absurd (List.cons.inj same).1 (ne_u_of_listed listed)
      · rename_i same
        cases same
        rw [shortEscape?_eq_some_iff.mpr listed]
        rfl
  | unit code_unit =>
      rw [List.cons_append, skipEscape.eq_def]
      simp only [readUnit_eq_ok_iff.mpr ⟨_, rfl, code_unit⟩, Except.map]

theorem skipText_of_plain {c : Char} (is_plain : IsPlain c) (rest : List Char) :
    skipText (c :: rest) = skipText rest := by
  rw [skipText.eq_def]
  split
  · contradiction
  · rename_i same
    exact absurd (List.cons.inj same).1 is_plain.1
  · rename_i same
    exact absurd (List.cons.inj same).1 is_plain.2.1
  · rename_i same
    cases same
    have no_control : isControl c = false := decide_eq_false (Nat.not_lt.mpr is_plain.2.2)
    rw [no_control, if_neg Bool.false_ne_true]

theorem skipText_of_escape {mark : List Char} (escape : EscapeText mark) (rest : List Char) :
    skipText ('\\' :: (mark ++ rest)) = skipText rest := by
  rw [skipText.eq_def]
  simp only
  split
  · rename_i failed
    rw [escape.skip] at failed
    cases failed
  · rename_i skipped
    rw [escape.skip] at skipped
    cases skipped
    rfl

/-- Skipping finds the quote behind a text. -/
theorem TextBody.skip {body : List Char} (text_body : TextBody body) (rest : List Char) :
    skipText (body ++ '"' :: rest) = .ok rest := by
  induction text_body with
  | done =>
      rw [List.nil_append, skipText.eq_def]
      rfl
  | plain is_plain others ih =>
      rw [List.cons_append, skipText_of_plain is_plain]
      exact ih
  | escaped escape others ih =>
      rw [List.cons_append, List.append_assoc, skipText_of_escape escape]
      exact ih

theorem toNat_char (c : Char) : c.toNat < 0xD800 ∨ 0xDFFF < c.toNat := by
  rcases c.valid with low | ⟨high, -⟩
  · exact .inl low
  · exact .inr high

theorem toNat_ofNat_of_valid {code : Nat} (valid : code < 0xD800 ∨ 0xDFFF < code)
    (small : code < 0x110000) :
    (Char.ofNat code).toNat = code := by
  have is_char : code.isValidChar := valid.imp id fun high => ⟨high, small⟩
  rw [Char.ofNat, dif_pos is_char]
  rfl

theorem readLongEscape_of_unit {c : Char} {digits : List Char} (unit : CodeUnit digits c.toNat)
    (rest : List Char) : readLongEscape (digits ++ rest) = .ok (c, rest) := by
  rw [readLongEscape, readUnit_eq_ok_iff.mpr ⟨_, rfl, unit⟩]
  simp only
  rw [if_pos (toNat_char c), Char.ofNat_toNat]

theorem readLongEscape_of_pair {c : Char} {high low : List Char} {first second : Nat}
    (high_unit : CodeUnit high (0xD800 + first)) (low_unit : CodeUnit low (0xDC00 + second))
    (high_small : first < 0x400) (low_small : second < 0x400)
    (code : c.toNat = 0x10000 + first * 0x400 + second) (rest : List Char) :
    readLongEscape (high ++ '\\' :: 'u' :: (low ++ rest)) = .ok (c, rest) := by
  rw [readLongEscape, readUnit_eq_ok_iff.mpr ⟨_, rfl, high_unit⟩]
  simp only
  rw [if_neg (by omega), if_neg (by omega), readUnit_eq_ok_iff.mpr ⟨_, rfl, low_unit⟩]
  simp only
  have joined :
      (0xD800 + first - 0xD800) * 1024 + (0xDC00 + second - 0xDC00) + 0x10000 = c.toNat := by omega
  rw [if_pos (by omega), joinSurrogates, joined, Char.ofNat_toNat]

theorem escapeOf_of_readLongEscape {text rest : List Char} {c : Char}
    (read : readLongEscape text = .ok (c, rest)) :
    ∃ mark, 'u' :: text = mark ++ rest ∧ EscapeOf c mark := by
  rw [readLongEscape] at read
  split at read
  · cases read
  · rename_i first after first_read
    rcases readUnit_eq_ok_iff.mp first_read with ⟨digits, rfl, unit⟩
    have small := unit.lt
    split at read
    · rename_i valid
      cases read
      refine ⟨'u' :: digits, rfl, .unit ?_⟩
      rwa [toNat_ofNat_of_valid (by omega) (by omega)]
    · split at read
      · cases read
      · split at read
        · rename_i tail
          split at read
          · cases read
          · rename_i second last second_read
            rcases readUnit_eq_ok_iff.mp second_read with ⟨low, rfl, low_unit⟩
            split at read
            · rename_i no_unit high_only low_range
              simp only [Except.ok.injEq, Prod.mk.injEq] at read
              rcases read with ⟨rfl, rfl⟩
              refine ⟨'u' :: (digits ++ '\\' :: 'u' :: low), by simp, ?_⟩
              have first_split : 0xD800 + (first - 0xD800) = first := by omega
              have second_split : 0xDC00 + (second - 0xDC00) = second := by omega
              refine .pair (first_split.symm ▸ unit) (second_split.symm ▸ low_unit) (by omega)
                (by omega) ?_
              have joined : (joinSurrogates first second).toNat =
                  (first - 0xD800) * 1024 + (second - 0xDC00) + 0x10000 :=
                toNat_ofNat_of_valid (by omega) (by omega)
              rw [joined]
              omega
            · cases read
        all_goals cases read

/-- An escape is read exactly where it spells a character. -/
theorem readEscape_eq_ok_iff {text rest : List Char} {c : Char} :
    readEscape text = .ok (c, rest) ↔ ∃ mark, text = mark ++ rest ∧ EscapeOf c mark := by
  constructor
  · intro read
    rw [readEscape.eq_def] at read
    split at read
    · cases read
    · exact escapeOf_of_readLongEscape read
    · rename_i mark tail no_unit
      split at read
      · rename_i plain found
        cases read
        exact ⟨[mark], rfl, .short (shortEscape?_eq_some_iff.mp found)⟩
      · cases read
  · rintro ⟨mark, rfl, escape⟩
    cases escape with
    | short listed =>
        rename_i mark
        rw [List.singleton_append, readEscape.eq_def]
        split
        · contradiction
        · rename_i same
          exact absurd (List.cons.inj same).1 (ne_u_of_listed listed)
        · rename_i same
          cases same
          rw [shortEscape?_eq_some_iff.mpr listed]
    | unit code_unit =>
        rw [List.cons_append, readEscape.eq_def]
        exact readLongEscape_of_unit code_unit rest
    | pair high_unit low_unit high_small low_small code =>
        rw [List.cons_append, List.append_assoc, List.cons_append, List.cons_append,
          readEscape.eq_def]
        exact readLongEscape_of_pair high_unit low_unit high_small low_small code rest

theorem readText_of_plain {c : Char} (is_plain : IsPlain c) (rest : List Char) :
    readText (c :: rest) = (readText rest).map fun (found, rest) => (c :: found, rest) := by
  rw [readText.eq_def]
  split
  · contradiction
  · rename_i same
    exact absurd (List.cons.inj same).1 is_plain.1
  · rename_i same
    exact absurd (List.cons.inj same).1 is_plain.2.1
  · rename_i same
    cases same
    have no_control : isControl c = false := decide_eq_false (Nat.not_lt.mpr is_plain.2.2)
    rw [no_control, if_neg Bool.false_ne_true]

theorem readText_of_escape {c : Char} {mark : List Char} (escape : EscapeOf c mark)
    (rest : List Char) :
    readText ('\\' :: (mark ++ rest)) =
      (readText rest).map fun (found, rest) => (c :: found, rest) := by
  have escape_read : readEscape (mark ++ rest) = .ok (c, rest) :=
    readEscape_eq_ok_iff.mpr ⟨mark, rfl, escape⟩
  rw [readText.eq_def]
  simp only
  split
  · rename_i failed
    rw [escape_read] at failed
    cases failed
  · rename_i found
    rw [escape_read] at found
    cases found
    rfl

/-- Every spelling of a text is read as that text. -/
theorem Spelling.read {text written : List Char} (spelling : Spelling text written)
    (rest : List Char) :
    readText (written ++ '"' :: rest) = .ok (text, rest) := by
  induction spelling with
  | done =>
      rw [List.nil_append, readText.eq_def]
      rfl
  | plain is_plain others ih =>
      rw [List.cons_append, readText_of_plain is_plain, ih]
      rfl
  | escaped escape others ih =>
      rw [List.cons_append, List.append_assoc, readText_of_escape escape, ih]
      rfl

/-- Only spellings are read. -/
theorem spelling_of_readText {input text rest : List Char}
    (read : readText input = .ok (text, rest)) :
    ∃ written, input = written ++ '"' :: rest ∧ Spelling text written := by
  fun_induction readText input generalizing text with
  | case1 => cases read
  | case2 tail =>
      cases read
      exact ⟨[], rfl, .done⟩
  | case3 => cases read
  | case4 tail c after escape_read ih =>
      rcases readEscape_eq_ok_iff.mp escape_read with ⟨mark, rfl, escape⟩
      rcases Outcome.map_eq_ok_iff.mp read with ⟨⟨more, last⟩, inner, same⟩
      cases same
      rcases ih inner with ⟨written, rfl, spelling⟩
      exact ⟨'\\' :: (mark ++ written), by simp, .escaped escape spelling⟩
  | case5 => cases read
  | case6 c tail no_quote no_escape no_control ih =>
      rcases Outcome.map_eq_ok_iff.mp read with ⟨⟨more, last⟩, inner, same⟩
      cases same
      rcases ih inner with ⟨written, rfl, spelling⟩
      have printable : 0x20 ≤ c.toNat :=
        Nat.not_lt.mp fun control => no_control (decide_eq_true control)
      exact ⟨c :: written, rfl, .plain ⟨no_quote, no_escape, printable⟩ spelling⟩

/-- Two bodies of texts that stand before a quote are the same. -/
theorem TextBody.eq_of_append {first second rest last : List Char} (first_body : TextBody first)
    (second_body : TextBody second) (same : first ++ '"' :: rest = second ++ '"' :: last) :
    first = second ∧ rest = last := by
  have skipped := first_body.skip rest
  rw [same, second_body.skip] at skipped
  cases skipped
  exact ⟨List.append_cancel_right same, rfl⟩

/-- What spells a text can stand between quotes. The two units of a pair are two escapes in a
row. -/
theorem Spelling.body {text written : List Char} (spelling : Spelling text written) :
    TextBody written := by
  induction spelling with
  | done => exact .done
  | plain is_plain others ih => exact .plain is_plain ih
  | escaped escape others ih =>
      cases escape with
      | short listed => exact .escaped (.short listed) ih
      | unit code_unit => exact .escaped (.unit code_unit) ih
      | pair high_unit low_unit high_small low_small code =>
          rename_i written high low first second
          have split : '\\' :: ('u' :: (high ++ '\\' :: 'u' :: low) ++ written) =
              '\\' :: ('u' :: high ++ '\\' :: ('u' :: low ++ written)) := by simp
          rw [split]
          exact .escaped (.unit high_unit) (.escaped (.unit low_unit) ih)

/-- What stands between quotes is read exactly if it spells a text. -/
theorem TextBody.read_eq_ok_iff {body text rest last : List Char} (text_body : TextBody body) :
    readText (body ++ '"' :: rest) = .ok (text, last) ↔ last = rest ∧ Spelling text body := by
  constructor
  · intro read
    rcases spelling_of_readText read with ⟨written, split, spelling⟩
    rcases text_body.eq_of_append spelling.body split with ⟨rfl, rfl⟩
    exact ⟨rfl, spelling⟩
  · rintro ⟨rfl, spelling⟩
    exact spelling.read last

/-- A text of characters that stand for themselves spells itself. -/
theorem spelling_self {text : List Char} (all_plain : ∀ c ∈ text, IsPlain c) :
    Spelling text text := by
  induction text with
  | nil => exact .done
  | cons c text ih =>
      rw [List.forall_mem_cons] at all_plain
      exact .plain all_plain.1 (ih all_plain.2)

end LedgerBoard.Json
