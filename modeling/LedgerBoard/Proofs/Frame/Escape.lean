import LedgerBoard.Frame.Escape
import LedgerBoard.Proofs.Outcome

/-!
# Escaped headers

An escaped text fits on a header line: it has no character that ends a line or divides a header.
Reading it back gives the text that was escaped. The escaped texts are those that fit on a line and
in which every escape is defined: of all texts that are read as one and the same, exactly one is an
escaped text.
-/

namespace LedgerBoard.Header

/-- A character stands for itself, or a backslash and a mark stand for it. -/
theorem escapeChar_cases (c : Char) :
    (escapeChar c = [c] ∧ c ≠ '\\' ∧ c ≠ '\n' ∧ c ≠ '\r' ∧ c ≠ ':') ∨
      ∃ mark, escapeChar c = ['\\', mark] ∧ unescapeChar? mark = some c := by
  by_cases backslash : c = '\\'
  · exact .inr ⟨'\\', by simp [escapeChar, backslash], by simp [unescapeChar?, backslash]⟩
  by_cases feed : c = '\n'
  · exact .inr ⟨'n', by simp [escapeChar, feed], by simp [unescapeChar?, feed]⟩
  by_cases carriage : c = '\r'
  · exact .inr ⟨'r', by simp [escapeChar, carriage], by simp [unescapeChar?, carriage]⟩
  by_cases colon : c = ':'
  · exact .inr ⟨'c', by simp [escapeChar, colon], by simp [unescapeChar?, colon]⟩
  refine .inl ⟨?_, backslash, feed, carriage, colon⟩
  simp [escapeChar, backslash, feed, carriage, colon]

theorem eq_mark_of_unescapeChar? {mark c : Char} (marks : unescapeChar? mark = some c) :
    mark = '\\' ∨ mark = 'n' ∨ mark = 'r' ∨ mark = 'c' := by
  apply Decidable.byContradiction
  intro other
  simp only [not_or] at other
  simp [unescapeChar?, other] at marks

/-- No character of an escaped text ends a line or divides a header. -/
theorem mem_escapeChars {c : Char} {text : List Char} (mem : c ∈ escapeChars text) :
    c ≠ '\n' ∧ c ≠ '\r' ∧ c ≠ ':' := by
  rcases List.mem_flatMap.mp mem with ⟨source, -, mem⟩
  rcases escapeChar_cases source with ⟨itself, -, solid⟩ | ⟨mark, escaped, marks⟩
  · rw [itself, List.mem_singleton] at mem
    exact mem ▸ solid
  · simp only [escaped, List.mem_cons, List.not_mem_nil, or_false] at mem
    rcases mem with rfl | rfl
    · decide
    · rcases eq_mark_of_unescapeChar? marks with rfl | rfl | rfl | rfl <;> decide

theorem unescapeChars_cons {c : Char} (plain : c ≠ '\\') (rest : List Char) :
    unescapeChars (c :: rest) = (unescapeChars rest).map (c :: ·) := by
  rw [unescapeChars]
  · intro impossible
    exact absurd impossible plain
  · intro next tail impossible
    exact absurd impossible plain

/-- Escaping is undone by reading back. -/
theorem unescapeChars_escapeChars (text : List Char) :
    unescapeChars (escapeChars text) = .ok text := by
  induction text with
  | nil => rfl
  | cons c rest ih =>
      have split : escapeChars (c :: rest) = escapeChar c ++ escapeChars rest := rfl
      rcases escapeChar_cases c with ⟨itself, plain, -⟩ | ⟨mark, escaped, marks⟩
      · rw [split, itself, List.singleton_append, unescapeChars_cons plain, ih]
        rfl
      · simp [split, escaped, unescapeChars, marks, ih, Except.map]

/-- A text that can stand on a header line, before or behind the colon that divides it. -/
def FitsLine (written : List Char) : Prop :=
  ∀ c ∈ written, c ≠ '\n' ∧ c ≠ '\r' ∧ c ≠ ':'

/-- The pieces of a text from the left: two characters at each backslash, and one anywhere else. A
backslash takes the character behind it along, whatever that is, and is a piece of its own where it
comes last. -/
def pieces : List Char → List (List Char)
  | [] => []
  | '\\' :: c :: rest => ['\\', c] :: pieces rest
  | c :: rest => [c] :: pieces rest

/-- Whether a piece stands for no character. -/
def isUndefined : List Char → Bool
  | ['\\'] => true
  | ['\\', c] => c ∉ ['\\', 'n', 'r', 'c']
  | _ => false

variable {c mark : Char} {written rest text : List Char} {cause : FrameError}

theorem pieces_cons (plain : c ≠ '\\') (rest : List Char) :
    pieces (c :: rest) = [c] :: pieces rest := by
  rw [pieces]
  intro next tail impossible
  exact absurd impossible plain

theorem isUndefined_of_plain (plain : c ≠ '\\') : isUndefined [c] = false := by
  rw [isUndefined.eq_def]
  split
  · rename_i same
    exact absurd (List.cons.inj same).1 plain
  · rename_i same
    cases same
  · rfl

theorem isUndefined_escape (c : Char) : isUndefined ['\\', c] = (unescapeChar? c).isNone := by
  simp only [isUndefined, unescapeChar?]
  grind

theorem ne_backslash_of_cases (no_last : c = '\\' → rest = [] → False)
    (no_escape : ∀ mark tail, c = '\\' → rest = mark :: tail → False) : c ≠ '\\' := by
  intro backslash
  cases rest with
  | nil => exact no_last backslash rfl
  | cons mark tail => exact no_escape mark tail backslash rfl

/-- Only one mark stands for a character, so what a mark stands for is escaped with it again. -/
theorem escapeChar_of_unescapeChar? (marks : unescapeChar? mark = some c) :
    escapeChar c = ['\\', mark] := by
  rcases eq_mark_of_unescapeChar? marks with rfl | rfl | rfl | rfl
  all_goals
    cases marks
    rfl

/-- A text that fits on a line is the escaped form of the text that it is read as. Only where a
character is read as itself does it matter that the text fits. -/
theorem escapeChars_of_unescapeChars (read : unescapeChars written = .ok text)
    (fits : FitsLine written) :
    escapeChars text = written := by
  fun_induction unescapeChars written generalizing text with
  | case1 =>
      cases read
      rfl
  | case2 => cases read
  | case3 mark rest c marks ih =>
      rcases Outcome.map_eq_ok_iff.mp read with ⟨others, others_read, rfl⟩
      have others_fit : FitsLine rest :=
        (List.forall_mem_cons.mp (List.forall_mem_cons.mp fits).2).2
      simp only [escapeChars, List.flatMap_cons] at ih ⊢
      rw [escapeChar_of_unescapeChar? marks, ih others_read others_fit]
      rfl
  | case4 => cases read
  | case5 c rest no_last no_escape ih =>
      rcases Outcome.map_eq_ok_iff.mp read with ⟨others, others_read, rfl⟩
      rcases List.forall_mem_cons.mp fits with ⟨⟨feed, carriage, colon⟩, others_fit⟩
      have plain := ne_backslash_of_cases no_last no_escape
      simp only [escapeChars, List.flatMap_cons] at ih ⊢
      rw [ih others_read others_fit]
      simp [escapeChar, plain, feed, carriage, colon]

/-- Reading a text back fails with the first of its pieces that stands for nothing. -/
theorem unescapeChars_eq_error_iff :
    unescapeChars written = .error cause ↔
      ∃ piece, (pieces written).find? isUndefined = some piece ∧
      cause = .invalidEscape (String.ofList piece) := by
  fun_induction unescapeChars written with
  | case1 => simp [pieces]
  | case2 => simp [pieces, isUndefined, eq_comm]
  | case3 mark rest c marks ih =>
      simp [pieces, isUndefined_escape, marks, Outcome.map_eq_error_iff, ih]
  | case4 mark rest unmarked => simp [pieces, isUndefined_escape, unmarked, eq_comm]
  | case5 c rest no_last no_escape ih =>
      have plain := ne_backslash_of_cases no_last no_escape
      simp [pieces_cons plain, isUndefined_of_plain plain, Outcome.map_eq_error_iff, ih]

/-- A text cannot be read if one of its pieces is undefined. -/
theorem unescapeChars_fails_iff :
    (∃ cause, unescapeChars written = .error cause) ↔
    ∃ piece ∈ pieces written, isUndefined piece := by
  simp only [unescapeChars_eq_error_iff]
  rw [exists_comm]
  simp [← Option.isSome_iff_exists, List.find?_isSome]

/-- The escaped forms are the texts that fit on a line and whose pieces all stand for a
character. -/
theorem exists_escapeChars_iff :
    (∃ text, escapeChars text = written) ↔
    FitsLine written ∧ ¬∃ piece ∈ pieces written, isUndefined piece := by
  rw [← unescapeChars_fails_iff]
  constructor
  · rintro ⟨text, rfl⟩
    refine ⟨fun c mem => mem_escapeChars mem, ?_⟩
    rintro ⟨cause, failed⟩
    cases (unescapeChars_escapeChars text).symm.trans failed
  · rintro ⟨fits, readable⟩
    cases outcome : unescapeChars written with
    | ok text => exact ⟨text, escapeChars_of_unescapeChars outcome fits⟩
    | error cause => exact absurd ⟨cause, outcome⟩ readable

theorem escape_eq_iff {text written : String} :
    escape text = written ↔ escapeChars text.toList = written.toList := by
  rw [escape, ← String.toList_inj, String.toList_ofList]

theorem unescape_eq_ok_iff {text written : String} :
    unescape written = .ok text ↔ unescapeChars written.toList = .ok text.toList := by
  rw [unescape, Outcome.map_eq_ok_iff]
  constructor
  · rintro ⟨chars, read, rfl⟩
    rw [read, String.toList_ofList]
  · intro read
    exact ⟨text.toList, read, String.ofList_toList⟩

/-- An escaped text is read as the text that was escaped. -/
theorem unescape_escape (text : String) : unescape (escape text) = .ok text := by
  rw [unescape_eq_ok_iff, escape, String.toList_ofList, unescapeChars_escapeChars]

/-- Escaping is a bijection from all texts onto those that fit on a header line and in which each
backslash, told from the left, starts a defined escape. Reading back is its inverse; it also accepts
other texts, of which none fits on a header line, and refuses exactly those with a backslash that
starts no defined escape. -/
theorem escape_is_bijection_onto_image :
    Function.Injective escape ∧
    (∀ written, (∃ text, escape text = written) ↔
      FitsLine written.toList ∧ ¬∃ piece ∈ pieces written.toList, isUndefined piece) ∧
    (∀ text, FitsLine (escape text).toList ∧ unescape (escape text) = .ok text) ∧
    (∀ written text, unescape written = .ok text →
      (escape text = written ↔ FitsLine written.toList)) ∧
    (∀ written, (∃ cause, unescape written = .error cause) ↔
      ∃ piece ∈ pieces written.toList, isUndefined piece) := by
  have fits (text : String) : FitsLine (escape text).toList := by
    rw [escape, String.toList_ofList]
    exact fun c mem => mem_escapeChars mem
  refine ⟨?_, ?_, ?_, ?_, ?_⟩
  · intro text other same
    have read := unescape_escape text
    rw [same, unescape_escape other] at read
    exact (Except.ok.inj read).symm
  · intro written
    rw [← exists_escapeChars_iff]
    constructor
    · rintro ⟨text, rfl⟩
      exact ⟨text.toList, by rw [escape, String.toList_ofList]⟩
    · rintro ⟨chars, same⟩
      exact ⟨String.ofList chars, by rw [escape_eq_iff, String.toList_ofList, same]⟩
  · intro text
    exact ⟨fits text, unescape_escape text⟩
  · intro written text read
    constructor
    · rintro rfl
      exact fits text
    · intro fits_line
      exact escape_eq_iff.mpr (escapeChars_of_unescapeChars (unescape_eq_ok_iff.mp read) fits_line)
  · intro written
    rw [← unescapeChars_fails_iff]
    simp only [unescape, Outcome.map_eq_error_iff]

/-- Two texts are read as a colon: its escaped form, and the colon itself, which does not fit on a
line. -/
theorem escape_is_bijection_onto_image_at_colon :
    unescape "\\c" = .ok ":" ∧ escape ":" = "\\c" ∧ unescape ":" = .ok ":" ∧ escape ":" ≠ ":" := by
  have escaped_read : unescape "\\c" = .ok ":" := by rfl
  have colon_read : unescape ":" = .ok ":" := by rfl
  have inverse := escape_is_bijection_onto_image.2.2.2.1
  refine ⟨escaped_read, (inverse _ _ escaped_read).mpr ?_, colon_read, ?_⟩
  · simp [FitsLine]
  · intro same
    exact ((inverse _ _ colon_read).mp same ':' (by simp)).2.2 rfl

end LedgerBoard.Header
