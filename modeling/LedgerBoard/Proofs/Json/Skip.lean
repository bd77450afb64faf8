import LedgerBoard.Proofs.Json.Number
import LedgerBoard.Proofs.Json.Text

/-!
# Values skipped

Skipping a value of any depth ends right behind it. The brackets that are open around a value say
how it goes on then, so the law for values is stated for any open brackets, and carried through
items in a row.
-/

namespace LedgerBoard.Json

section Skip

variable {opened outer : List Bracket} {bracket : Bracket} {gap text rest : List Char}

/-- Text whose first part is neither a closing bracket nor missing. -/
def Begins (text : List Char) : Prop :=
  ∀ rest, ∃ c tail, skipSpace (text ++ rest) = c :: tail ∧ c ≠ ']' ∧ c ≠ '\x7d'

theorem begins_of_solid {c : Char} (solid : isSpace c = false) (no_closing : c ≠ ']' ∧ c ≠ '\x7d')
    (tail : List Char) : Begins (c :: tail) :=
  fun rest => ⟨c, tail ++ rest, skipSpace_of_solid solid _, no_closing⟩

theorem begins_of_gap (is_gap : Gap gap) (begins : Begins text) : Begins (gap ++ text) := by
  intro rest
  rw [List.append_assoc, is_gap.skipSpace_append]
  exact begins rest

theorem Begins.append (begins : Begins text) (tail : List Char) : Begins (text ++ tail) := by
  intro rest
  rw [List.append_assoc]
  exact begins (tail ++ rest)

/-- What may come first in a number: none of the characters with which anything else begins or
ends. -/
theorem not_mem_of_mark {c : Char} (mark : c = '-' ∨ c.isDigit = true) :
    c ∉ [' ', '\t', '\n', '\r', ']', '\x7d', '[', '\x7b', '"', 'n', 't', 'f'] := by
  have no_mark : ∀ other ∈ [' ', '\t', '\n', '\r', ']', '\x7d', '[', '\x7b', '"', 'n', 't', 'f'],
      ¬(other = '-' ∨ other.isDigit = true) := forall_mem_of_all (by decide)
  exact fun mem => no_mark c mem mark

theorem NumberText.exists_mark (number : NumberText text) :
    ∃ c tail, text = c :: tail ∧ (c = '-' ∨ c.isDigit = true) := by
  cases number with
  | parts minus_text whole fraction_text exponent_text =>
      rcases minus_text with rfl | rfl
      · rename_i digits _ _
        rcases whole.1 with ⟨some_digits, all_digits⟩
        cases digits with
        | nil => exact absurd rfl some_digits
        | cons first others => exact ⟨first, _, rfl, .inr (all_digits first List.mem_cons_self)⟩
      · exact ⟨'-', _, rfl, .inl rfl⟩

/-- Every part of a payload begins with something that is not a closing bracket. -/
theorem Written.begins {part : Part} (written : Written part text) : Begins text := by
  induction written with
  | word listed =>
      simp only [List.mem_cons, List.not_mem_nil, or_false] at listed
      rcases listed with rfl | rfl | rfl <;> exact begins_of_solid rfl (by decide) _
  | number number_text =>
      rcases number_text.exists_mark with ⟨c, tail, rfl, mark⟩
      have other := not_mem_of_mark mark
      simp only [List.mem_cons, List.not_mem_nil, or_false, not_or] at other
      exact begins_of_solid (by simp [isSpace, other]) ⟨other.2.2.2.2.1, other.2.2.2.2.2.1⟩ tail
  | text text_body => exact begins_of_solid rfl (by decide) _
  | empty bracket is_gap => cases bracket <;> exact begins_of_solid rfl (by decide) _
  | @filled bracket _ _ _ => cases bracket <;> exact begins_of_solid rfl (by decide) _
  | element gap_before element gap_after ih => exact begins_of_gap gap_before (ih.append _)
  | member gap_before name_body gap_between element ih =>
      exact begins_of_gap gap_before (begins_of_solid rfl (by decide) _)
  | last item ih => exact ih
  | more item others ih more_ih => exact ih.append _

/-- A value without parts is skipped, and does not begin with an opening bracket. -/
structure IsScalar (text : List Char) : Prop where
  skip : ∀ {rest : List Char}, Ends rest → skipScalar (text ++ rest) = .ok rest
  first : ∃ c tail, text = c :: tail ∧ isSpace c = false ∧ c ≠ '[' ∧ c ≠ '\x7b'

theorem isScalar_word {word : List Char}
    (listed : word ∈ ["null".toList, "true".toList, "false".toList]) : IsScalar word := by
  simp only [List.mem_cons, List.not_mem_nil, or_false] at listed
  rcases listed with rfl | rfl | rfl
  · exact ⟨fun _ => rfl, ⟨'n', _, rfl, by decide⟩⟩
  · exact ⟨fun _ => rfl, ⟨'t', _, rfl, by decide⟩⟩
  · exact ⟨fun _ => rfl, ⟨'f', _, rfl, by decide⟩⟩

theorem isScalar_number (number : NumberText text) : IsScalar text := by
  rcases number.exists_mark with ⟨c, tail, rfl, mark⟩
  have other := not_mem_of_mark mark
  simp only [List.mem_cons, List.not_mem_nil, or_false, not_or] at other
  refine ⟨?_, c, tail, rfl, by simp [isSpace, other], other.2.2.2.2.2.2.1, other.2.2.2.2.2.2.2.1⟩
  intro rest ends
  rw [List.cons_append, skipScalar.eq_def]
  split
  · contradiction
  · simp_all
  · simp_all
  · simp_all
  · simp_all
  · rename_i same
    cases same
    rw [if_pos mark]
    exact number.skip ends

theorem isScalar_text {body : List Char} (text_body : TextBody body) :
    IsScalar ('"' :: (body ++ ['"'])) := by
  refine ⟨?_, '"', _, rfl, by decide⟩
  intro rest ends
  show skipText (body ++ ['"'] ++ rest) = .ok rest
  rw [List.append_assoc, List.singleton_append]
  exact text_body.skip rest

/-- Skips an item inside open brackets, and then what closes them. -/
def skipItem (bracket : Bracket) (outer : List Bracket) (text : List Char) :
    Except Fault (List Char) :=
  match bracket with
  | .array => skipValue (.array :: outer) text
  | .object => (skipName text).bind (skipValue (.object :: outer))

theorem skipValue_of_scalar (is_gap : Gap gap) (scalar : IsScalar text) (ends : Ends rest) :
    skipValue opened (gap ++ (text ++ rest)) = skipAfter opened rest := by
  rcases scalar.first with ⟨c, tail, rfl, solid, no_bracket⟩
  have start : skipSpace (gap ++ (c :: tail ++ rest)) = c :: (tail ++ rest) := by
    rw [is_gap.skipSpace_append, List.cons_append, skipSpace_of_solid solid]
  have skipped : skipScalar (c :: (tail ++ rest)) = .ok rest := scalar.skip ends
  rw [skipValue, start]
  split
  · rename_i same
    exact absurd (List.cons.inj same).1 no_bracket.1
  · rename_i same
    exact absurd (List.cons.inj same).1 no_bracket.2
  · rw [skipped]

theorem isSpace_opening (bracket : Bracket) : isSpace bracket.opening = false := by
  cases bracket <;> rfl

theorem isSpace_closing (bracket : Bracket) : isSpace bracket.closing = false := by
  cases bracket <;> rfl

theorem ends_closing (bracket : Bracket) (rest : List Char) : Ends (bracket.closing :: rest) :=
  ends_cons (by cases bracket <;> decide)

theorem start_of_bracket (is_gap : Gap gap) (bracket : Bracket) (tail : List Char) :
    skipSpace (gap ++ (bracket.opening :: tail ++ rest)) = bracket.opening :: (tail ++ rest) := by
  rw [is_gap.skipSpace_append, List.cons_append, skipSpace_of_solid (isSpace_opening bracket)]

/-- Brackets that are closed at once are skipped. -/
theorem skipValue_of_closed {inner : List Char} (start : skipSpace text = bracket.opening :: inner)
    (closed : skipSpace inner = bracket.closing :: rest) :
    skipValue opened text = skipAfter opened rest := by
  cases bracket with
  | array =>
      rw [skipValue, start]
      simp only [Bracket.opening]
      rw [closed]
      simp only [Bracket.closing]
  | object =>
      rw [skipValue, start]
      simp only [Bracket.opening]
      rw [closed]
      simp only [Bracket.closing]

/-- Brackets that are not closed at once hold an item. -/
theorem skipValue_of_item {inner : List Char} (start : skipSpace text = bracket.opening :: inner)
    (not_closed : ∀ rest, skipSpace inner ≠ bracket.closing :: rest) :
    skipValue opened text = skipItem bracket opened inner := by
  cases bracket with
  | array =>
      rw [skipValue, start]
      simp only [Bracket.opening]
      split
      · rename_i closed
        exact absurd closed (not_closed _)
      · rfl
  | object =>
      rw [skipValue, start]
      simp only [Bracket.opening]
      split
      · rename_i closed
        exact absurd closed (not_closed _)
      · rw [skipItem]
        cases skipName inner <;> rfl

/-- What follows an item may stand behind a gap. -/
theorem skipAfter_gap (is_gap : Gap gap) (rest : List Char) :
    skipAfter (bracket :: outer) (gap ++ rest) = skipAfter (bracket :: outer) rest := by
  cases bracket with
  | array => rw [skipAfter, skipAfter, is_gap.skipSpace_append]
  | object => rw [skipAfter, skipAfter, is_gap.skipSpace_append]

theorem skipAfter_comma (rest : List Char) :
    skipAfter (bracket :: outer) (',' :: rest) = skipItem bracket outer rest := by
  have comma : skipSpace (',' :: rest) = ',' :: rest := skipSpace_of_solid rfl rest
  cases bracket with
  | array =>
      rw [skipAfter, comma]
      rfl
  | object =>
      rw [skipAfter, comma, skipItem]
      simp only
      cases skipName rest <;> rfl

theorem skipAfter_closing (rest : List Char) :
    skipAfter (bracket :: outer) (bracket.closing :: rest) = skipAfter outer rest := by
  have closing := skipSpace_of_solid (isSpace_closing bracket) rest
  cases bracket with
  | array =>
      rw [skipAfter, closing]
      simp only [Bracket.closing]
  | object =>
      rw [skipAfter, closing]
      simp only [Bracket.closing]

theorem skipName_member {before name between : List Char} (gap_before : Gap before)
    (name_body : TextBody name) (gap_between : Gap between) (rest : List Char) :
    skipName (before ++ '"' :: (name ++ '"' :: (between ++ ':' :: rest))) = .ok rest := by
  have quote : skipSpace (before ++ '"' :: (name ++ '"' :: (between ++ ':' :: rest))) =
      '"' :: (name ++ '"' :: (between ++ ':' :: rest)) := by
    rw [gap_before.skipSpace_append, skipSpace_of_solid rfl]
  have colon : skipSpace (between ++ ':' :: rest) = ':' :: rest := by
    rw [gap_between.skipSpace_append, skipSpace_of_solid rfl]
  rw [skipName, quote]
  simp only
  rw [name_body.skip]
  simp only
  rw [colon]
  rfl

/-- What skipping makes of each part, whatever is open around it. -/
def Skips : Part → List Char → Prop
  | .value, text => ∀ {opened gap rest}, Gap gap → Ends rest →
      skipValue opened (gap ++ (text ++ rest)) = skipAfter opened rest
  | .item .array, text => ∀ {bracket outer rest}, Ends rest →
      skipValue (bracket :: outer) (text ++ rest) = skipAfter (bracket :: outer) rest
  | .item .object, text => ∀ {outer rest}, Ends rest →
      skipItem .object outer (text ++ rest) = skipAfter (.object :: outer) rest
  | .items bracket, text => ∀ {outer rest},
      skipItem bracket outer (text ++ bracket.closing :: rest) = skipAfter outer rest

theorem Skips.item (skips : Skips (.item bracket) text) (ends : Ends rest) :
    skipItem bracket outer (text ++ rest) = skipAfter (bracket :: outer) rest := by
  cases bracket with
  | array => exact skips ends
  | object => exact skips ends

/-- Skipping a value ends right behind it. -/
theorem Written.skips {part : Part} (written : Written part text) : Skips part text := by
  induction written with
  | word listed =>
      intro opened gap rest is_gap ends
      exact skipValue_of_scalar is_gap (isScalar_word listed) ends
  | number number_text =>
      intro opened gap rest is_gap ends
      exact skipValue_of_scalar is_gap (isScalar_number number_text) ends
  | text text_body =>
      intro opened gap rest is_gap ends
      exact skipValue_of_scalar is_gap (isScalar_text text_body) ends
  | @empty inner bracket inner_gap =>
      intro opened gap rest is_gap ends
      refine skipValue_of_closed (start_of_bracket is_gap bracket _) ?_
      rw [List.append_assoc, inner_gap.skipSpace_append]
      exact skipSpace_of_solid (isSpace_closing bracket) rest
  | @filled bracket text items ih =>
      intro opened gap rest is_gap ends
      have not_closed : ∀ behind,
          skipSpace (text ++ [bracket.closing] ++ rest) ≠ bracket.closing :: behind := by
        intro behind closed
        rcases items.begins ([bracket.closing] ++ rest) with ⟨c, tail, begun, no_closing⟩
        rw [List.append_assoc, begun] at closed
        cases bracket with
        | array => exact no_closing.1 (List.cons.inj closed).1
        | object => exact no_closing.2 (List.cons.inj closed).1
      rw [skipValue_of_item (start_of_bracket is_gap bracket _) not_closed, List.append_assoc]
      exact ih
  | @element before value after gap_before element gap_after ih =>
      intro bracket outer rest ends
      rw [List.append_assoc, List.append_assoc, ih gap_before (gap_after.ends ends),
        skipAfter_gap gap_after]
  | @member before name between text gap_before name_body gap_between element ih =>
      intro outer rest ends
      have split : before ++ '"' :: (name ++ '"' :: (between ++ ':' :: text)) ++ rest =
          before ++ '"' :: (name ++ '"' :: (between ++ ':' :: (text ++ rest))) := by simp
      rw [split, skipItem, skipName_member gap_before name_body gap_between]
      exact ih ends
  | last item ih =>
      intro outer rest
      rw [ih.item (ends_closing _ rest), skipAfter_closing]
  | @more bracket text others item more ih more_ih =>
      intro outer rest
      rw [List.append_assoc, List.cons_append, ih.item (ends_comma _), skipAfter_comma]
      exact more_ih

end Skip

end LedgerBoard.Json
