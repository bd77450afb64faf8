import LedgerBoard.Proofs.Json.Members

/-!
# Elements read back

The elements of an array are the values of the fields in the order of their declaration. They may
run out early; what they leave out is absent.
-/

namespace LedgerBoard.Json

/-- Values that write the fields of a record in order, up to a point from which on all fields are
absent. -/
inductive WritesInOrder (schema : Schema) : Fields → List (List Char) → Prop where
  | cut {record : Fields} (absent : ∀ entry ∈ record, entry.2 = none) :
      WritesInOrder schema record []
  | field {name : String} {kind : Kind} {value : Option Scalar} {record : Fields} {text : List Char}
      {values : List (List Char)} (known : schema.kind? name = some kind)
      (holds : Holds schema name kind value text) (others : WritesInOrder schema record values) :
      WritesInOrder schema ((name, value) :: record) (text :: values)

section Elements

variable {schema : Schema} {name : String} {kind : Kind} {value : Option Scalar} {record : Fields}
  {declared : List (String × Kind)} {values : List (List Char)}
  {gap written text tail rest : List Char} {first : Bool}

/-- Values begin with something that is neither a gap nor the end of an array. -/
theorem Written.beginsWith (is_value : Written .value text) : BeginsWith (· ≠ ']') text := by
  have solid : BeginsWith (fun _ => True) text := by
    rcases is_value.number_or_other with number | ⟨c, tail, rfl, solid, -⟩
    · rcases number.begins with ⟨c, tail, rfl, solid, -⟩
      exact ⟨c, tail, rfl, solid, trivial⟩
    · exact ⟨c, tail, rfl, solid, trivial⟩
  rcases solid with ⟨c, tail, rfl, solid, -⟩
  rcases is_value.begins [] with ⟨other, behind, begun, no_closing, -⟩
  rw [List.append_nil, skipSpace_of_solid solid] at begun
  cases begun
  exact ⟨c, tail, rfl, solid, no_closing⟩

theorem nextElement?_gap (is_gap : Gap gap) :
    nextElement? first (gap ++ text) = nextElement? first text := by
  rw [nextElement?.eq_def, nextElement?.eq_def, is_gap.skipSpace_append]

theorem nextElement?_closing : nextElement? first (']' :: rest) = .ok none := by
  have closing : skipSpace (']' :: rest) = ']' :: rest := skipSpace_of_solid rfl rest
  cases first with
  | true =>
      rw [nextElement?.eq_def, closing]
      rfl
  | false =>
      rw [nextElement?.eq_def, closing]
      rfl

theorem nextElement?_value (is_gap : Gap gap) (begins : BeginsWith (· ≠ ']') text) :
    nextElement? first (separator first ++ (gap ++ (text ++ rest))) =
      .ok (some (text ++ rest)) := by
  rcases begins with ⟨c, tail, rfl, solid, no_closing⟩
  have start : skipSpace (gap ++ (c :: tail ++ rest)) = c :: (tail ++ rest) := by
    rw [is_gap.skipSpace_append, List.cons_append, skipSpace_of_solid solid]
  cases first with
  | true =>
      show nextElement? true (gap ++ (c :: tail ++ rest)) = _
      rw [nextElement?.eq_def, start]
      simp [no_closing]
  | false =>
      show nextElement? false (',' :: (gap ++ (c :: tail ++ rest))) = _
      have comma :
          skipSpace (',' :: (gap ++ (c :: tail ++ rest))) = ',' :: (gap ++ (c :: tail ++ rest)) :=
        skipSpace_of_solid rfl _
      rw [nextElement?.eq_def, comma]
      simp only
      rw [start]
      simp [no_closing]

theorem readElements_closing (is_gap : Gap gap) :
    readElements schema first declared (gap ++ ']' :: rest) = .ok ([], gap ++ ']' :: rest) := by
  cases declared with
  | nil => rfl
  | cons entry declared =>
      rw [readElements, nextElement?_gap is_gap, nextElement?_closing]
      rfl

/-- An element gives its field, and reading goes on after it. -/
theorem ElementText.readElements_eq (element : ElementText text written) (is_gap : Gap gap)
    (ends : Ends rest) (holds : Holds schema name kind value text) (declared : List (String × Kind))
    (first : Bool) :
    ∃ after, Gap after ∧
      readElements schema first ((name, kind) :: declared)
        (gap ++ (separator first ++ (written ++ rest))) =
        (readElements schema false declared (after ++ rest)).map
          fun (found, behind) => ((name, value) :: found, behind) := by
  cases element with
  | @parts before after gap_before is_value gap_after =>
      refine ⟨after, gap_after, ?_⟩
      have read :
          readField schema name kind (text ++ (after ++ rest)) = .ok (value, after ++ rest) :=
        (readField_eq_ok_iff .nil is_value (gap_after.ends ends)).mpr ⟨rfl, holds⟩
      rw [List.append_assoc, List.append_assoc, readElements, nextElement?_gap is_gap,
        nextElement?_value gap_before is_value.beginsWith]
      show (readField schema name kind (text ++ (after ++ rest))).bind _ = _
      rw [read]
      show (readElements schema false declared (after ++ rest)).bind _ = _
      cases readElements schema false declared (after ++ rest) with
      | error cause => rfl
      | ok pair => rfl

/-- The first of some values writes the first field. -/
theorem WritesInOrder.cases_cons (writes : WritesInOrder schema record (text :: values))
    (named : declared.map Prod.fst = record.map Prod.fst)
    (kinds : ∀ entry ∈ declared, schema.kind? entry.1 = some entry.2) :
    ∃ name kind value later others,
      declared = (name, kind) :: later ∧ record = (name, value) :: others ∧
      Holds schema name kind value text ∧ WritesInOrder schema others values ∧
      later.map Prod.fst = others.map Prod.fst := by
  cases writes with
  | @field name kind value others _ _ known holds writes_others =>
      rcases List.map_eq_cons_iff.mp named with
        ⟨⟨name, declared_kind⟩, later, rfl, rfl, named_later⟩
      cases known.symm.trans (kinds _ List.mem_cons_self)
      exact ⟨name, declared_kind, value, later, others, rfl, rfl, holds, writes_others, named_later⟩

/-- The elements up to the closing bracket are read as the fields that they stand for. The gap
behind an element is read together with the next one, so the text may begin with any gap. -/
theorem readElements_listed (listed : Listed ElementText values written)
    (writes : WritesInOrder schema record values)
    (named : declared.map Prod.fst = record.map Prod.fst)
    (kinds : ∀ entry ∈ declared, schema.kind? entry.1 = some entry.2) (is_gap : Gap gap)
    (first : Bool) :
    ∃ after, Gap after ∧
      readElements schema first declared (gap ++ (separator first ++ (written ++ ']' :: rest))) =
        .ok (record.take values.length, after ++ ']' :: rest) := by
  induction listed generalizing record declared first gap with
  | @last text written element =>
      rcases writes.cases_cons named kinds with
        ⟨name, kind, value, later, others, rfl, rfl, holds, -, -⟩
      rcases element.readElements_eq is_gap (ends_closing .array rest) holds later first with
        ⟨after, gap_after, read⟩
      refine ⟨after, gap_after, read.trans ?_⟩
      rw [Bracket.closing, readElements_closing gap_after]
      rfl
  | @more text values written others element listed ih =>
      rcases writes.cases_cons named kinds with
        ⟨name, kind, value, later, record, rfl, rfl, holds, writes_others, named_later⟩
      rcases element.readElements_eq is_gap (ends_comma (others ++ ']' :: rest)) holds later
        first with
        ⟨between, gap_between, read⟩
      rcases ih writes_others named_later
        (fun entry mem => kinds entry (List.mem_cons_of_mem _ mem)) gap_between false with
          ⟨after, gap_after, read_others⟩
      have others_read :
          readElements schema false later (between ++ ',' :: (others ++ ']' :: rest)) = _ :=
        read_others
      refine ⟨after, gap_after, ?_⟩
      rw [List.append_assoc, List.cons_append, read, others_read]
      rfl

end Elements

end LedgerBoard.Json
