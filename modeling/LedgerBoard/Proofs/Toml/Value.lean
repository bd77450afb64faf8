import LedgerBoard.Proofs.Toml.Meaning
import LedgerBoard.Proofs.Toml.Moment
import LedgerBoard.Proofs.Toml.Text

/-!
# Values read back

Every value is read as the node that it makes, up to places. The induction is on how a value is
written, with values, items and pairs read together.
-/

namespace LedgerBoard.Toml

variable {c : Char} {text rest before after gap : List Char} {limit : Nat}

/-- A text that starts like a number or a moment. -/
def OpensQuantity (text : List Char) : Prop :=
  ∃ c ∈ text.head?, startsQuantity c = true

theorem opensQuantity_of_isDigit (is_digit : c.isDigit = true) : OpensQuantity (c :: rest) :=
  ⟨c, rfl, by simp [startsQuantity, is_digit]⟩

theorem WholeText.opensQuantity {values : List Nat} (whole : WholeText values text)
    (rest : List Char) :
    OpensQuantity (text ++ rest) := by
  obtain ⟨first, others, rfl, is_digit⟩ := whole.head
  exact opensQuantity_of_isDigit is_digit

theorem SignText.opensQuantity {negative : Bool} {sign : List Char}
    (sign_text : SignText negative sign) (opens : OpensQuantity rest) :
    OpensQuantity (sign ++ rest) := by
  cases sign_text with
  | absent => exact opens
  | plus => exact ⟨_, rfl, rfl⟩
  | minus => exact ⟨_, rfl, rfl⟩

theorem IntegerText.opensQuantity {value : Int} (integer_text : IntegerText value text)
    (rest : List Char) :
    OpensQuantity (text ++ rest) := by
  cases integer_text with
  | decimal sign_text whole =>
      rw [List.append_assoc]
      exact sign_text.opensQuantity (whole.opensQuantity rest)
  | based listed => exact ⟨_, rfl, rfl⟩

theorem FractionText.opensQuantity {shown : String} (fraction_text : FractionText shown text)
    (rest : List Char) :
    OpensQuantity (text ++ rest) := by
  cases fraction_text with
  | decimal sign_text whole =>
      simp only [List.append_assoc]
      exact sign_text.opensQuantity (whole.opensQuantity _)
  | infinite sign_text =>
      rw [List.append_assoc]
      exact sign_text.opensQuantity ⟨_, rfl, rfl⟩
  | undefined sign_text =>
      rw [List.append_assoc]
      exact sign_text.opensQuantity ⟨_, rfl, rfl⟩

theorem FieldText.opensQuantity {count low high value : Nat}
    (field : FieldText (count + 1) low high value text) (rest : List Char) :
    OpensQuantity (text ++ rest) := by
  have all_digits := field.isDigit
  rcases field with ⟨_, _, _, length, _⟩
  cases text with
  | nil => cases length
  | cons first others => exact opensQuantity_of_isDigit (all_digits first List.mem_cons_self)

theorem DateText.opensQuantity (date_text : DateText text) (rest : List Char) :
    OpensQuantity (text ++ rest) := by
  cases date_text with
  | parts year_text =>
      rw [List.append_assoc]
      exact year_text.opensQuantity _

theorem MomentText.opensQuantity (moment_text : MomentText text) (rest : List Char) :
    OpensQuantity (text ++ rest) := by
  cases moment_text with
  | date date_text => exact date_text.opensQuantity rest
  | both date_text =>
      rw [List.append_assoc]
      exact date_text.opensQuantity _
  | time time_text =>
      cases time_text with
      | parts hour_text =>
          rw [List.append_assoc]
          exact hour_text.opensQuantity _

theorem OpensQuantity.readScalar (opens : OpensQuantity text) :
    Toml.readScalar text = readQuantity text := by
  obtain ⟨first, starts_with, starts⟩ := opens
  cases text with
  | nil => cases starts_with
  | cons c others =>
      cases starts_with
      rw [readScalar.eq_def]
      split
      · rename_i same
        cases (List.cons.inj same).1 ▸ starts
      · rename_i same
        cases (List.cons.inj same).1 ▸ starts
      · rename_i same
        cases same
        rw [if_pos starts]
      · rename_i same
        cases same

/-- A text that starts like a value without parts. -/
def OpensScalar (text : List Char) : Prop :=
  OpensQuantity text ∨ ∃ c ∈ text.head?, c ∈ ['"', '\'', 't', 'f']

/-- Every value without parts is read up to what stands behind it. -/
theorem ScalarText.read {scalar : Scalar} (scalar_text : ScalarText scalar text)
    (follows : Follows rest) :
    readScalar (text ++ rest) = .ok (.scalar (text ++ rest) scalar, rest) ∧
    OpensScalar (text ++ rest) := by
  cases scalar_text with
  | text spelling =>
      obtain ⟨quote, head, read⟩ := spelling.read (follows.all (by decide))
      generalize text ++ rest = whole at head read ⊢
      obtain ⟨tail, rfl⟩ : ∃ tail, whole = quote.mark :: tail := List.head?_eq_some_iff.mp head
      rw [String.ofList_toList] at read
      cases quote with
      | basic =>
          refine ⟨?_, .inr ⟨_, rfl, by decide⟩⟩
          simp only [Quote.mark] at read ⊢
          simp only [readScalar, read]
          rfl
      | literal =>
          refine ⟨?_, .inr ⟨_, rfl, by decide⟩⟩
          simp only [Quote.mark] at read ⊢
          simp only [readScalar, read]
          rfl
  | integer integer_text =>
      have opens := integer_text.opensQuantity rest
      rw [opens.readScalar, readQuantity, integer_text.no_moment follows, integer_text.read follows]
      exact ⟨rfl, .inl opens⟩
  | fraction fraction_text =>
      have opens := fraction_text.opensQuantity rest
      rw [opens.readScalar, readQuantity, fraction_text.no_moment follows,
        fraction_text.read follows]
      exact ⟨rfl, .inl opens⟩
  | moment moment_text =>
      have opens := moment_text.opensQuantity rest
      rw [opens.readScalar, readQuantity, moment_text.read follows]
      exact ⟨rfl, .inl opens⟩
  | boolean value =>
      refine ⟨?_, .inr ?_⟩
      · cases value <;> rfl
      · cases value <;> exact ⟨_, rfl, by decide⟩

/-- A text that starts like a value. -/
def OpensValue (text : List Char) : Prop :=
  OpensScalar text ∨ ∃ c ∈ text.head?, c ∈ ['[', '\x7b']

theorem OpensQuantity.head (opens : OpensQuantity text) :
    ∀ c ∈ text.head?, c ∉ [' ', '\t', '\n', '\r', '#', ']', '[', '\x7b', '\x7d'] := by
  obtain ⟨first, starts_with, starts⟩ := opens
  intro c mem listed
  cases Option.some.inj (starts_with.symm.trans mem)
  have other :
      ∀ c ∈ [' ', '\t', '\n', '\r', '#', ']', '[', '\x7b', '\x7d'], startsQuantity c = false := by
    simp [startsQuantity]
  cases (other first listed).symm.trans starts

theorem OpensScalar.head (opens : OpensScalar text) :
    ∀ c ∈ text.head?, c ∉ [' ', '\t', '\n', '\r', '#', ']', '[', '\x7b', '\x7d'] := by
  rcases opens with opens | ⟨first, starts_with, starts⟩
  · exact opens.head
  · intro c mem
    cases Option.some.inj (starts_with.symm.trans mem)
    have other :
        ∀ c ∈ ['"', '\'', 't', 'f'],
          c ∉ [' ', '\t', '\n', '\r', '#', ']', '[', '\x7b', '\x7d'] := by
      simp
    exact other first starts

theorem OpensValue.head (opens : OpensValue text) :
    ∀ c ∈ text.head?, c ∉ [' ', '\t', '\n', '\r', '#', ']', '\x7d'] := by
  rcases opens with opens | ⟨first, starts_with, starts⟩
  · intro c mem listed
    apply opens.head c mem
    simp only [List.mem_cons] at listed ⊢
    tauto
  · intro c mem
    cases Option.some.inj (starts_with.symm.trans mem)
    have other : ∀ c ∈ ['[', '\x7b'], c ∉ [' ', '\t', '\n', '\r', '#', ']', '\x7d'] := by simp
    exact other first starts

theorem OpensValue.solid (opens : OpensValue text) : Solid text := by
  intro c mem listed
  apply opens.head c mem
  simp only [List.mem_cons] at listed ⊢
  tauto

theorem OpensScalar.readValue (opens : OpensScalar text) (limit : Nat) :
    Toml.readValue (limit + 1) text = readScalar text := by
  have head := opens.head
  simp only [Toml.readValue]
  split
  · simp at head
  · simp at head
  · rfl

variable {readItem : List Char → Reading Node} {node : Node}

theorem readItems_end (is_space : Space before) (rest : List Char) :
    readItems readItem (before ++ ']' :: rest) = .ok ([], rest) := by
  rw [readItems, is_space.skip (by simp [Solid])]
  rfl

/-- An item is read with the space around it. A bracket ends the array, and other items follow a
comma. -/
theorem readItems_item (space_before : Space before) (space_after : Space after)
    (opens : OpensValue (text ++ (after ++ c :: rest)))
    (item : readItem (text ++ (after ++ c :: rest)) = .ok (node, after ++ c :: rest)) :
    (c = ']' → readItems readItem (before ++ (text ++ (after ++ c :: rest))) = .ok ([node], rest)) ∧
      (c = ',' → ∀ items tail, readItems readItem rest = .ok (items, tail) →
        readItems readItem (before ++ (text ++ (after ++ c :: rest))) =
          .ok (node :: items, tail)) := by
  have shorter : rest.length < (before ++ (text ++ (after ++ c :: rest))).length := by
    simp only [List.length_append, List.length_cons]
    omega
  have behind : c = ']' ∨ c = ',' → skipSpace (after ++ c :: rest) = .ok (c :: rest) := by
    intro mark
    apply space_after.skip
    rcases mark with rfl | rfl <;> simp [Solid]
  have head := opens.head
  rw [readItems, space_before.skip opens.solid]
  split
  · rename_i failed
    cases failed
  · rename_i closed same
    rw [Except.ok.inj same] at head
    simp at head
  · rename_i start same
    cases same
    constructor
    · rintro rfl
      simp only [item, behind (.inl rfl)]
    · rintro rfl items tail others
      simp only [item, behind (.inr rfl), shorter, if_true, others]
      rfl

theorem readPair_written {path : List String} {key : List Char} (key_text : KeyText path key)
    (short : path.length < nestingLimit) (is_gap : Gap gap) (opens : OpensValue (text ++ rest))
    (item : readItem (text ++ rest) = .ok (node, rest)) :
    ∃ keys, readPair readItem (key ++ '=' :: (gap ++ (text ++ rest))) = .ok ((keys, node), rest) ∧
      keys.map Key.name = path := by
  obtain ⟨keys, read, same⟩ := key_text.readKey (gap ++ (text ++ rest)) short
    (List.mem_cons_self (a := '='))
  refine ⟨keys, ?_, same⟩
  rw [readPair, read]
  simp only [is_gap.skipGaps_append, opens.solid.skipGaps, item]
  rfl

/-- A pair is read with the blanks around it. A brace ends the table, and other pairs follow a
comma. -/
theorem readPairs_pair {path : List Key} (gap_after : Gap after)
    (pair : readPair readItem text = .ok ((path, node), after ++ c :: rest))
    (shorter : rest.length < text.length) :
    (c = '\x7d' → readPairs readItem text = .ok ([(path, node)], rest)) ∧
      (c = ',' → ∀ pairs tail, readPairs readItem rest = .ok (pairs, tail) →
        readPairs readItem text = .ok ((path, node) :: pairs, tail)) := by
  rw [readPairs, pair]
  constructor
  · rintro rfl
    have behind : skipGaps (after ++ '\x7d' :: rest) = '\x7d' :: rest := gap_after.skipGaps_append _
    simp only [behind]
  · rintro rfl pairs tail others
    have behind : skipGaps (after ++ ',' :: rest) = ',' :: rest := gap_after.skipGaps_append _
    simp only [behind, shorter, if_true, others]
    rfl

/-- What it means to read a part of a document back, before whatever may stand behind it. -/
def ReadsBack (limit : Nat) (text : List Char) : Part → Prop
  | .value value => ∀ node, value.node? = some node → ∀ rest, Follows rest →
      ∃ found, readValue (limit + 1) (text ++ rest) = .ok (found, rest) ∧ found.unplaced = node
  | .items items => ∀ nodes, Value.nodes? items = some nodes → ∀ rest,
      ∃ found, readItems (readValue (limit + 1)) (text ++ ']' :: rest) = .ok (found, rest) ∧
        found.map Node.unplaced = nodes
  | .pairs pairs => ∀ assignments, Value.assignments? pairs = some assignments → ∀ rest,
      ∃ found, readPairs (readValue (limit + 1)) (text ++ '\x7d' :: rest) = .ok (found, rest) ∧
        found.map (fun pair => (pair.1.map Key.unplaced, pair.2.unplaced)) = assignments

theorem Written.opensValue {value : Value} (written : Written limit (.value value) text)
    (follows : Follows rest) :
    OpensValue (text ++ rest) := by
  cases written with
  | scalar scalar_text => exact .inl (scalar_text.read follows).2
  | _ => exact .inr ⟨_, rfl, by decide⟩

theorem readValue_bracket {items : List Node}
    (read : readItems (readValue (limit + 1)) (text ++ ']' :: rest) = .ok (items, rest)) :
    readValue (limit + 1 + 1) ('[' :: (text ++ [']']) ++ rest) =
      .ok (.array ('[' :: (text ++ [']']) ++ rest) items, rest) := by
  rw [List.cons_append, List.append_assoc, List.singleton_append, readValue]
  simp only [Nat.succ_ne_zero, if_false, read]
  rfl

theorem readValue_brace (entries : Entries)
    (read : readInline (readValue (limit + 1)) (text ++ '\x7d' :: rest) = .ok (entries, rest)) :
    readValue (limit + 1 + 1) ('\x7b' :: (text ++ ['\x7d']) ++ rest) =
      .ok (.table (some ('\x7b' :: (text ++ ['\x7d']) ++ rest)) .inline entries, rest) := by
  rw [List.cons_append, List.append_assoc, List.singleton_append, readValue]
  simp only [Nat.succ_ne_zero, if_false, read]
  rfl

/-- No pair starts with a closing brace. -/
theorem Written.no_brace {pairs : List (List String × Value)}
    (written : Written limit (.pairs pairs) text) (rest tail : List Char) :
    skipGaps (text ++ rest) ≠ '\x7d' :: tail := by
  cases written with
  | lastPair key_text =>
      rw [List.append_assoc]
      exact key_text.ne_cons (by decide) _ tail
  | morePairs key_text =>
      rw [List.append_assoc]
      exact key_text.ne_cons (by decide) _ tail

/-- Every part is read as what it makes. -/
theorem Written.read {part : Part} (written : Written limit part text) :
    ReadsBack limit text part := by
  induction written with
  | scalar scalar_text =>
      rintro node ⟨rfl⟩ rest follows
      rcases scalar_text.read follows with ⟨read, opens⟩
      exact ⟨_, (opens.readValue _).trans read, rfl⟩
  | noItems is_space =>
      rintro node ⟨rfl⟩ rest follows
      exact ⟨_, readValue_bracket (readItems_end is_space rest), rfl⟩
  | array written ih =>
      intro node same rest follows
      rw [Value.node?, Option.map_eq_some_iff] at same
      obtain ⟨nodes, made, rfl⟩ := same
      obtain ⟨found, read, same⟩ := ih nodes made rest
      refine ⟨_, readValue_bracket read, ?_⟩
      rw [Node.unplaced, Node.allUnplaced_eq_map, same]
  | @noPairs limit gap is_gap =>
      rintro node ⟨rfl⟩ rest follows
      have behind : skipGaps (gap ++ '\x7d' :: rest) = '\x7d' :: rest := is_gap.skipGaps_append _
      refine ⟨_, readValue_brace [] ?_, rfl⟩
      simp only [readInline, behind]
  | @inline limit pairs text written ih =>
      intro node same rest follows
      simp only [Value.node?, Option.bind_eq_some_iff, Option.map_eq_some_iff] at same
      obtain ⟨assignments, made, entries, put, rfl⟩ := same
      obtain ⟨found, read, same⟩ := ih assignments made rest
      have built := Entries.ofPairs?_unplaced found
      rw [same, put, Option.map_eq_some_iff] at built
      obtain ⟨inner, built, rfl⟩ := built
      refine ⟨_, readValue_brace inner ?_, rfl⟩
      rw [readInline]
      split
      · rename_i closed same
        exact absurd same (written.no_brace _ _)
      · simp only [read, built]
  | @lastItem limit item before text after final space_before written space_after comma ih =>
      intro nodes all_made rest
      obtain ⟨node, more, made, ⟨rfl⟩, rfl⟩ := Value.nodes?_cons.mp all_made
      rcases comma with rfl | ⟨space, rfl, is_space⟩
      · have follows : Follows (after ++ ']' :: rest) := space_after.follows (.cons (by decide) _)
        obtain ⟨found, read, rfl⟩ := ih node made _ follows
        have items :=
          (readItems_item space_before space_after (written.opensValue follows) read).1 rfl
        refine ⟨[found], ?_, rfl⟩
        simpa using items
      · have follows : Follows (after ++ ',' :: (space ++ ']' :: rest)) :=
          space_after.follows (.cons (by decide) _)
        obtain ⟨found, read, rfl⟩ := ih node made _ follows
        have items :=
          (readItems_item space_before space_after (written.opensValue follows) read).2 rfl _ _
          (readItems_end is_space rest)
        refine ⟨[found], ?_, rfl⟩
        simpa using items
  | @moreItems limit item items before text after others space_before written space_after
      others_written ih others_ih =>
      intro nodes all_made rest
      obtain ⟨node, more, made, others_made, rfl⟩ := Value.nodes?_cons.mp all_made
      obtain ⟨found_more, read_more, rfl⟩ := others_ih more others_made rest
      have follows : Follows (after ++ ',' :: (others ++ ']' :: rest)) :=
        space_after.follows (.cons (by decide) _)
      obtain ⟨found, read, rfl⟩ := ih node made _ follows
      have items :=
        (readItems_item space_before space_after (written.opensValue follows) read).2 rfl _ _
          read_more
      refine ⟨found :: found_more, ?_, rfl⟩
      simpa using items
  | @lastPair limit path value key gap text after key_text short is_gap written gap_after ih =>
      intro assignments all_made rest
      obtain ⟨node, more, made, ⟨rfl⟩, rfl⟩ := Value.assignments?_cons.mp all_made
      have follows : Follows (after ++ '\x7d' :: rest) :=
        .gap_append gap_after (.cons (by decide) _)
      obtain ⟨found, read, rfl⟩ := ih node made _ follows
      obtain ⟨keys, pair, names⟩ :=
        readPair_written key_text short is_gap (written.opensValue follows) read
      have pairs := (readPairs_pair gap_after pair (by simp; omega)).1 rfl
      refine ⟨[(keys, found)], ?_, by simp [map_unplaced names]⟩
      simpa using pairs
  | @morePairs limit path value pairs key gap text after others key_text short is_gap written
      gap_after others_written ih others_ih =>
      intro assignments all_made rest
      obtain ⟨node, more, made, others_made, rfl⟩ := Value.assignments?_cons.mp all_made
      obtain ⟨found_more, read_more, rfl⟩ := others_ih more others_made rest
      have follows : Follows (after ++ ',' :: (others ++ '\x7d' :: rest)) :=
        .gap_append gap_after (.cons (by decide) _)
      obtain ⟨found, read, rfl⟩ := ih node made _ follows
      obtain ⟨keys, pair, names⟩ :=
        readPair_written key_text short is_gap (written.opensValue follows) read
      have pairs := (readPairs_pair gap_after pair (by simp; omega)).2 rfl _ _ read_more
      refine ⟨(keys, found) :: found_more, ?_, by simp [map_unplaced names]⟩
      simpa using pairs

end LedgerBoard.Toml
