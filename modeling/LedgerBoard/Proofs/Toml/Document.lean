import Mathlib.Data.List.DropRight
import LedgerBoard.Proofs.Toml.Value

/-!
# Documents read back

Every document whose statements make a tree is read, and what is read is this tree, up to places.
-/

namespace LedgerBoard.Toml

variable {statement : Statement} {statements : List Statement} {draft next : Draft}
  {text rest gap comment behind line : List Char}

theorem readKey_skipGaps (text : List Char) : readKey (skipGaps text) = readKey text := by
  have same : skipGaps (skipGaps text) = skipGaps text := List.dropWhile_idempotent ..
  rw [readKey, readKey, nestingLimit, readKeyParts, readKeyParts, same]

/-- What does not start with a bracket is read as an assignment. -/
theorem readStatement_assignment {path : List Key} {node : Node}
    (no_bracket : ∀ tail, text ≠ '[' :: tail)
    (read : readAssignment text = .ok ((path, node), rest)) :
    readStatement draft text = conclude text rest (draft.assign path node) := by
  rw [readStatement.eq_def]
  split
  · exact absurd rfl (no_bracket _)
  · exact absurd rfl (no_bracket _)
  · rw [read]

theorem conclude_of_unplaced {place : Place} {found : Option Draft}
    (same : found.map Draft.unplaced = some next) :
    ∃ draft, conclude place rest found = .ok (draft, rest) ∧ draft.unplaced = next := by
  obtain ⟨draft, rfl, rfl⟩ := Option.map_eq_some_iff.mp same
  exact ⟨draft, rfl, rfl⟩

/-- A statement is read with the rest of its line, and does to a draft what it says. -/
theorem StatementText.read (statement_text : StatementText statement text) (is_gap : Gap gap)
    (is_comment : Comment comment) (breaks : LineBreak behind rest)
    (applied : statement.apply? draft.unplaced = some next) :
    ∃ found, readStatement draft (skipGaps (text ++ (gap ++ (comment ++ behind)))) =
      .ok (found, rest) ∧
      found.unplaced = next := by
  have line_rest := skipLineRest_append is_gap is_comment breaks
  cases statement_text with
  | @header path key key_text short =>
      obtain ⟨keys, read, names⟩ := key_text.readKey (gap ++ (comment ++ behind)) short
        (List.mem_cons_of_mem _ List.mem_cons_self)
      have header :
          readHeader false (key ++ ']' :: (gap ++ (comment ++ behind))) = .ok (keys, rest) := by
        simp only [readHeader, read, line_rest]
        rfl
      have no_gap : skipGaps ('[' :: (key ++ [']']) ++ (gap ++ (comment ++ behind))) =
          '[' :: (key ++ ']' :: (gap ++ (comment ++ behind))) := by
        simp [skipGaps, isGap]
      rw [no_gap, readStatement.eq_def]
      split
      · rename_i same
        have skipped := congrArg skipGaps (List.cons.inj same).2
        exact absurd skipped (key_text.ne_cons (by decide) _ _)
      · rename_i same
        cases same
        simp only [header]
        apply conclude_of_unplaced
        rw [Draft.openHeader_unplaced, map_unplaced names]
        exact applied
      · rename_i other
        exact absurd rfl (other _)
  | @element path key key_text short =>
      obtain ⟨keys, read, names⟩ := key_text.readKey (']' :: (gap ++ (comment ++ behind))) short
        (List.mem_cons_of_mem _ List.mem_cons_self)
      have header :
          readHeader true (key ++ ']' :: ']' :: (gap ++ (comment ++ behind))) =
            .ok (keys, rest) := by
        simp only [readHeader, read, line_rest]
        rfl
      have no_gap : skipGaps ('[' :: '[' :: (key ++ [']', ']']) ++ (gap ++ (comment ++ behind))) =
          '[' :: '[' :: (key ++ ']' :: ']' :: (gap ++ (comment ++ behind))) := by
        simp [skipGaps, isGap]
      rw [no_gap, readStatement]
      simp only [header]
      apply conclude_of_unplaced
      rw [Draft.openHeader_unplaced, map_unplaced names]
      exact applied
  | @assignment path value key inner text key_text short inner_gap written =>
      obtain ⟨node, made, assigned⟩ := Option.bind_eq_some_iff.mp applied
      have follows : Follows (gap ++ (comment ++ behind)) :=
        .gap_append is_gap (is_comment.follows breaks.endsLine)
      obtain ⟨found, value_read, rfl⟩ := written.read node made _ follows
      obtain ⟨keys, pair, names⟩ :=
        readPair_written key_text short inner_gap (written.opensValue follows)
        value_read
      rw [List.append_assoc, List.cons_append, List.append_assoc]
      have assignment :
          readAssignment
            (skipGaps (key ++ '=' :: (inner ++ (text ++ (gap ++ (comment ++ behind)))))) =
          .ok ((keys, found), rest) := by
        rw [readPair, ← readKey_skipGaps, ← readPair] at pair
        have at_limit : nestingLimit - 1 + 1 = nestingLimit := rfl
        rw [at_limit] at pair
        rw [readAssignment, pair]
        simp only [line_rest]
        rfl
      rw [readStatement_assignment (key_text.ne_cons (by decide) _) assignment]
      apply conclude_of_unplaced
      rw [Draft.assign_unplaced, map_unplaced names]
      exact assigned

/-- A statement starts with no line end, comment or byte order mark. -/
theorem StatementText.head (statement_text : StatementText statement text) (rest : List Char) :
    ∃ first others, skipGaps (text ++ rest) = first :: others ∧
    first ∉ ['\n', '\r', '#', '\uFEFF'] := by
  cases statement_text with
  | header => exact ⟨'[', _, rfl, by decide⟩
  | element => exact ⟨'[', _, rfl, by decide⟩
  | assignment key_text =>
      rw [List.append_assoc]
      obtain ⟨first, others, same, -⟩ := key_text.head _
      refine ⟨first, others, same, ?_⟩
      intro listed
      apply key_text.ne_cons _ _ others same
      simp only [List.mem_cons] at listed ⊢
      tauto

/-- One line less to read. -/
theorem readStatements_step {c : Char} {tail : List Char} (start : skipGaps text = c :: tail)
    (read : (if c = '\n' ∨ c = '\r' ∨ c = '#' then (skipLineRest (c :: tail)).map (draft, ·)
      else readStatement draft (c :: tail)) = .ok (next, rest))
    (shorter : rest.length < text.length) :
    readStatements draft text = readStatements next rest := by
  rw [readStatements, start]
  simp only [read, shorter, if_true]

theorem readStatements_nil (is_gap : Gap gap) : readStatements draft gap = .ok draft.entries := by
  have skipped : skipGaps gap = [] := by
    have behind := is_gap.skipGaps_append []
    rwa [List.append_nil] at behind
  rw [readStatements, skipped]

theorem LineBreak.length (breaks : LineBreak behind rest) :
    rest.length < behind.length ∨ behind.length = 0 ∧ rest.length = 0 := by
  rcases breaks with ⟨rfl, rfl⟩ | ⟨ends, rfl | rfl, rfl⟩
  · exact .inr ⟨rfl, rfl⟩
  all_goals
    simp only [List.length_append, List.length_cons]
    omega

theorem LineBreak.starts (breaks : LineBreak behind rest) (is_comment : Comment comment) :
    comment = [] ∧ behind = [] ∨
      ∃ c tail, comment ++ behind = c :: tail ∧ (c = '\n' ∨ c = '\r' ∨ c = '#') := by
  rcases is_comment with rfl | ⟨words, rfl, -⟩
  · rcases breaks with ⟨rfl, -⟩ | ⟨ends, rfl | rfl, rfl⟩
    · exact .inl ⟨rfl, rfl⟩
    · exact .inr ⟨_, _, rfl, .inl rfl⟩
    · exact .inr ⟨_, _, rfl, .inr (.inl rfl)⟩
  · exact .inr ⟨_, _, rfl, .inr (.inr rfl)⟩

/-- A line without a statement changes nothing. -/
theorem readStatements_blank (is_gap : Gap gap) (is_comment : Comment comment)
    (breaks : LineBreak behind rest) :
    readStatements draft (gap ++ (comment ++ behind)) = readStatements draft rest := by
  have line_rest : skipLineRest (comment ++ behind) = .ok rest :=
    skipLineRest_append .nil is_comment breaks
  rcases breaks.starts is_comment with ⟨rfl, rfl⟩ | ⟨c, tail, starts, listed⟩
  · have at_end : rest = [] := by
      rcases breaks.length with shorter | ⟨-, no_rest⟩
      · cases shorter
      · exact List.length_eq_zero_iff.mp no_rest
    rw [at_end, List.append_nil, List.append_nil, readStatements_nil is_gap]
    exact (readStatements_nil .nil).symm
  · have shorter : rest.length < (gap ++ (comment ++ behind)).length := by
      have some_text := congrArg List.length starts
      have shortened := breaks.length
      simp only [List.length_append, List.length_cons] at some_text ⊢
      omega
    have start : skipGaps (gap ++ (comment ++ behind)) = c :: tail := by
      rw [is_gap.skipGaps_append, starts]
      apply skipGaps_of_solid
      rintro _ ⟨rfl⟩ (rfl | rfl) <;> simp at listed
    apply readStatements_step start _ shorter
    rw [if_pos listed, ← starts, line_rest]
    rfl

/-- A line is read with its end. -/
theorem LineText.read (line_text : LineText statements line) (breaks : LineBreak behind rest)
    (applied : statements.foldlM Statement.apply? draft.unplaced = some next) :
    ∃ found, readStatements draft (line ++ behind) = readStatements found rest ∧
    found.unplaced = next := by
  cases line_text with
  | blank is_gap is_comment =>
      cases applied
      rw [List.append_assoc]
      exact ⟨draft, readStatements_blank is_gap is_comment breaks, rfl⟩
  | @statement statement before text after comment gap_before statement_text gap_after is_comment =>
      have applied_once : statement.apply? draft.unplaced = some next := by
        simpa using applied
      obtain ⟨found, read, same⟩ := statement_text.read gap_after is_comment breaks applied_once
      obtain ⟨first, others, start, other⟩ := statement_text.head (after ++ (comment ++ behind))
      refine ⟨found, ?_, same⟩
      simp only [List.append_assoc]
      have shorter : rest.length < (before ++ (text ++ (after ++ (comment ++ behind)))).length := by
        have some_text : 0 < text.length := by
          cases statement_text <;> simp only [List.length_cons, List.length_append] <;> omega
        have shortened := breaks.length
        simp only [List.length_append]
        omega
      apply readStatements_step (gap_before.skipGaps_append _ |>.trans start) _ shorter
      rw [if_neg, ← start, read]
      rintro (rfl | rfl | rfl) <;> simp at other

/-- Lines are read one after the other. -/
theorem LinesText.read (lines_text : LinesText statements text) (draft : Draft)
    (applied : statements.foldlM Statement.apply? draft.unplaced = some next) :
    ∃ found : Draft, readStatements draft text = .ok found.entries ∧ found.unplaced = next := by
  induction lines_text generalizing draft next with
  | last line_text =>
      obtain ⟨found, read, same⟩ := line_text.read (.inl ⟨rfl, rfl⟩) applied
      rw [List.append_nil] at read
      exact ⟨found, read.trans (readStatements_nil .nil), same⟩
  | more line_text line_end rest_text ih =>
      rw [List.foldlM_append] at applied
      obtain ⟨between, first, others⟩ := Option.bind_eq_some_iff.mp applied
      obtain ⟨found, read, rfl⟩ := line_text.read (.inr ⟨_, line_end, rfl⟩) first
      obtain ⟨last, last_read, same⟩ := ih _ others
      exact ⟨last, read.trans last_read, same⟩

theorem LineText.no_mark (line_text : LineText statements line) (breaks : LineBreak behind rest)
    (tail : List Char) : line ++ behind ≠ '\uFEFF' :: tail := by
  intro same
  have kept : skipGaps (line ++ behind) = '\uFEFF' :: tail := by
    rw [same]
    rfl
  cases line_text with
  | blank is_gap is_comment =>
      rw [List.append_assoc, is_gap.skipGaps_append] at kept
      rcases breaks.starts is_comment with ⟨rfl, rfl⟩ | ⟨c, others, starts, listed⟩
      · cases kept
      · have no_blank : skipGaps (c :: others) = c :: others := by
          rcases listed with rfl | rfl | rfl <;> rfl
        rw [starts, no_blank] at kept
        rw [(List.cons.inj kept).1] at listed
        simp at listed
  | statement gap_before statement_text =>
      simp only [List.append_assoc] at kept
      obtain ⟨first, others, start, other⟩ := statement_text.head _
      rw [gap_before.skipGaps_append, start] at kept
      rw [(List.cons.inj kept).1] at other
      simp at other

theorem LinesText.no_mark (lines_text : LinesText statements text) (tail : List Char) :
    text ≠ '\uFEFF' :: tail := by
  cases lines_text with
  | last line_text =>
      have no_mark := line_text.no_mark (.inl ⟨rfl, rfl⟩) tail
      rwa [List.append_nil] at no_mark
  | more line_text line_end => exact line_text.no_mark (.inr ⟨_, line_end, rfl⟩) tail

/-- Every document whose statements make a tree is read as this tree. -/
theorem DocumentText.read (document : DocumentText statements text) {tree : Entries}
    (made : tree? statements = some tree) :
    ∃ entries, readDocument text = .ok entries ∧ Entries.unplaced entries = tree := by
  obtain ⟨next, applied, rfl⟩ := Option.map_eq_some_iff.mp made
  rcases document with lines_text | ⟨rest, rfl, lines_text⟩
  · obtain ⟨found, read, rfl⟩ := lines_text.read ⟨[], []⟩ applied
    refine ⟨found.entries, ?_, rfl⟩
    rw [readDocument.eq_def]
    split
    · exact absurd rfl (lines_text.no_mark _)
    · exact read
  · obtain ⟨found, read, rfl⟩ := lines_text.read ⟨[], []⟩ applied
    exact ⟨found.entries, read, rfl⟩

end LedgerBoard.Toml
