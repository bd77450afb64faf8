import LedgerBoard.Proofs.Toml.Grammar

/-!
# Reading between values

What may stand between the values of a document is skipped as far as it goes, and no further.
-/

namespace LedgerBoard.Toml

variable {c : Char} {gap ends comment space behind rest text : List Char}

/-- A text that does not start with a blank, a line end or a comment. -/
def Solid (text : List Char) : Prop :=
  ∀ c ∈ text.head?, c ∉ [' ', '\t', '\n', '\r', '#']

/-- The end of a line or of the document. -/
def EndsLine (rest : List Char) : Prop :=
  rest = [] ∨ ∃ ends after, LineEnd ends ∧ rest = ends ++ after

/-- The end of a line with what follows it, or the end of the document. -/
def LineBreak (behind rest : List Char) : Prop :=
  behind = [] ∧ rest = [] ∨ ∃ ends, LineEnd ends ∧ behind = ends ++ rest

/-- What may stand behind a value. -/
def Follows (rest : List Char) : Prop :=
  ∃ gap after, Gap gap ∧ rest = gap ++ after ∧ ∀ c ∈ after.head?,
    c ∈ ['\n', '\r', '#', ',', ']', '\x7d']

theorem isPlain_iff : isPlain c = true ↔ Plain c := by
  simp [isPlain, Plain]

theorem isGap_iff : isGap c = true ↔ c = ' ' ∨ c = '\t' := by
  simp [isGap]

theorem Gap.nil : Gap [] :=
  nofun

theorem Gap.of_cons (is_gap : Gap (c :: gap)) : (c = ' ' ∨ c = '\t') ∧ Gap gap :=
  ⟨is_gap c List.mem_cons_self, fun other mem => is_gap other (List.mem_cons_of_mem _ mem)⟩

theorem Follows.head (follows : Follows rest) :
    ∀ c ∈ rest.head?, c ∈ [' ', '\t', '\n', '\r', '#', ',', ']', '\x7d'] := by
  rcases follows with ⟨gap, after, is_gap, rfl, behind⟩
  intro c mem
  cases gap with
  | nil =>
      have listed := behind c mem
      simp only [List.mem_cons] at listed ⊢
      exact .inr (.inr listed)
  | cons first others =>
      cases mem
      rcases is_gap.of_cons.1 with rfl | rfl <;> simp

theorem Follows.all {p : Char → Prop} [DecidablePred p] (follows : Follows rest)
    (all : [' ', '\t', '\n', '\r', '#', ',', ']', '\x7d'].all (p ·)) : ∀ c ∈ rest.head?, p c := by
  intro c mem
  simpa using List.all_eq_true.mp all c (follows.head c mem)

theorem Follows.cons (mark : c ∈ [',', ']', '\x7d']) (rest : List Char) : Follows (c :: rest) := by
  refine ⟨[], c :: rest, .nil, rfl, ?_⟩
  intro other same
  cases same
  simp only [List.mem_cons] at mark ⊢
  exact .inr (.inr (.inr mark))

theorem Follows.gap_append (is_gap : Gap gap) (follows : Follows rest) : Follows (gap ++ rest) := by
  rcases follows with ⟨inner, after, inner_gap, rfl, behind⟩
  refine ⟨gap ++ inner, after, ?_, by simp, behind⟩
  intro c mem
  rcases List.mem_append.mp mem with mem | mem
  · exact is_gap c mem
  · exact inner_gap c mem

/-- Nothing but what ends a value follows a blank behind it. -/
theorem Follows.tail (follows : Follows (' ' :: rest)) : Follows rest := by
  rcases follows with ⟨gap, after, is_gap, same, behind⟩
  cases gap with
  | nil =>
      rw [List.nil_append] at same
      have listed := behind ' ' (by rw [← same]; rfl)
      simp at listed
  | cons first others => exact ⟨others, after, is_gap.of_cons.2, (List.cons.inj same).2, behind⟩

theorem EndsLine.follows (ends_line : EndsLine rest) : Follows rest := by
  refine ⟨[], rest, .nil, rfl, ?_⟩
  rcases ends_line with rfl | ⟨ends, after, rfl | rfl, rfl⟩ <;> simp

theorem LineBreak.endsLine (breaks : LineBreak behind rest) : EndsLine behind := by
  rcases breaks with ⟨rfl, -⟩ | ⟨ends, line_end, rfl⟩
  · exact .inl rfl
  · exact .inr ⟨ends, rest, line_end, rfl⟩

theorem Comment.follows (is_comment : Comment comment) (ends_line : EndsLine rest) :
    Follows (comment ++ rest) := by
  rcases is_comment with rfl | ⟨words, rfl, -⟩
  · exact ends_line.follows
  · exact ⟨[], _, .nil, rfl, by simp⟩

theorem Space.follows (is_space : Space space) (follows : Follows rest) :
    Follows (space ++ rest) := by
  induction is_space with
  | done => exact follows
  | @blank c others is_blank others_space ih =>
      have is_gap : Gap [c] := by simpa [Gap] using is_blank
      have longer := ih.gap_append is_gap
      exact longer
  | @line comment ends others is_comment line_end others_space ih =>
      rw [List.append_assoc, List.append_assoc]
      exact is_comment.follows (.inr ⟨ends, _, line_end, rfl⟩)

theorem skipGaps_cons (is_blank : c = ' ' ∨ c = '\t') (rest : List Char) :
    skipGaps (c :: rest) = skipGaps rest := by
  rw [skipGaps, List.dropWhile_cons, if_pos (isGap_iff.mpr is_blank)]
  rfl

theorem Gap.skipGaps_append (is_gap : Gap gap) (rest : List Char) :
    skipGaps (gap ++ rest) = skipGaps rest :=
  List.dropWhile_append_of_pos fun c mem => isGap_iff.mpr (is_gap c mem)

theorem skipGaps_of_solid (no_blank : ∀ c ∈ text.head?, ¬(c = ' ' ∨ c = '\t')) :
    skipGaps text = text := by
  cases text with
  | nil => rfl
  | cons first others =>
      rw [skipGaps, List.dropWhile_cons, if_neg (mt isGap_iff.mp (no_blank first rfl))]

theorem Solid.skipGaps (solid : Solid text) : skipGaps text = text := by
  apply skipGaps_of_solid
  intro c mem is_blank
  apply solid c mem
  rcases is_blank with rfl | rfl <;> simp

theorem LineEnd.lineEnd?_append (line_end : LineEnd ends) (rest : List Char) :
    lineEnd? (ends ++ rest) = some rest := by
  rcases line_end with rfl | rfl <;> rfl

theorem lineEnd?_eq_none (inner : ∀ c ∈ text.head?, c ∉ ['\n', '\r']) : lineEnd? text = none := by
  rw [lineEnd?.eq_def]
  split
  · simp at inner
  · simp at inner
  · rfl

theorem EndsLine.not_plain (ends_line : EndsLine rest) : ∀ c ∈ rest.head?, ¬Plain c := by
  rcases ends_line with rfl | ⟨ends, after, rfl | rfl, rfl⟩ <;> simp [Plain]

/-- A comment is skipped up to the end of its line. -/
theorem Comment.skip (is_comment : Comment comment) (ends_line : EndsLine rest) :
    skipComment (skipGaps (comment ++ rest)) = rest := by
  have stops := ends_line.not_plain
  rcases is_comment with rfl | ⟨words, rfl, plain⟩
  · rcases ends_line with rfl | ⟨ends, after, rfl | rfl, rfl⟩ <;> rfl
  · have no_blank : skipGaps ('#' :: words ++ rest) = '#' :: (words ++ rest) := rfl
    rw [no_blank, skipComment,
      List.dropWhile_append_of_pos fun c mem => isPlain_iff.mpr (plain c mem)]
    cases rest with
    | nil => rfl
    | cons first others => rw [List.dropWhile_cons, if_neg (mt isPlain_iff.mp (stops first rfl))]

/-- The rest of a line is skipped with its end, if it has one. -/
theorem skipLineRest_append (is_gap : Gap gap) (is_comment : Comment comment)
    (breaks : LineBreak behind rest) :
    skipLineRest (gap ++ (comment ++ behind)) = .ok rest := by
  have skipped := is_comment.skip breaks.endsLine
  rcases breaks with ⟨rfl, rfl⟩ | ⟨ends, line_end, rfl⟩
  · simp only [skipLineRest]
    rw [is_gap.skipGaps_append, skipped]
    rfl
  · simp only [skipLineRest]
    rw [is_gap.skipGaps_append, skipped, line_end.lineEnd?_append]

theorem skipSpace_blank (is_blank : c = ' ' ∨ c = '\t') (rest : List Char) :
    skipSpace (c :: rest) = skipSpace rest := by
  rw [skipSpace, skipSpace.eq_def rest, skipGaps_cons is_blank]

theorem skipSpace_line (ended : lineEnd? (skipComment (skipGaps text)) = some rest) :
    skipSpace text = skipSpace rest := by
  rw [skipSpace]
  split
  · rename_i found ended_at
    cases ended.symm.trans ended_at
    rfl
  · rename_i not_ended
    cases ended.symm.trans not_ended

theorem skipSpace_of_solid (solid : Solid text) : skipSpace text = .ok text := by
  have skipped := solid.skipGaps
  have comment_free : skipComment text = text := by
    rw [skipComment.eq_def]
    split
    · simp [Solid] at solid
    · rfl
  have not_ended : lineEnd? text = none := by
    apply lineEnd?_eq_none
    intro c mem listed
    apply solid c mem
    simp only [List.mem_cons] at listed ⊢
    tauto
  rw [skipSpace]
  split
  · rename_i found ended
    rw [skipped, comment_free, not_ended] at ended
    cases ended
  · rw [skipped]
    split
    · simp [Solid] at solid
    · simp [Solid] at solid
    · rfl

/-- Blanks, line ends and comments are skipped up to what stands behind them. -/
theorem Space.skip (is_space : Space space) (solid : Solid rest) :
    skipSpace (space ++ rest) = .ok rest := by
  induction is_space with
  | done => exact skipSpace_of_solid solid
  | blank is_blank others ih => rw [List.cons_append, skipSpace_blank is_blank, ih]
  | @line comment ends others is_comment line_end others_space ih =>
      rw [List.append_assoc, List.append_assoc, skipSpace_line, ih]
      rw [is_comment.skip (.inr ⟨ends, _, line_end, rfl⟩), line_end.lineEnd?_append]

/-- Blanks and line ends without comments are also skipped within texts of several lines. -/
theorem Space.skipLines (is_space : Space space) (no_comment : '#' ∉ space)
    (inner : ∀ c ∈ rest.head?, c ∉ [' ', '\t', '\n', '\r']) : skipLines (space ++ rest) = rest := by
  induction is_space with
  | done =>
      have no_blank : skipGaps rest = rest := by
        apply skipGaps_of_solid
        intro c mem is_blank
        apply inner c mem
        rcases is_blank with rfl | rfl <;> simp
      have not_ended : lineEnd? rest = none := by
        apply lineEnd?_eq_none
        intro c mem listed
        apply inner c mem
        simp only [List.mem_cons] at listed ⊢
        tauto
      rw [List.nil_append, Toml.skipLines]
      split
      · rename_i found ended
        rw [no_blank, not_ended] at ended
        cases ended
      · exact no_blank
  | @blank c others is_blank others_space ih =>
      have skipped := ih fun mem => no_comment (List.mem_cons_of_mem _ mem)
      rw [List.cons_append, Toml.skipLines.eq_def, skipGaps_cons is_blank, ← Toml.skipLines.eq_def,
        skipped]
  | @line comment ends others is_comment line_end others_space ih =>
      rcases is_comment with rfl | ⟨words, rfl, -⟩
      · have skipped := ih fun mem => no_comment (by simp [mem])
        have no_blank : skipGaps (ends ++ (others ++ rest)) = ends ++ (others ++ rest) := by
          rcases line_end with rfl | rfl <;> rfl
        rw [List.nil_append, List.append_assoc, Toml.skipLines]
        split
        · rename_i found ended
          rw [no_blank, line_end.lineEnd?_append] at ended
          cases ended
          exact skipped
        · rename_i not_ended
          rw [no_blank, line_end.lineEnd?_append] at not_ended
          cases not_ended
      · simp at no_comment

end LedgerBoard.Toml
