/-!
# Outcomes of steps in a row

A computation that can fail has a result exactly where each of its steps has one. These facts open
every reader that is written as a sequence of steps.
-/

namespace LedgerBoard.Outcome

variable {ε α β : Type}

/-- Two stages have a result if both have one. -/
theorem bind_eq_ok_iff {outcome : Except ε α} {next : α → Except ε β} {result : β} :
    outcome >>= next = .ok result ↔ ∃ value, outcome = .ok value ∧ next value = .ok result := by
  cases outcome with
  | error cause => simp [bind, Except.bind]
  | ok value => simp [bind, Except.bind]

/-- Two stages fail if the first one fails, or the second one with what the first one gives. -/
theorem bind_eq_error_iff {outcome : Except ε α} {next : α → Except ε β} {cause : ε} :
    outcome >>= next = .error cause ↔
      outcome = .error cause ∨ ∃ value, outcome = .ok value ∧ next value = .error cause := by
  cases outcome with
  | error cause => simp [bind, Except.bind]
  | ok value => simp [bind, Except.bind]

theorem map_eq_ok_iff {outcome : Except ε α} {f : α → β} {result : β} :
    outcome.map f = .ok result ↔ ∃ value, outcome = .ok value ∧ f value = result := by
  cases outcome with
  | error cause => simp [Except.map]
  | ok value => simp [Except.map]

theorem map_eq_error_iff {outcome : Except ε α} {f : α → β} {cause : ε} :
    outcome.map f = .error cause ↔ outcome = .error cause := by
  cases outcome with
  | error cause => simp [Except.map]
  | ok value => simp [Except.map]

theorem toOption_eq_some_iff {outcome : Except ε α} {value : α} :
    outcome.toOption = some value ↔ outcome = .ok value := by
  cases outcome with
  | error cause => simp [Except.toOption]
  | ok found => simp [Except.toOption]

/-- A fold that fails, fails at one of its steps. -/
theorem exists_step_of_foldlM_error {step : β → α → Except ε β} {items : List α} {start : β}
    {cause : ε} (failed : items.foldlM step start = .error cause) :
    ∃ item ∈ items, ∃ between, step between item = .error cause := by
  induction items generalizing start with
  | nil => cases failed
  | cons item items ih =>
      rw [List.foldlM_cons] at failed
      rcases bind_eq_error_iff.mp failed with failed | ⟨between, -, failed⟩
      · exact ⟨item, List.mem_cons_self, start, failed⟩
      · obtain ⟨other, mem, found⟩ := ih failed
        exact ⟨other, List.mem_cons_of_mem item mem, found⟩

end LedgerBoard.Outcome
