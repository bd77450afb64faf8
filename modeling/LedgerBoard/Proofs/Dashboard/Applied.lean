import LedgerBoard.Proofs.Dashboard.Held

/-!
# What is applied

In a move the application takes one input, or none, and changes by that input alone. Of the events
that it takes it applies those of the session that it holds, and what it shows of that session goes
back to them.
-/

namespace LedgerBoard

namespace App

/-- The event that the application applies, if it takes one of the session that it holds. -/
def applied? (app : App) : Input → Option Envelope
  | .event envelope _ _ =>
      if app.generation? = some envelope.generation then some envelope else none
  | _ => none

/-- The application is connected after it applied the news that it is, or as it was before. -/
theorem connected_of_change {app next : App} {input : Input} {orders : List Order}
    (change : Change app input next orders)
    (connected : next.dashboard.isConnected = true) :
    next.generation? = app.generation? ∧ (app.dashboard.isConnected = true ∨
      ∃ generation server, app.generation? = some generation ∧
        app.applied? input = some ⟨generation, .connected server⟩) := by
  cases change with
  | idle notice ticks quits => exact ⟨rfl, .inl connected⟩
  | begun notice free =>
      rw [free] at connected
      cases connected
  | left notice => cases connected
  | welcomed notice held =>
      rename_i handle server arrival accepts
      have live := generation?_of_held held
      refine ⟨live.symm, .inr ⟨handle.generation, server, live, ?_⟩⟩
      rw [applied?, if_pos live]
  | block held => exact ⟨rfl, .inl (by simpa using connected)⟩
  | transaction held => exact ⟨rfl, .inl (by simpa using connected)⟩
  | lost notice held => cases connected

end App

namespace Ensemble

/-- The event that the application applies in a move. -/
def appliedIn? (ensemble : Ensemble) (move : Move) : Option Envelope :=
  (ensemble.inputIn? move).bind ensemble.app.applied?

/-- The events that the application applies in moves in a row. -/
def applied : List (Nat × Move) → Ensemble → List Envelope
  | [], _ => []
  | (now, move) :: rest, ensemble =>
      (ensemble.appliedIn? move).toList ++ applied rest (ensemble.step now move)

section Applied

variable {ensemble : Ensemble}

/-- What is applied is the oldest event of the channel, and comes from the session that is held. -/
theorem deliver_of_appliedIn {move : Move} {envelope : Envelope}
    (applies : ensemble.appliedIn? move = some envelope) :
    ensemble.app.generation? = some envelope.generation ∧
      ∃ arrival meanwhile rest,
        move = .deliver arrival meanwhile ∧ ensemble.channel = envelope :: rest := by
  rw [appliedIn?, Option.bind_eq_some_iff] at applies
  rcases applies with ⟨input, taken, applies⟩
  cases move with
  | deliver arrival meanwhile =>
      cases waiting : ensemble.channel with
      | nil =>
          rw [inputIn?, waiting] at taken
          cases taken
      | cons oldest rest =>
          rw [inputIn?, waiting, Option.some.injEq] at taken
          rw [← taken, App.applied?] at applies
          split at applies
          · rename_i live
            cases applies
            exact ⟨live, arrival, meanwhile, rest, rfl, rfl⟩
          · cases applies
  | press press =>
      cases taken
      cases applies
  | act action =>
      cases taken
      cases applies
  | tick =>
      cases taken
      cases applies
  | session move => cases taken

/-- An application that ends up connected to a session was so at first, or has applied the news that
the node accepted this session. -/
theorem exists_applied_of_connected (moves : List (Nat × Move)) {generation : Nat}
    (live : (ensemble.run moves).app.generation? = some generation)
    (connected : (ensemble.run moves).app.dashboard.isConnected = true) :
    (ensemble.app.generation? = some generation ∧ ensemble.app.dashboard.isConnected = true) ∨
      ∃ server, ⟨generation, .connected server⟩ ∈ applied moves ensemble := by
  induction moves generalizing ensemble with
  | nil => exact .inl ⟨live, connected⟩
  | cons timed rest ih =>
      rcases timed with ⟨now, move⟩
      rcases ih live connected with ⟨live, connected⟩ | ⟨server, later⟩
      · rw [app_step] at live connected
        cases taken : ensemble.inputIn? move with
        | none =>
            rw [taken] at live connected
            exact .inl ⟨live, connected⟩
        | some input =>
            rw [taken] at live connected
            rcases App.connected_of_change (App.change_step ensemble.app now input) connected with
              ⟨held, was_connected | ⟨other, server, live_other, applies⟩⟩
            · exact .inl ⟨held.symm.trans live, was_connected⟩
            · right
              cases live_other.symm.trans (held.symm.trans live)
              refine ⟨server, List.mem_append_left _ ?_⟩
              rw [Option.mem_toList, appliedIn?, taken]
              exact applies
      · exact .inr ⟨server, List.mem_append_right _ later⟩

/-- What the application applies it has taken from the channel. -/
theorem exists_taken_of_applied {chronicle : Chronicle} {envelope : Envelope}
    (moves : List (Nat × Move))
    (told : (∃ arrival, (arrival, envelope) ∈ chronicle.taken) ∨
      envelope ∈ applied moves ensemble) :
    ∃ arrival, (arrival, envelope) ∈ (Chronicle.afterAll moves ensemble chronicle).taken := by
  induction moves generalizing ensemble chronicle with
  | nil => exact told.resolve_right List.not_mem_nil
  | cons timed rest ih =>
      rcases timed with ⟨now, move⟩
      apply ih
      rcases told with ⟨arrival, earlier⟩ | applies
      · exact .inl ⟨arrival, List.mem_append_left _ earlier⟩
      · rcases List.mem_append.mp applies with now_applied | later
        · rcases deliver_of_appliedIn (Option.mem_toList.mp now_applied) with
            ⟨-, arrival, meanwhile, others, rfl, waiting⟩
          refine .inl ⟨arrival, List.mem_append_right _ ?_⟩
          simp [takenIn, waiting]
        · exact .inr later

end Applied

/-- The session that is held counts as accepted once the news that it is was applied. -/
theorem isConnected_iff_applied (plan : SessionPlan) (cap : Option Nat) (moves : List (Nat × Move))
    {generation : Nat} (live : ((initial plan cap).run moves).app.generation? = some generation) :
    ((initial plan cap).run moves).app.dashboard.isConnected = true ↔
      ∃ server, ⟨generation, .connected server⟩ ∈ applied moves (initial plan cap) := by
  refine ⟨?_, ?_⟩
  · intro connected
    rcases exists_applied_of_connected moves live connected with ⟨impossible, -⟩ | applies
    · cases impossible
    · exact applies
  · rintro ⟨server, applies⟩
    rw [isConnected_iff_welcomed (faithful_run plan cap moves) live]
    rcases exists_taken_of_applied moves (.inr applies) with ⟨arrival, mem⟩
    exact ⟨arrival, server, mem⟩

end Ensemble

end LedgerBoard
