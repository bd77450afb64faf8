import LedgerBoard.Proofs.Dashboard.History

/-!
# What the application takes in a move

In a move the application takes one input, or none, and changes by that input alone, even when
sessions make moves while it subscribes.
-/

namespace LedgerBoard

namespace App

/-- What an input asks the application to do. -/
def Input.action? (controls : Controls) : Input → Option Action
  | .press pressed => pressed.action? controls
  | .act action => some action
  | _ => none

end App

namespace Ensemble

section Apply

variable (ensemble : Ensemble)

@[simp]
theorem app_settle (generation : Nat) (result : RunningSession × List Session.Output) :
    (ensemble.settle generation result).app = ensemble.app :=
  app_change ..

/-- No move of a session changes the application. -/
@[simp]
theorem app_sessionStep (move : SessionMove) : (ensemble.sessionStep move).app = ensemble.app := by
  cases move with
  | post generation =>
      simp only [sessionStep]
      split
      · exact app_change ..
      · rfl
  | take generation fault =>
      simp only [sessionStep]
      split
      · rfl
      · exact app_settle ..
  | hear generation fault input =>
      simp only [sessionStep]
      split
      · rfl
      · exact app_settle ..

@[simp]
theorem app_sessionRun (moves : List SessionMove) :
    (ensemble.sessionRun moves).app = ensemble.app := by
  induction moves generalizing ensemble with
  | nil => rfl
  | cons move rest ih => exact (ih _).trans (app_sessionStep ensemble move)

@[simp]
theorem app_subscribe (topic : Topic) :
    (ensemble.subscribe topic).app = (ensemble.app.subscribe ensemble.isHeard topic).1 :=
  (obeyed_foldl _ _).app

/-- Whether the session that is held takes the request for each topic, if the application subscribes
when it applies an event. -/
def reception (meanwhile : Topic → List SessionMove) (envelope : Envelope) : Topic → Bool :=
  match ensemble.welcomed? envelope with
  | none => fun _ => true
  | some _ =>
      let shown := { ensemble with app := ensemble.app.showConnected }
      fun
        | .blocks => shown.isHeard
        | .transactions => ((shown.subscribe .blocks).sessionRun (meanwhile .blocks)).isHeard

variable {ensemble}

/-- The news that the node accepted a session is welcome only from the session that is held. -/
theorem envelope_of_welcomed {envelope : Envelope} {server : Option String}
    (welcomed : ensemble.welcomed? envelope = some server) :
    ensemble.app.generation? = some envelope.generation ∧ envelope.event = .connected server := by
  rw [welcomed?] at welcomed
  split at welcomed
  · rename_i event holds
    cases welcomed
    exact ⟨beq_iff_eq.mp holds, event⟩
  · cases welcomed

theorem welcomed_of_live {generation : Nat} (live : ensemble.app.generation? = some generation)
    (server : Option String) :
    ensemble.welcomed? ⟨generation, .connected server⟩ = some server := by
  simp [welcomed?, holds, live]

/-- What the application becomes by an event depends on the sessions only by which requests they
take. -/
theorem app_apply (now : Nat) (arrival : ClockTime) (meanwhile : Topic → List SessionMove)
    (envelope : Envelope) :
    (ensemble.apply now arrival meanwhile envelope).app =
      (ensemble.app.step now
        (.event envelope arrival (ensemble.reception meanwhile envelope))).1 := by
  rw [apply, reception]
  cases welcomed : ensemble.welcomed? envelope with
  | none => exact (obeyed_advance ensemble now _).app
  | some server =>
      rcases envelope_of_welcomed welcomed with ⟨live, event⟩
      rw [App.step, App.applyEvent, if_pos live, event]
      simp [welcome, App.applyLive, App.subscribeAll_eq, Topic.all]

end Apply

/-- What the application takes in a move. -/
def inputIn? (ensemble : Ensemble) : Move → Option App.Input
  | .press press => some (.press press)
  | .act action => some (.act action)
  | .tick => some .tick
  | .deliver arrival meanwhile =>
      match ensemble.channel with
      | [] => none
      | envelope :: rest =>
          let left := { ensemble with channel := rest }
          some (.event envelope arrival (left.reception meanwhile envelope))
  | .session _ => none

/-- What the user asks for in a move. -/
def actionIn? (ensemble : Ensemble) (move : Move) : Option Action :=
  (ensemble.inputIn? move).bind (·.action? ensemble.app.dashboard.controls)

/-- The application changes by what it takes, and by nothing else. -/
theorem app_step (ensemble : Ensemble) (now : Nat) (move : Move) :
    (ensemble.step now move).app =
      (ensemble.inputIn? move).elim ensemble.app fun input => (ensemble.app.step now input).1 := by
  cases move with
  | press press => exact (obeyed_advance ensemble now _).app
  | act action => exact (obeyed_advance ensemble now _).app
  | tick => exact (obeyed_advance ensemble now _).app
  | deliver arrival meanwhile =>
      cases waiting : ensemble.channel with
      | nil => simp [step, inputIn?, waiting]
      | cons envelope rest =>
          simp only [step, inputIn?, waiting, Option.elim_some]
          exact app_apply now arrival meanwhile envelope
  | session move => exact app_sessionStep ensemble move

end Ensemble

end LedgerBoard
