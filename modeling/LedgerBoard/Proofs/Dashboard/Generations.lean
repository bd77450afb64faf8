import LedgerBoard.Dashboard.App

/-!
# Which session is held

An input keeps the session that is held, gives it up, or starts one of a generation that was never
given out before. So a generation that was given out and is not held is never held again, and
because an application listens to the session that it holds only, whatever the other sessions say,
and however late, leaves no trace.
-/

namespace LedgerBoard

/-- The generation of the session that an order starts. -/
def Order.started? : Order → Option Nat
  | .start generation => some generation
  | .request _ _ => none

/-- The generations given out by orders. -/
def issued (orders : List Order) : List Nat :=
  orders.filterMap Order.started?

@[simp]
theorem issued_append (front back : List Order) :
    issued (front ++ back) = issued front ++ issued back :=
  List.filterMap_append

/-- Requests start no session. -/
@[simp]
theorem issued_requests {α : Type} (generation : α → Nat) (request : α → Request) (items : List α) :
    issued (items.map fun item => .request (generation item) (request item)) = [] := by
  simp [issued, List.filterMap_map, Function.comp_def, Order.started?]

namespace App

theorem generation?_of_held {app : App} {handle : Handle} (held : app.handle = some handle) :
    app.generation? = some handle.generation := by
  rw [generation?, held, Option.map_some]

section Parts

variable (app : App) (now : Nat) (accepts : Bool) (topic : Topic)

@[simp]
theorem generation?_showConnected : app.showConnected.generation? = app.generation? := rfl

@[simp]
theorem started_showConnected : app.showConnected.started = app.started := rfl

@[simp]
theorem plan_showConnected : app.showConnected.plan = app.plan := rfl

@[simp]
theorem generation?_announce (text : String) :
    (app.announce now text).generation? = app.generation? := rfl

@[simp]
theorem started_announce (text : String) : (app.announce now text).started = app.started := rfl

@[simp]
theorem dashboard_announce (text : String) :
    (app.announce now text).dashboard = app.dashboard := rfl

@[simp]
theorem plan_announce (text : String) : (app.announce now text).plan = app.plan := rfl

@[simp]
theorem generation?_subscribe : (app.subscribe accepts topic).1.generation? = app.generation? := by
  rw [subscribe]
  cases held : app.handle with
  | none => rfl
  | some handle => simp [generation?, held, Handle.subscribe]

@[simp]
theorem started_subscribe : (app.subscribe accepts topic).1.started = app.started := by
  rw [subscribe]
  cases app.handle <;> rfl

@[simp]
theorem dashboard_subscribe : (app.subscribe accepts topic).1.dashboard = app.dashboard := by
  rw [subscribe]
  cases app.handle <;> rfl

@[simp]
theorem plan_subscribe : (app.subscribe accepts topic).1.plan = app.plan := by
  rw [subscribe]
  cases app.handle <;> rfl

@[simp]
theorem issued_subscribe : issued (app.subscribe accepts topic).2 = [] := by
  rw [subscribe]
  cases app.handle <;> rfl

/-- The topics are subscribed one after the other, each with its own outcome. -/
theorem subscribeAll_eq (accepts : Topic → Bool) :
    app.subscribeAll accepts =
      let first := app.subscribe (accepts .blocks) .blocks
      let second := first.1.subscribe (accepts .transactions) .transactions
      (second.1, first.2 ++ second.2) := by
  simp [subscribeAll, Topic.all]

end Parts

/-- What an input does about the session that is held. -/
inductive Handover (app : App) (next : App) (orders : List Order) : Prop where
  | kept (held : next.generation? = app.generation?) (count : next.started = app.started)
      (none_issued : issued orders = [])
  | ended (held : next.generation? = none) (count : next.started = app.started)
      (none_issued : issued orders = [])
  | begun (held : next.generation? = some (app.started + 1))
      (count : next.started = app.started + 1) (one_issued : issued orders = [app.started + 1])

/-- Connecting hands over to a session with the next number, or hands nothing over. -/
theorem handover_connect (app : App) (now : Nat) :
    Handover app (app.connect now).1 (app.connect now).2 := by
  rw [connect]
  split
  · apply Handover.begun
    · rfl
    · rfl
    · rw [issued_append, issued_requests]
      rfl
  · exact .kept rfl rfl rfl

theorem handover_disconnect (app : App) (now : Nat) :
    Handover app (app.disconnect now).1 (app.disconnect now).2 := by
  rw [disconnect]
  cases app.handle with
  | none => exact .ended rfl rfl rfl
  | some handle =>
      apply Handover.ended
      · rfl
      · rfl
      · exact issued_requests _ _ _

theorem handover_act (app : App) (now : Nat) (action : Action) :
    Handover app (app.act now action).1 (app.act now action).2 := by
  cases action with
  | quit => exact .kept rfl rfl rfl
  | connect => exact handover_connect app now
  | disconnect => exact handover_disconnect app now

theorem handover_applyLive (app : App) (now : Nat) (arrival : ClockTime) (accepts : Topic → Bool)
    (event : SessionEvent) :
    Handover app (app.applyLive now arrival accepts event).1
      (app.applyLive now arrival accepts event).2 := by
  cases event with
  | connected server =>
      apply Handover.kept
      · simp [applyLive, subscribeAll_eq]
      · simp [applyLive, subscribeAll_eq]
      · simp [applyLive, subscribeAll_eq]
  | block block => exact .kept rfl rfl rfl
  | transaction transaction => exact .kept rfl rfl rfl
  | closed reason =>
      simp only [applyLive]
      split
      · exact .ended rfl rfl rfl
      · exact .ended rfl rfl rfl

/-- Every input keeps the session, ends it, or hands over to the next one. -/
theorem handover_step (app : App) (now : Nat) (input : Input) :
    Handover app (app.step now input).1 (app.step now input).2 := by
  cases input with
  | press press =>
      simp only [step]
      split
      · exact handover_act app now _
      · exact .kept rfl rfl rfl
  | act action => exact handover_act app now action
  | event envelope arrival accepts =>
      simp only [step, applyEvent]
      split
      · exact handover_applyLive app now arrival accepts envelope.event
      · exact .kept rfl rfl rfl
  | tick => exact .kept rfl rfl rfl

/-- The plan for sessions never changes. -/
theorem plan_step (app : App) (now : Nat) (input : Input) :
    (app.step now input).1.plan = app.plan := by
  have plan_act : ∀ action, (app.act now action).1.plan = app.plan := by
    intro action
    cases action with
    | quit => rfl
    | connect =>
        simp only [act, connect]
        split <;> rfl
    | disconnect =>
        simp only [act, disconnect]
        split <;> rfl
  cases input with
  | press press =>
      simp only [step]
      split
      · exact plan_act _
      · rfl
  | act action => exact plan_act action
  | event envelope arrival accepts =>
      simp only [step, applyEvent]
      split
      · cases envelope.event with
        | connected server => simp [applyLive, subscribeAll_eq]
        | block block => rfl
        | transaction transaction => rfl
        | closed reason =>
            simp only [applyLive]
            split <;> rfl
      · rfl
  | tick => rfl

theorem run_cons (now : Nat) (input : Input) (rest : List (Nat × Input)) (app : App) :
    run ((now, input) :: rest) app =
      ((run rest (app.step now input).1).1,
        (app.step now input).2 ++ (run rest (app.step now input).1).2) := rfl

theorem run_append (front back : List (Nat × Input)) (app : App) :
    run (front ++ back) app =
      ((run back (run front app).1).1, (run front app).2 ++ (run back (run front app).1).2) := by
  induction front generalizing app with
  | nil => rfl
  | cons timed rest ih =>
      rcases timed with ⟨now, input⟩
      simp [run_cons, ih]

/-- The count of sessions never falls. -/
theorem started_le_run (inputs : List (Nat × Input)) (app : App) :
    app.started ≤ (run inputs app).1.started := by
  induction inputs generalizing app with
  | nil => exact Nat.le_refl _
  | cons timed rest ih =>
      rcases timed with ⟨now, input⟩
      have later := ih (app.step now input).1
      rw [run_cons]
      cases handover_step app now input with
      | kept held count none_issued => exact count ▸ later
      | ended held count none_issued => exact count ▸ later
      | begun held count one_issued =>
          simp only
          omega

/-- The generations that were given out are counted by the number of sessions that were started. -/
theorem le_started_of_mem_issued {inputs : List (Nat × Input)} {app : App} {generation : Nat}
    (given : generation ∈ issued (run inputs app).2) : generation ≤ (run inputs app).1.started := by
  induction inputs generalizing app with
  | nil => simp [run, issued] at given
  | cons timed rest ih =>
      rcases timed with ⟨now, input⟩
      rw [run_cons, issued_append] at given
      rcases List.mem_append.mp given with now_given | later_given
      · have later := started_le_run rest (app.step now input).1
        rw [run_cons]
        cases handover_step app now input with
        | kept held count none_issued => simp [none_issued] at now_given
        | ended held count none_issued => simp [none_issued] at now_given
        | begun held count one_issued =>
            rw [one_issued, List.mem_singleton] at now_given
            simp only
            omega
      · exact ih later_given

/-- A session that was started and is not held. -/
structure Superseded (generation : Nat) (app : App) : Prop where
  given : generation ≤ app.started
  not_held : app.generation? ≠ some generation

/-- A session that was superseded stays so. -/
theorem superseded_step {generation : Nat} {app : App} (superseded : Superseded generation app)
    (now : Nat) (input : Input) : Superseded generation (app.step now input).1 := by
  have given := superseded.given
  cases handover_step app now input with
  | kept held count none_issued => exact ⟨by omega, held ▸ superseded.not_held⟩
  | ended held count none_issued => exact ⟨by omega, by simp [held]⟩
  | begun held count one_issued =>
      refine ⟨by omega, ?_⟩
      rw [held]
      intro equal
      have := Option.some.inj equal
      omega

theorem superseded_run {generation : Nat} {app : App} (superseded : Superseded generation app)
    (inputs : List (Nat × Input)) : Superseded generation (run inputs app).1 := by
  induction inputs generalizing app with
  | nil => exact superseded
  | cons timed rest ih => exact ih (superseded_step superseded timed.1 timed.2)

/-- Whether an input is an event of the session of a generation. -/
def Input.isFrom (generation : Nat) : Input → Bool
  | .event envelope _ _ => envelope.generation == generation
  | _ => false

/-- What a superseded session says has no effect. -/
theorem step_of_superseded {generation : Nat} {app : App} (superseded : Superseded generation app)
    (now : Nat) {input : Input} (late : input.isFrom generation = true) :
    app.step now input = (app, []) := by
  cases input with
  | event envelope arrival accepts =>
      have same : envelope.generation = generation := by simpa [Input.isFrom] using late
      simp [step, applyEvent, same, superseded.not_held]
  | press press => simp [Input.isFrom] at late
  | act action => simp [Input.isFrom] at late
  | tick => simp [Input.isFrom] at late

/-- A run is the same without what a superseded session says. -/
theorem run_filter_of_superseded {generation : Nat} {app : App}
    (superseded : Superseded generation app) (inputs : List (Nat × Input)) :
    run (inputs.filter fun timed => !timed.2.isFrom generation) app = run inputs app := by
  induction inputs generalizing app with
  | nil => rfl
  | cons timed rest ih =>
      rcases timed with ⟨now, input⟩
      by_cases late : input.isFrom generation = true
      · rw [List.filter_cons_of_neg (by simp [late]), run_cons,
          step_of_superseded superseded now late]
        exact ih superseded
      · rw [List.filter_cons_of_pos (by simp [late]), run_cons, run_cons,
          ih (superseded_step superseded now input)]

/-- A session that was started and is not held any more never counts again. In every later state its
events change nothing and order nothing, and a run without them does the same. -/
theorem superseded_session_is_inert {plan : SessionPlan} {cap : Option Nat}
    {before : List (Nat × Input)} {generation : Nat}
    (given : Order.start generation ∈ ((initial plan cap).run before).2)
    (not_held : ((initial plan cap).run before).1.generation? ≠ some generation)
    (after : List (Nat × Input)) :
    (∀ now arrival accepts event,
      ((initial plan cap).run (before ++ after)).1.step now
          (.event ⟨generation, event⟩ arrival accepts) =
        (((initial plan cap).run (before ++ after)).1, [])) ∧
    (initial plan cap).run (before ++ after.filter fun timed => !timed.2.isFrom generation) =
      (initial plan cap).run (before ++ after) := by
  have counted : generation ∈ issued ((initial plan cap).run before).2 :=
    List.mem_filterMap.mpr ⟨_, given, rfl⟩
  have superseded : Superseded generation ((initial plan cap).run before).1 :=
    ⟨le_started_of_mem_issued counted, not_held⟩
  constructor
  · intro now arrival accepts event
    rw [run_append]
    exact step_of_superseded (superseded_run superseded after) now (by simp [Input.isFrom])
  · rw [run_append, run_append, run_filter_of_superseded superseded]

/-- The first session of an application that starts two is such a session. -/
theorem superseded_session_is_inert_of_reconnect :
    let before : List (Nat × Input) := [(0, .act .connect), (5, .act .connect)]
    let after : List (Nat × Input) :=
      [(7, .event ⟨2, .connected none⟩ ⟨1, 2, 3⟩ fun _ => true),
        (8, .event ⟨1, .closed none⟩ ⟨1, 2, 4⟩ fun _ => true)]
    let start := initial ⟨"ws://node/ws", .ofParts 10 0⟩ (some 3)
    Order.start 1 ∈ (start.run before).2 ∧ (start.run before).1.generation? ≠ some 1 ∧
      (start.run (before ++ after)).1.step 9
          (.event ⟨1, .connected none⟩ ⟨1, 2, 5⟩ fun _ => true) =
        ((start.run (before ++ after)).1, []) ∧
      start.run (before ++ after.filter fun timed => !timed.2.isFrom 1) =
        start.run (before ++ after) := by
  intro before after start
  have given : Order.start 1 ∈ (start.run before).2 := by decide
  have not_held : (start.run before).1.generation? ≠ some 1 := by decide
  have inert := superseded_session_is_inert given not_held after
  exact ⟨given, not_held, inert.1 9 ⟨1, 2, 5⟩ (fun _ => true) (.connected none), inert.2⟩

end App

end LedgerBoard
