import LedgerBoard.Proofs.Dashboard.Generations

/-!
# What an input can do

`Change` lists everything that one input can do to an application, with the conditions under which
it does and with what is ordered; `change_step` says that every step is one of these. The footer,
the count of ticks and the wish to quit are left open, as nothing else depends on them.
-/

namespace LedgerBoard.App

/-- The subscriptions to both topics that a handle asks for next. -/
def nextSubscriptions (handle : Handle) : List Subscription :=
  [⟨Handle.subscriptionId handle.next, .blocks⟩,
    ⟨Handle.subscriptionId (handle.next + 1), .transactions⟩]

/-- What ends the session of a handle: it is asked to drop its subscriptions, and then to go. -/
def farewells (subscriptions : List Subscription) (handle : Handle) : List Order :=
  (subscriptions.map (fun (held : Subscription) => Request.unsubscribe held.id) ++
    [Request.disconnect]).map (Order.request handle.generation)

/-- Everything that an input can do. -/
inductive Change (app : App) : Input → App → List Order → Prop where
  | idle {input : Input} (notice : Option Notice) (ticks : Nat) (quits : Bool) :
      Change app input { app with notice, ticks, quits } []
  | begun {input : Input} (notice : Option Notice) (free : app.dashboard.isConnected = false) :
      Change app input
        { app with
          handle := some (.ofGeneration (app.started + 1))
          subscriptions := []
          started := app.started + 1
          notice }
        (app.generation?.toList.map (fun old => .request old .disconnect) ++
          [.start (app.started + 1)])
  /-- The user ends the session, if there is one. -/
  | left {input : Input} (notice : Option Notice) :
      Change app input
        { app with
          handle := none
          subscriptions := []
          dashboard := app.dashboard.markDisconnected
          notice }
        (app.handle.elim [] (farewells app.subscriptions))
  | welcomed {handle : Handle} {server : Option String} {arrival : ClockTime}
      {accepts : Topic → Bool} (notice : Option Notice) (held : app.handle = some handle) :
      Change app (.event ⟨handle.generation, .connected server⟩ arrival accepts)
        { app with
          dashboard := app.dashboard.markConnected
          handle := some { handle with next := handle.next + 1 + 1 }
          subscriptions :=
            app.subscriptions ++ (nextSubscriptions handle).filter (accepts ·.topic)
          notice }
        ((nextSubscriptions handle).map fun subscription =>
          .request handle.generation (.subscribe subscription))
  | block {handle : Handle} {block : Block} {arrival : ClockTime} {accepts : Topic → Bool}
      (held : app.handle = some handle) :
      Change app (.event ⟨handle.generation, .block block⟩ arrival accepts)
        { app with dashboard := (app.dashboard.showBlock arrival block).1 } []
  | transaction {handle : Handle} {transaction : Transaction} {arrival : ClockTime}
      {accepts : Topic → Bool} (held : app.handle = some handle) :
      Change app (.event ⟨handle.generation, .transaction transaction⟩ arrival accepts)
        { app with dashboard := (app.dashboard.showTransaction arrival transaction).1 } []
  /-- The session says that it is over. -/
  | lost {handle : Handle} {reason : Option String} {arrival : ClockTime} {accepts : Topic → Bool}
      (notice : Option Notice) (held : app.handle = some handle) :
      Change app (.event ⟨handle.generation, .closed reason⟩ arrival accepts)
        { app with
          handle := none
          subscriptions := []
          dashboard := app.dashboard.markDisconnected
          notice } []

section Spec

variable (app : App) (now : Nat)

/-- Connecting starts a session, or does nothing. -/
theorem change_connect (input : Input) :
    Change app input (app.connect now).1 (app.connect now).2 := by
  rw [connect]
  split
  · rename_i enabled
    exact .begun _ (by simpa [Dashboard.controls] using enabled)
  · exact .idle app.notice app.ticks app.quits

/-- Disconnecting leaves a session, if there is one. -/
theorem change_disconnect (input : Input) :
    Change app input (app.disconnect now).1 (app.disconnect now).2 := by
  have ended := @Change.left app input
  rw [disconnect]
  cases held : app.handle with
  | none =>
      rw [held] at ended
      exact ended app.notice
  | some handle =>
      rw [held] at ended
      exact ended _

theorem change_act (input : Input) (action : Action) :
    Change app input (app.act now action).1 (app.act now action).2 := by
  cases action with
  | quit => exact .idle app.notice app.ticks true
  | connect => exact change_connect app now input
  | disconnect => exact change_disconnect app now input

/-- The session is asked for both topics, and the requests that it takes count. -/
theorem subscribeAll_of_held (accepts : Topic → Bool) {handle : Handle}
    (held : app.handle = some handle) :
    app.subscribeAll accepts =
      ({ app with
          handle := some { handle with next := handle.next + 1 + 1 }
          subscriptions :=
            app.subscriptions ++ (nextSubscriptions handle).filter (accepts ·.topic) },
        (nextSubscriptions handle).map fun subscription =>
          .request handle.generation (.subscribe subscription)) := by
  rw [subscribeAll_eq]
  cases blocks : accepts .blocks <;> cases transactions : accepts .transactions <;>
    simp [subscribe, held, Handle.subscribe, nextSubscriptions, blocks, transactions]

/-- An event of the session that is held does what its kind says. -/
theorem change_applyLive (arrival : ClockTime) (accepts : Topic → Bool) (event : SessionEvent)
    {handle : Handle} (held : app.handle = some handle) :
    Change app (.event ⟨handle.generation, event⟩ arrival accepts)
      (app.applyLive now arrival accepts event).1 (app.applyLive now arrival accepts event).2 := by
  cases event with
  | connected server =>
      have subscribed := subscribeAll_of_held app.showConnected accepts held
      simp only [applyLive, subscribed]
      exact .welcomed _ held
  | block block => exact .block held
  | transaction transaction => exact .transaction held
  | closed reason =>
      simp only [applyLive]
      split
      · exact .lost _ held
      · exact .lost app.notice held

/-- Every step is one of the changes that `Change` lists. -/
theorem change_step (input : Input) :
    Change app input (app.step now input).1 (app.step now input).2 := by
  cases input with
  | press press =>
      simp only [step]
      split
      · exact change_act app now _ _
      · exact .idle app.notice app.ticks app.quits
  | act action => exact change_act app now _ action
  | event envelope arrival accepts =>
      simp only [step, applyEvent]
      split
      · rename_i live
        rcases Option.map_eq_some_iff.mp live with ⟨handle, held, same⟩
        rcases envelope with ⟨generation, event⟩
        cases same
        exact change_applyLive app now arrival accepts event held
      · exact .idle app.notice app.ticks app.quits
  | tick => exact .idle _ (app.ticks + 1) app.quits

end Spec

end LedgerBoard.App
