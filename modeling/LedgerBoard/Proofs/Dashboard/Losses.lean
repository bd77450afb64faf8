import LedgerBoard.Proofs.Dashboard.Applied
import LedgerBoard.Proofs.Session.Parting

/-!
# Sessions that are lost

A session that the application holds ends for a cause only, as nobody asks it to end. So whenever
the application gives a session up without being told to, the footer gives the cause, and tells a
session that the node had accepted from one that it had not.
-/

namespace LedgerBoard

namespace App

section Steps

variable {app next : App} {now : Nat} {input : Input} {orders : List Order} {generation : Nat}

/-- An application that is connected no longer holds no session. -/
theorem released_of_change (change : Change app input next orders)
    (connected : app.dashboard.isConnected = true)
    (not_connected : next.dashboard.isConnected = false) :
    next.generation? = none := by
  cases change with
  | idle notice ticks quits =>
      rw [connected] at not_connected
      cases not_connected
  | begun notice free =>
      rw [connected] at free
      cases free
  | left notice => rfl
  | welcomed notice held => cases not_connected
  | block held => simp [connected] at not_connected
  | transaction held => simp [connected] at not_connected
  | lost notice held => rfl

/-- A session is given up only for what the user asks, or when it says that it is over. -/
theorem closed_of_released (live : app.generation? = some generation)
    (released : (app.step now input).1.generation? ≠ some generation)
    (not_left : input.action? app.dashboard.controls ≠ some .disconnect)
    (not_replaced : input.action? app.dashboard.controls = some .connect →
      app.dashboard.isConnected = true) :
    ∃ reason, app.applied? input = some ⟨generation, .closed reason⟩ := by
  have kept_act : ∀ action, input.action? app.dashboard.controls = some action →
      (app.act now action).1.generation? = some generation := by
    intro action asked
    cases action with
    | quit => exact live
    | connect => simpa [act, connect, Dashboard.controls, not_replaced asked] using live
    | disconnect => exact absurd asked not_left
  cases input with
  | press press =>
      simp only [step] at released
      split at released
      · exact absurd (kept_act _ ‹_›) released
      · exact absurd live released
  | act action => exact absurd (kept_act action rfl) released
  | tick => exact absurd live released
  | event envelope arrival accepts =>
      simp only [step, applyEvent] at released
      split at released
      · rename_i same
        rcases envelope with ⟨other, event⟩
        cases live.symm.trans same
        cases event with
        | closed reason =>
            refine ⟨reason, ?_⟩
            rw [applied?, if_pos live]
        | connected server =>
            refine absurd ?_ released
            simp only [applyLive, subscribeAll_eq, generation?_announce, generation?_subscribe]
            exact live
        | block block => exact absurd live released
        | transaction transaction => exact absurd live released
      · exact absurd live released

/-- What the footer says of a session that ends for a cause. -/
def lossText (accepted : Bool) (cause : String) : String :=
  if accepted then "Connection lost: " ++ cause else "Connect failed: " ++ cause

/-- The two wordings cannot be confused, whatever the causes. -/
theorem lossText_eq_iff (accepted : Bool) (cause : String) :
    (lossText accepted cause = "Connection lost: " ++ cause ↔ accepted = true) ∧
      (lossText accepted cause = "Connect failed: " ++ cause ↔ accepted = false) := by
  have differ : "Connection lost: " ≠ "Connect failed: " := by decide
  cases accepted with
  | true => simp [lossText, String.append_left_inj, differ]
  | false => simp [lossText, String.append_left_inj, differ.symm]

/-- The footer tells how the session ended. -/
theorem notice_of_closed {reason : String}
    (applied : app.applied? input = some ⟨generation, .closed (some reason)⟩) :
    (app.step now input).1.notice =
      some ⟨lossText app.dashboard.isConnected reason, now + noticeLife⟩ := by
  cases input with
  | event envelope arrival accepts =>
      rw [applied?] at applied
      split at applied
      · rename_i live
        cases applied
        rw [step, applyEvent, if_pos live]
        rfl
      · cases applied
  | _ => cases applied

end Steps

end App

namespace Ensemble

section Applied

variable {ensemble : Ensemble} {generation : Nat}

theorem closed_of_released {now : Nat} {move : Move}
    (live : ensemble.app.generation? = some generation)
    (released : (ensemble.step now move).app.generation? ≠ some generation)
    (not_left : ensemble.actionIn? move ≠ some .disconnect)
    (not_replaced : ensemble.actionIn? move = some .connect →
      ensemble.app.dashboard.isConnected = true) :
    ∃ reason, ensemble.appliedIn? move = some ⟨generation, .closed reason⟩ := by
  rw [app_step] at released
  rw [actionIn?] at not_left not_replaced
  rw [appliedIn?]
  cases taken : ensemble.inputIn? move with
  | none =>
      rw [taken] at released
      exact absurd live released
  | some input =>
      rw [taken] at released not_left not_replaced
      exact App.closed_of_released live released not_left not_replaced

theorem released_of_disconnected {now : Nat} {move : Move}
    (connected : ensemble.app.dashboard.isConnected = true)
    (not_connected : (ensemble.step now move).app.dashboard.isConnected = false) :
    (ensemble.step now move).app.generation? = none := by
  rw [app_step] at not_connected ⊢
  cases taken : ensemble.inputIn? move with
  | none =>
      rw [taken] at not_connected
      cases connected.symm.trans not_connected
  | some input =>
      rw [taken] at not_connected
      exact App.released_of_change (App.change_step ensemble.app now input) connected not_connected

/-- The footer tells how the session ended that the application hears of in a move. -/
theorem notice_of_closed (now : Nat) {move : Move} {reason : String}
    (applies : ensemble.appliedIn? move = some ⟨generation, .closed (some reason)⟩) :
    (ensemble.step now move).app.notice =
      some ⟨App.lossText ensemble.app.dashboard.isConnected reason, now + App.noticeLife⟩ := by
  rcases Option.bind_eq_some_iff.mp applies with ⟨input, taken, applies⟩
  rw [app_step, taken]
  exact App.notice_of_closed applies

end Applied

section Runs

variable (plan : SessionPlan) (cap : Option Nat) (moves : List (Nat × Move)) {generation : Nat}

/-- A session that is held was not asked to end, so there is a cause when it says that it is
over. -/
theorem cause_of_closed {reason : Option String} {rest : List Envelope}
    (live : ((initial plan cap).run moves).app.generation? = some generation)
    (waiting : ((initial plan cap).run moves).channel = ⟨generation, .closed reason⟩ :: rest) :
    ∃ cause, reason = some cause.message ∧
      Session.EndsFor plan (((initial plan cap).chronicle moves).turns generation)
        (some cause) := by
  rcases Option.map_eq_some_iff.mp live with ⟨handle, held, rfl⟩
  have said := (recorded_run plan cap moves).said handle.generation
  have reported : .closed reason ∈
      ((initial plan cap).run moves).saidBy ((initial plan cap).chronicle moves)
        handle.generation := by
    rw [saidBy, onItsWay, waiting]
    simp [eventsFrom]
  rw [said] at reported
  rcases Session.endsFor_of_closed reported with ⟨cause, ends, rfl⟩
  cases cause with
  | some cause => exact ⟨cause, rfl, ends⟩
  | none =>
      rcases Session.askedToEnd_of_endsFor ends with ⟨front, weather, input, back, split, asks, -⟩
      have unasked := ((inStep_run plan cap moves).held handle held).unasked (weather, input)
        (by rw [split]; simp)
      rw [unasked] at asks
      cases asks

/-- A session that is given up without being asked has ended for a cause, and the footer gives
it. -/
theorem loss_of_released {now : Nat} {move : Move}
    (live : ((initial plan cap).run moves).app.generation? = some generation)
    (released : (((initial plan cap).run moves).step now move).app.generation? ≠ some generation)
    (not_left : ((initial plan cap).run moves).actionIn? move ≠ some .disconnect)
    (not_replaced : ((initial plan cap).run moves).actionIn? move = some .connect →
      ((initial plan cap).run moves).app.dashboard.isConnected = true) :
    ∃ cause, Session.EndsFor plan (((initial plan cap).chronicle moves).turns generation)
      (some cause) ∧
      (((initial plan cap).run moves).step now move).app.notice =
        some ⟨App.lossText ((initial plan cap).run moves).app.dashboard.isConnected cause.message,
          now + App.noticeLife⟩ := by
  rcases closed_of_released live released not_left not_replaced with ⟨reason, applies⟩
  rcases deliver_of_appliedIn applies with ⟨-, arrival, meanwhile, rest, -, waiting⟩
  rcases cause_of_closed plan cap moves live waiting with ⟨cause, rfl, ends⟩
  exact ⟨cause, ends, notice_of_closed now applies⟩

/-- Whatever the application, its sessions and their nodes do: the session that is held never says
without a reason that it is over, and the reason is the cause of its end. When the dashboard is
connected no longer and the user did not ask for that, the footer says that the connection was lost,
and for which cause. When a session that the node has not accepted is given up and the user asked
neither for that nor for another one, the footer says that connecting failed, and for which cause.
It speaks of a lost connection just if the application had applied the news that the node accepted
this session. -/
theorem no_silent_loss :
    let start := initial plan cap
    let before := start.run moves
    let turns := (start.chronicle moves).turns
    let accepted := fun generation => ∃ server,
      ⟨generation, .connected server⟩ ∈ applied moves start
    (∀ generation reason rest, before.app.generation? = some generation →
      before.channel = ⟨generation, .closed reason⟩ :: rest →
      ∃ cause, reason = some cause.message ∧ Session.EndsFor plan (turns generation) (some cause)) ∧
    ∀ now move,
      let after := before.step now move
      let tells := fun text : String => after.app.notice = some ⟨text, now + App.noticeLife⟩
      (before.app.dashboard.isConnected = true → after.app.dashboard.isConnected = false →
        before.actionIn? move ≠ some .disconnect →
        ∃ generation cause, before.app.generation? = some generation ∧ accepted generation ∧
          Session.EndsFor plan (turns generation) (some cause) ∧
          tells ("Connection lost: " ++ cause.message)) ∧
      (∀ generation, before.app.generation? = some generation → before.app.isConnecting = true →
        after.app.generation? ≠ some generation → before.actionIn? move ≠ some .connect →
        before.actionIn? move ≠ some .disconnect →
        ∃ cause, ¬accepted generation ∧ Session.EndsFor plan (turns generation) (some cause) ∧
          tells ("Connect failed: " ++ cause.message)) ∧
      ∀ generation reason, before.appliedIn? move = some ⟨generation, .closed (some reason)⟩ →
        (tells ("Connection lost: " ++ reason) ↔ accepted generation) ∧
        (tells ("Connect failed: " ++ reason) ↔ ¬accepted generation) := by
  intro start before turns accepted
  have accepted_iff : ∀ {generation}, before.app.generation? = some generation →
      (before.app.dashboard.isConnected = true ↔ accepted generation) :=
    fun live => isConnected_iff_applied plan cap moves live
  refine ⟨fun _ _ _ live waiting => cause_of_closed plan cap moves live waiting, ?_⟩
  intro now move after tells
  refine ⟨?_, ?_, ?_⟩
  · intro connected not_connected not_left
    have faithful := faithful_run plan cap moves
    rcases Option.isSome_iff_exists.mp (faithful.held connected) with ⟨generation, live⟩
    have released : after.app.generation? ≠ some generation := by
      rw [released_of_disconnected connected not_connected]
      exact nofun
    rcases loss_of_released plan cap moves live released not_left fun _ => connected with
      ⟨cause, ends, notice⟩
    rw [connected] at notice
    exact ⟨generation, cause, live, (accepted_iff live).mp connected, ends, notice⟩
  · intro generation live connecting released not_replaced not_left
    have not_connected : before.app.dashboard.isConnected = false := by
      simp only [App.isConnecting, Bool.and_eq_true, Bool.not_eq_true'] at connecting
      exact connecting.2
    rcases loss_of_released plan cap moves live released not_left fun asked =>
      absurd asked not_replaced with
      ⟨cause, ends, notice⟩
    rw [not_connected] at notice
    refine ⟨cause, ?_, ends, notice⟩
    rw [← accepted_iff live, not_connected]
    exact Bool.false_ne_true
  · intro generation reason applies
    have live := (deliver_of_appliedIn applies).1
    have notice := notice_of_closed now applies
    have told : ∀ text, tells text ↔
        App.lossText before.app.dashboard.isConnected reason = text := by
      intro text
      show (before.step now move).app.notice = _ ↔ _
      rw [notice]
      simp
    have wordings := App.lossText_eq_iff before.app.dashboard.isConnected reason
    rw [← accepted_iff live, told, told, wordings.1, wordings.2, Bool.not_eq_true]
    exact ⟨Iff.rfl, Iff.rfl⟩

end Runs

/-- The transport of an accepted session ends without a word. -/
theorem no_silent_loss_of_silent_end :
    let plan : SessionPlan := ⟨"ws://node/ws", .ofParts 10 0⟩
    let moves : List (Nat × Move) :=
      [(0, .act .connect), (1, .session (.hear 1 none (.dialled (.ok ())))),
        (2, .session (.hear 1 none (.message (.text "CONNECTED\n\n\x00")))),
        (3, .session (.post 1)), (4, .deliver ⟨1, 2, 3⟩ fun _ => []),
        (5, .session (.hear 1 none .ended)), (6, .session (.post 1))]
    let last : Move := .deliver ⟨1, 2, 4⟩ fun _ => []
    let before := (initial plan none).run moves
    let after := before.step 7 last
    before.app.dashboard.isConnected = true ∧ after.app.dashboard.isConnected = false ∧
      before.actionIn? last ≠ some .disconnect ∧
      after.app.notice = some ⟨"Connection lost: " ++ "connection closed unexpectedly", 3007⟩ ∧
      ∃ generation cause, before.app.generation? = some generation ∧
        Session.EndsFor plan (((initial plan none).chronicle moves).turns generation) (some cause) ∧
        cause.message = "connection closed unexpectedly" := by
  intro plan moves last before after
  have connected : before.app.dashboard.isConnected = true := by decide +kernel
  have not_connected : after.app.dashboard.isConnected = false := by decide +kernel
  have not_left : before.actionIn? last ≠ some .disconnect := by decide +kernel
  have notice : after.app.notice =
      some ⟨"Connection lost: " ++ "connection closed unexpectedly", 3007⟩ := by decide +kernel
  rcases ((no_silent_loss plan none moves).2 7 last).1 connected not_connected not_left with
    ⟨generation, cause, live, -, ends, told⟩
  have same : "Connection lost: " ++ cause.message =
      "Connection lost: " ++ "connection closed unexpectedly" :=
    congrArg Notice.text (Option.some.inj (told.symm.trans notice))
  exact ⟨connected, not_connected, not_left, notice, generation, cause, live, ends,
    (String.append_right_inj _).mp same⟩

end Ensemble

end LedgerBoard
