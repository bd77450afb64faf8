import LedgerBoard.Proofs.Watch.Lines

/-!
# How watching ends

Watching ends well only if a shutdown was asked for. Without one it ends with the reason of its
session, or with the cause for which a line could not be written. Unless that happens, everything
that the session reported before it was over is written, and once a shutdown was asked for nothing
is asked of the session but that it ends, once.
-/

namespace LedgerBoard

namespace Watch

section Quiet

variable {watch : Watch}

/-- A watch without a handle asks nothing of its session. -/
theorem quiet_turn (free : watch.handle = none) (input : Input) :
    (watch.turn input).1.handle = none ∧ (watch.turn input).2 = [] := by
  have turned := watch.turned input
  generalize watch.turn input = result at turned
  rcases result with ⟨next, requests⟩
  cases turned with
  | shut running first =>
      rw [free]
      exact ⟨rfl, rfl⟩
  | welcomed running held =>
      rw [free] at held
      cases held
  | ended ended => exact ⟨free, rfl⟩
  | again running shut => exact ⟨free, rfl⟩
  | late running free => exact ⟨free, rfl⟩
  | wrote running names => exact ⟨free, rfl⟩
  | broke running names fails split => exact ⟨rfl, rfl⟩
  | closed running => exact ⟨rfl, rfl⟩
  | silenced running => exact ⟨rfl, rfl⟩

/-- A watch that has given up its session asks nothing of it. -/
theorem quiet_run (free : watch.handle = none) (inputs : List Input) :
    (run inputs watch).2 = [] := by
  induction inputs generalizing watch with
  | nil => rfl
  | cons input rest ih =>
      have quiet := quiet_turn free input
      show (watch.turn input).2 ++ (run rest (watch.turn input).1).2 = []
      rw [quiet.2, ih quiet.1]
      rfl

/-- When a shutdown is asked for, the handle goes, and nothing but the end is asked for. -/
theorem turn_shutdown
    (held : watch.handle.isSome = true ↔ watch.state = .running ∧ watch.shuttingDown = false) :
    (watch.turn .shutdown).1.handle = none ∧ (watch.turn .shutdown).2 <+: [.disconnect] := by
  have turned := watch.turned .shutdown
  generalize watch.turn .shutdown = result at turned
  rcases result with ⟨next, requests⟩
  have free (not_held : ¬(watch.state = .running ∧ watch.shuttingDown = false)) :
      watch.handle = none := by
    rw [← held] at not_held
    exact Option.not_isSome_iff_eq_none.mp not_held
  cases turned with
  | ended ended => exact ⟨free fun running => ended running.1, List.nil_prefix⟩
  | again running shut =>
      refine ⟨free fun first => ?_, List.nil_prefix⟩
      rw [shut] at first
      cases first.2
  | shut running first =>
      refine ⟨rfl, ?_⟩
      show (if watch.handle.isSome then [Request.disconnect] else []) <+: [.disconnect]
      split
      · exact List.prefix_refl _
      · exact List.nil_prefix

/-- A watch that has ended does nothing more. -/
theorem turn_of_ended (ended : watch.state ≠ .running) (input : Input) :
    watch.turn input = (watch, []) := by
  have turned := watch.turned input
  generalize watch.turn input = result at turned
  rcases result with ⟨next, requests⟩
  cases turned with
  | ended ended => rfl
  | _ => exact absurd ‹_› ended

/-- No watch runs after it has heard that its session is over. -/
theorem ended_of_closed (watch : Watch) (reason : Option String) (outlet : Outlet) :
    (watch.turn (.event (.closed reason) outlet)).1.state ≠ .running := by
  have turned := watch.turned (.event (.closed reason) outlet)
  generalize watch.turn (.event (.closed reason) outlet) = result at turned
  rcases result with ⟨next, requests⟩
  cases turned with
  | ended ended => exact ended
  | wrote running names => cases names
  | broke running names fails split => cases names
  | closed running => cases reason <;> nofun

/-- Only a shutdown makes a watch shut down. -/
theorem eq_shutdown_of_shuttingDown {input : Input} (first : watch.shuttingDown = false)
    (shut : (watch.turn input).1.shuttingDown = true) :
    watch.state = .running ∧ input = .shutdown := by
  have turned := watch.turned input
  generalize watch.turn input = result at turned shut
  rcases result with ⟨next, requests⟩
  cases turned with
  | shut running first => exact ⟨running, rfl⟩
  | _ =>
      rw [first] at shut
      cases shut

/-- Watching fails for a cause for which a write or the flush of a line fails in its last turn. -/
theorem failsFor_of_broken {input : Input} {cause : String} (running : watch.state = .running)
    (broken : (watch.turn input).1.state = .failed (.output cause)) :
    ∃ event outlet, input = .event event outlet ∧ outlet.FailsFor cause := by
  have turned := watch.turned input
  generalize watch.turn input = result at turned broken
  rcases result with ⟨next, requests⟩
  cases turned with
  | broke running names fails split =>
      cases broken
      exact ⟨_, _, rfl, fails⟩
  | ended ended => exact absurd running ended
  | closed running =>
      rename_i reason outlet
      cases reason <;> cases broken
  | silenced running => cases broken
  | _ => cases running.symm.trans broken

end Quiet

end Watch

namespace WatchRun

section Ends

variable {last : WatchRun}

/-- A shutdown was asked for while the watch was running. -/
def ShutdownAsked (moves : List Move) (begun : WatchRun) : Prop :=
  ∃ front back, moves = front ++ .shutdown :: back ∧ (run front begun).watch.state = .running

theorem run_singleton (move : Move) (begun : WatchRun) :
    run [move] begun = (begun.step move).1 := rfl

theorem eq_shutdown_of_inputIn? {move : Move} (taken : last.inputIn? move = some .shutdown) :
    move = .shutdown := by
  cases move with
  | shutdown => rfl
  | deliver outlet =>
      rw [inputIn?.eq_def] at taken
      cases waiting : last.channel with
      | cons event rest => simp [waiting] at taken
      | nil => simp [waiting] at taken
  | take fault => cases taken
  | hear fault input => cases taken

theorem eq_deliver_of_inputIn? {move : Move} {event : SessionEvent} {outlet : Outlet}
    (taken : last.inputIn? move = some (.event event outlet)) : move = .deliver outlet := by
  cases move with
  | deliver other =>
      rw [inputIn?.eq_def] at taken
      cases waiting : last.channel with
      | cons first rest =>
          simp only [waiting, Option.some.injEq, Watch.Input.event.injEq] at taken
          rw [taken.2]
      | nil => simp [waiting] at taken
  | shutdown => cases taken
  | take fault => cases taken
  | hear fault input => cases taken

/-- A watch that is shutting down and was not at first was asked to, in the last move or in one
before. -/
theorem shutdownAsked_of_shuttingDown {begun : WatchRun} {moves : List Move}
    (first : begun.watch.shuttingDown = false)
    (shut : (run moves begun).watch.shuttingDown = true) :
    ShutdownAsked moves begun := by
  induction moves using List.reverseRecOn with
  | nil =>
      rw [run, List.foldl_nil, first] at shut
      cases shut
  | append_singleton front move ih =>
      cases before : (run front begun).watch.shuttingDown with
      | true =>
          rcases ih before with ⟨earlier, later, rfl, running⟩
          refine ⟨earlier, later ++ [move], ?_, running⟩
          rw [List.append_assoc, List.cons_append]
      | false =>
          rw [run_append, run_singleton, watch_step] at shut
          cases taken : (run front begun).inputIn? move with
          | none =>
              rw [taken] at shut
              exact absurd (before.symm.trans shut) Bool.false_ne_true
          | some input =>
              rw [taken, Option.toList_some, Watch.run_singleton] at shut
              rcases Watch.eq_shutdown_of_shuttingDown before shut with ⟨running, rfl⟩
              rw [eq_shutdown_of_inputIn? taken]
              exact ⟨front, [], rfl, running⟩

/-- From a shutdown on nothing is asked of the session, or its end and nothing else. -/
theorem requested_of_shutdown
    (held : last.watch.handle.isSome = true ↔
      last.watch.state = .running ∧ last.watch.shuttingDown = false)
    (moves : List Move) : requested (.shutdown :: moves) last <+: [.disconnect] := by
  have shut := Watch.turn_shutdown held
  show (last.watch.turn .shutdown).2 ++
    (Watch.run (inputs moves (last.step .shutdown).1) (last.watch.turn .shutdown).1).2 <+:
      [.disconnect]
  rw [Watch.quiet_run shut.1, List.append_nil]
  exact shut.2

/-- Nothing that happens later changes how a watch ended. -/
theorem run_of_ended (ended : last.watch.state ≠ .running) (moves : List Move) :
    (run moves last).watch = last.watch := by
  rw [watch_run]
  induction inputs moves last with
  | nil => rfl
  | cons input rest ih =>
      show (Watch.run rest (last.watch.turn input).1).1 = last.watch
      rw [Watch.turn_of_ended ended input]
      exact ih

/-- Watching fails for a cause only if one of the lines that it was to write failed for it. -/
theorem failsFor_of_broken {begun : WatchRun} {moves : List Move} {cause : String}
    (running : begun.watch.state = .running)
    (broken : (run moves begun).watch.state = .failed (.output cause)) :
    ∃ outlet, .deliver outlet ∈ moves ∧ outlet.FailsFor cause := by
  induction moves using List.reverseRecOn with
  | nil => cases running.symm.trans broken
  | append_singleton front move ih =>
      by_cases still : (run front begun).watch.state = .running
      · rw [run_append, run_singleton, watch_step] at broken
        cases taken : (run front begun).inputIn? move with
        | none =>
            rw [taken] at broken
            cases still.symm.trans broken
        | some input =>
            rw [taken, Option.toList_some, Watch.run_singleton] at broken
            rcases Watch.failsFor_of_broken still broken with ⟨event, outlet, rfl, fails⟩
            exact ⟨outlet, List.mem_append_right _
              (List.mem_singleton.mpr (eq_deliver_of_inputIn? taken).symm), fails⟩
      · rw [run_append, run_of_ended still] at broken
        rcases ih broken with ⟨outlet, mem, fails⟩
        exact ⟨outlet, List.mem_append_left _ mem, fails⟩

/-- The moves in which a watch takes what waits for it. -/
def deliveries (outlet : Nat → Outlet) (count : Nat) : List Move :=
  (List.range count).map fun number => .deliver (outlet number)

theorem deliveries_succ (outlet : Nat → Outlet) (count : Nat) :
    deliveries outlet (count + 1) =
      .deliver (outlet 0) :: deliveries (fun number => outlet (number + 1)) count := by
  rw [deliveries, List.range_succ_eq_map, List.map_cons, List.map_map]
  rfl

/-- A watch that takes all that waits for it has heard that its session is over, if that was
reported. -/
theorem ended_of_closed {reason : Option String} (reported : .closed reason ∈ last.channel)
    (outlet : Nat → Outlet) :
    (run (deliveries outlet last.channel.length) last).watch.state ≠ .running := by
  generalize queue : last.channel = channel at reported ⊢
  induction channel generalizing last outlet with
  | nil => cases reported
  | cons event rest ih =>
      rw [List.length_cons, deliveries_succ, ← List.singleton_append, run_append, run_singleton]
      have next : (last.step (.deliver (outlet 0))).1 =
          { last with channel := rest }.advance (.event event (outlet 0)) := by
        rw [step.eq_def]
        simp only [queue]
      rw [next]
      rcases List.mem_cons.mp reported with rfl | later
      · have ended := Watch.ended_of_closed last.watch reason (outlet 0)
        rw [run_of_ended ended]
        exact ended
      · exact ih _ rfl later

/-- No session makes a turn when events are delivered. -/
theorem turns_deliveries (outlet : Nat → Outlet) (count : Nat) (last : WatchRun) :
    turns (deliveries outlet count) last = [] := by
  induction count generalizing outlet last with
  | zero => rfl
  | succ count ih =>
      rw [deliveries_succ, turns, turnsIn, List.nil_append]
      exact ih _ _

end Ends

section Outcome

variable {plan : SessionPlan} {last : WatchRun} {turns : List (Session.Weather × Session.Input)}
  {heard : List SessionEvent}

/-- A watch that has ended has failed to write a line, or it has heard everything. -/
theorem Recorded.outcome (recorded : Recorded plan last turns heard)
    (ended : last.watch.state ≠ .running) :
    last.watch.Broken ∨ heard = Session.reports (Session.run plan turns .dialling).2 ∧
      (last.watch.state = .done ∧ Session.EndsFor plan turns none ∧ last.watch.shuttingDown = true ∨
        ∃ cause, last.watch.state = .failed (.sessionLost cause.message) ∧
          Session.EndsFor plan turns (some cause) ∧
          heard.getLast? = some (.closed (some cause.message))) := by
  rcases recorded.settled.resolve_left ended with broken | ⟨cause, ends, all, told, state, asked⟩
  · exact .inl broken
  · cases cause with
    | none => exact .inr ⟨all, .inl ⟨state, ends, asked rfl⟩⟩
    | some cause => exact .inr ⟨all, .inr ⟨cause, state, ends, told⟩⟩

/-- A watch that takes all that waits for it ends, if its session is over. -/
theorem Recorded.ends_of_over (recorded : Recorded plan last turns heard)
    (is_over : last.session.isOver = true) (outlet : Nat → Outlet) :
    (run (deliveries outlet last.channel.length) last).watch.state ≠ .running := by
  by_cases running : last.watch.state = .running
  · rcases recorded.exists_closed running is_over with ⟨reason, reported⟩
    exact ended_of_closed reported outlet
  · rw [run_of_ended running]
    exact running

end Outcome

/-- However a watch, its session and the node interleave, and whatever becomes of the lines: the
watch ends well only if a shutdown was asked for before, and then the session ended because it was
asked to. It ends with a reason only if that is the one for which the session ended, and which the
session reported last, and it fails to write only for a cause for which the world let a line fail. A
watch whose session is over ends as soon as it has taken what waits for it: without a shutdown with
the reason of the session, unless a line failed before. Unless that happens, the lines of all that
the session has reported are written when the watch ends, and until then only those are missing that
wait to be taken. From a shutdown on the session is asked to end at most once, and nothing else. -/
theorem success_only_after_shutdown (plan : SessionPlan) (moves : List Move) :
    let begun := start plan
    let last := run moves begun
    let ends := Session.EndsFor plan (turns moves begun)
    let said := Session.reports (Session.run plan (turns moves begun) .dialling).2
    (last.watch.state = .done → ShutdownAsked moves begun ∧ ends none) ∧
    (∀ reason, last.watch.state = .failed (.sessionLost reason) → ∃ cause,
      ends (some cause) ∧ reason = cause.message ∧ said.getLast? = some (.closed (some reason))) ∧
    (∀ cause, last.watch.state = .failed (.output cause) →
      ∃ outlet, .deliver outlet ∈ moves ∧ outlet.FailsFor cause) ∧
    (∀ outlet : Nat → Outlet,
      let settled := run (deliveries outlet last.channel.length) last
      last.session.isOver = true → settled.watch.state ≠ .running ∧
        (¬ShutdownAsked moves begun → settled.watch.Broken ∨
          ∃ cause, ends (some cause) ∧
          settled.watch.state = .failed (.sessionLost cause.message))) ∧
    (∃ events, last.watch.Told events ∧ (¬last.watch.Broken →
      said = events ++ (if last.watch.state = .running then last.channel else []))) ∧
    ∀ front back, moves = front ++ .shutdown :: back →
      requested (.shutdown :: back) (run front begun) <+: [.disconnect] := by
  intro begun last ends said
  have recorded : Recorded plan last (turns moves begun) (received moves begun) :=
    recorded_run plan moves
  have shutdown_asked (shut : last.watch.shuttingDown = true) : ShutdownAsked moves begun :=
    shutdownAsked_of_shuttingDown rfl shut
  refine ⟨?_, ?_, fun cause broken => failsFor_of_broken rfl broken, ?_, ?_, ?_⟩
  · intro done
    rcases recorded.outcome (by rw [done]; nofun) with
      ⟨cause, broken⟩ | ⟨-, ⟨-, asked, shut⟩ | ⟨cause, lost, -⟩⟩
    · cases done.symm.trans broken
    · exact ⟨shutdown_asked shut, asked⟩
    · cases done.symm.trans lost
  · intro reason failed
    rcases recorded.outcome (by rw [failed]; nofun) with
      ⟨cause, broken⟩ | ⟨all, ⟨done, -⟩ | ⟨cause, lost, asked, told⟩⟩
    · cases failed.symm.trans broken
    · cases failed.symm.trans done
    · cases failed.symm.trans lost
      exact ⟨cause, asked, rfl, (congrArg List.getLast? all.symm).trans told⟩
  · intro outlet settled is_over
    have ended : settled.watch.state ≠ .running := recorded.ends_of_over is_over outlet
    refine ⟨ended, ?_⟩
    intro not_asked
    have recorded_settled : Recorded plan settled (turns moves begun)
        (received (moves ++ deliveries outlet last.channel.length) begun) := by
      have recorded_all := recorded_run plan (moves ++ deliveries outlet last.channel.length)
      rw [run_append, turns_append, turns_deliveries, List.append_nil] at recorded_all
      exact recorded_all
    rcases recorded_settled.outcome ended with
      broken | ⟨-, ⟨done, asked, shut⟩ | ⟨cause, lost, asked, -⟩⟩
    · exact .inl broken
    · by_cases running : last.watch.state = .running
      · exact absurd (shutdown_asked (recorded.shuttingDown_of_endsFor running asked)) not_asked
      · rw [show settled.watch = last.watch from run_of_ended running _] at shut
        exact absurd (shutdown_asked shut) not_asked
    · exact .inr ⟨cause, asked, lost⟩
  · refine ⟨received moves begun, told_received plan moves, ?_⟩
    intro not_broken
    split
    · exact (recorded.said ‹_›).symm
    · rcases recorded.outcome ‹_› with broken | ⟨all, -⟩
      · exact absurd broken not_broken
      · rw [List.append_nil]
        exact all.symm
  · rintro front back rfl
    exact requested_of_shutdown (recorded_run plan front).held back

/-- A session that is accepted while it is asked to end is not asked for anything else, and ends
well. -/
theorem success_only_after_shutdown_of_late_welcome :
    let front : List Move :=
      [.hear none (.dialled (.ok ())), .hear none (.message (.text "CONNECTED\n\n\x00"))]
    let back : List Move :=
      [.deliver {}, .take none,
        .hear none (.message (.text "RECEIPT\nreceipt-id:disconnect\n\n\x00")), .deliver {}]
    let plan : SessionPlan := ⟨"ws://node/ws", .ofParts 10 0⟩
    let begun := start plan
    let moves := front ++ .shutdown :: back
    (run moves begun).watch.state = .done ∧ Session.EndsFor plan (turns moves begun) none ∧
      requested (.shutdown :: back) (run front begun) <+: [.disconnect] := by
  intro front back plan begun moves
  have done : (run moves begun).watch.state = .done := by decide +kernel
  have success := success_only_after_shutdown plan moves
  exact ⟨done, (success.1 done).2, success.2.2.2.2.2 front back rfl⟩

end WatchRun

end LedgerBoard
