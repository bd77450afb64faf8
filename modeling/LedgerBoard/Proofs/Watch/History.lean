import Mathlib.Data.List.Induction
import LedgerBoard.Proofs.Dashboard.Attuned
import LedgerBoard.Proofs.Session.Parting
import LedgerBoard.Proofs.Watch.Turns
import LedgerBoard.Watch.Run

/-!
# The history of watching

Moves in a row are told twice over: by the turns that the session makes in them, and by the inputs
that the watch takes. As long as the watch runs, what it has heard and what waits in the channel are
all that the session has reported. When it ends, writing has failed, or it has heard everything, and
how it ends is what the session ended for.
-/

namespace LedgerBoard

namespace Watch

/-- The event that a watch hears in a turn, as long as it runs. -/
def heardIn (watch : Watch) : Input → List SessionEvent
  | .event event _ => if watch.state = .running then [event] else []
  | .shutdown | .silence => []

/-- Turns in a row, and all that the session was asked. -/
def run : List Input → Watch → Watch × List Request
  | [], watch => (watch, [])
  | input :: rest, watch =>
      let (next, requests) := watch.turn input
      let (last, more) := run rest next
      (last, requests ++ more)

/-- The events that a watch hears in turns in a row. -/
def heard : List Input → Watch → List SessionEvent
  | [], _ => []
  | input :: rest, watch => watch.heardIn input ++ heard rest (watch.turn input).1

theorem run_append (front back : List Input) (watch : Watch) :
    run (front ++ back) watch =
      ((run back (run front watch).1).1,
        (run front watch).2 ++ (run back (run front watch).1).2) := by
  induction front generalizing watch with
  | nil => rfl
  | cons input rest ih => simp [run, ih]

theorem heard_append (front back : List Input) (watch : Watch) :
    heard (front ++ back) watch = heard front watch ++ heard back (run front watch).1 := by
  induction front generalizing watch with
  | nil => rfl
  | cons input rest ih => simp [run, heard, ih]

theorem run_singleton (input : Input) (watch : Watch) : run [input] watch = watch.turn input := by
  simp [run]

@[simp]
theorem heardIn_event {watch : Watch} (running : watch.state = .running) (event : SessionEvent)
    (outlet : Outlet) : watch.heardIn (.event event outlet) = [event] :=
  if_pos running

theorem heardIn_of_ended {watch : Watch} (ended : watch.state ≠ .running) (input : Input) :
    watch.heardIn input = [] := by
  cases input with
  | event event outlet => exact if_neg ended
  | _ => rfl

theorem heard_singleton (input : Input) (watch : Watch) :
    heard [input] watch = watch.heardIn input := by
  simp [heard]

end Watch

namespace WatchRun

/-- Moves in a row. -/
def run (moves : List Move) (start : WatchRun) : WatchRun :=
  moves.foldl (fun run move => (run.step move).1) start

/-- What the watch takes in a move. -/
def inputIn? (run : WatchRun) : Move → Option Watch.Input
  | .shutdown => some .shutdown
  | .deliver outlet =>
      match run.channel with
      | event :: _ => some (.event event outlet)
      | [] => if run.session.isOver then some .silence else none
  | .take _ | .hear _ _ => none

/-- The turns that the session makes in a move. -/
def turnsIn (run : WatchRun) : Move → List (Session.Weather × Session.Input)
  | .take fault =>
      (run.session.asked? run.watch.handle.isSome).toList.map fun input =>
        (run.weather fault, input)
  | .hear fault input => if input.isForeign then [(run.weather fault, input)] else []
  | .shutdown | .deliver _ => []

/-- What the watch takes in moves in a row. -/
def inputs : List Move → WatchRun → List Watch.Input
  | [], _ => []
  | move :: rest, run => (run.inputIn? move).toList ++ inputs rest (run.step move).1

/-- The turns that the session makes in moves in a row. -/
def turns : List Move → WatchRun → List (Session.Weather × Session.Input)
  | [], _ => []
  | move :: rest, run => run.turnsIn move ++ turns rest (run.step move).1

/-- The events that the watch hears in moves in a row. -/
def received (moves : List Move) (run : WatchRun) : List SessionEvent :=
  Watch.heard (inputs moves run) run.watch

/-- What the watch asks of the session in moves in a row. -/
def requested (moves : List Move) (run : WatchRun) : List Request :=
  (Watch.run (inputs moves run) run.watch).2

theorem run_append (front back : List Move) (start : WatchRun) :
    run (front ++ back) start = run back (run front start) :=
  List.foldl_append ..

theorem inputs_append (front back : List Move) (start : WatchRun) :
    inputs (front ++ back) start = inputs front start ++ inputs back (run front start) := by
  induction front generalizing start with
  | nil => rfl
  | cons move rest ih => simp [inputs, run, ih]

theorem turns_append (front back : List Move) (start : WatchRun) :
    turns (front ++ back) start = turns front start ++ turns back (run front start) := by
  induction front generalizing start with
  | nil => rfl
  | cons move rest ih => simp [turns, run, ih]

/-- In a move the watch takes its input, if there is one, and does nothing else. -/
theorem watch_step (run : WatchRun) (move : Move) :
    (run.step move).1.watch = (Watch.run (run.inputIn? move).toList run.watch).1 := by
  cases move with
  | shutdown => exact congrArg Prod.fst (Watch.run_singleton .shutdown run.watch).symm
  | deliver outlet =>
      rw [step.eq_def, inputIn?.eq_def]
      cases run.channel with
      | cons event rest =>
          exact congrArg Prod.fst (Watch.run_singleton (.event event outlet) run.watch).symm
      | nil =>
          cases run.session.isOver with
          | true => exact congrArg Prod.fst (Watch.run_singleton .silence run.watch).symm
          | false => rfl
  | take fault => rfl
  | hear fault input => rfl

/-- What a watch becomes depends on what it takes only. -/
theorem watch_run (moves : List Move) (start : WatchRun) :
    (run moves start).watch = (Watch.run (inputs moves start) start.watch).1 := by
  induction moves generalizing start with
  | nil => rfl
  | cons move rest ih =>
      rw [inputs, Watch.run_append, ← watch_step]
      exact ih _

theorem received_append (front back : List Move) (start : WatchRun) :
    received (front ++ back) start = received front start ++ received back (run front start) := by
  rw [received, inputs_append, Watch.heard_append, ← watch_run]
  rfl

theorem received_singleton (move : Move) (run : WatchRun) :
    received [move] run = (run.inputIn? move).elim [] run.watch.heardIn := by
  rw [received, inputs, inputs, List.append_nil]
  cases run.inputIn? move with
  | none => rfl
  | some input => exact Watch.heard_singleton input run.watch

/-- How watching and its session stand, after the turns of the session and with what the watch has
heard. -/
structure Recorded (plan : SessionPlan) (run : WatchRun)
    (turns : List (Session.Weather × Session.Input)) (heard : List SessionEvent) : Prop where
  planned : run.session.plan = plan
  phase : run.session.phase = (Session.run plan turns .dialling).1
  /-- As long as the watch runs, nothing that the session reports is lost, and it has not heard the
  end. -/
  hears : run.watch.state = .running → ∀ timed ∈ turns, timed.1.hearing = none
  said : run.watch.state = .running →
    heard ++ run.channel = Session.reports (Session.run plan turns .dialling).2
  unended : run.watch.state = .running → ∀ reason, .closed reason ∉ heard
  /-- Until a shutdown is asked for, the handle is held, and nothing asks the session to end. -/
  held : run.watch.handle.isSome = true ↔
    run.watch.state = .running ∧ run.watch.shuttingDown = false
  unasked : run.watch.handle.isSome = true →
    .disconnect ∉ run.session.waiting ∧ ∀ timed ∈ turns, timed.2.asksEnd = false
  settled : run.watch.state = .running ∨ run.watch.Broken ∨
    ∃ cause, Session.EndsFor plan turns cause ∧
      heard = Session.reports (Session.run plan turns .dialling).2 ∧
      heard.getLast? = some (.closed (cause.map SessionError.message)) ∧
      run.watch.state = Watch.afterClosed (cause.map SessionError.message) ∧
      (cause = none → run.watch.shuttingDown = true)

end WatchRun

namespace Session

section Endings

variable {plan : SessionPlan} {turns : List (Weather × Input)} {cause : Option SessionError}

/-- A session that is over has ended for good. -/
theorem EndsFor.append (ends : EndsFor plan turns cause) (more : List (Weather × Input)) :
    EndsFor plan (turns ++ more) cause := by
  rcases ends with ⟨front, weather, input, back, rfl, ending⟩
  refine ⟨front, weather, input, back ++ more, ?_, ending⟩
  rw [List.append_assoc, List.cons_append]

/-- After its end a session reports nothing more. -/
theorem EndsFor.run_append (ends : EndsFor plan turns cause) (more : List (Weather × Input)) :
    run plan (turns ++ more) .dialling = run plan turns .dialling := by
  rcases ends with ⟨front, weather, input, back, rfl, ending⟩
  rw [List.append_assoc, List.cons_append, run_of_ending ending, run_of_ending ending]

/-- A session whose owner listens says that it is over when it is. -/
theorem exists_closed_of_over (hears : ∀ timed ∈ turns, timed.1.hearing = none)
    (is_over : (run plan turns .dialling).1 = .over) :
    ∃ reason, .closed reason ∈ reports (run plan turns .dialling).2 := by
  rcases exists_endsFor_of_over is_over with ⟨cause, front, weather, input, back, rfl, ending⟩
  have listens := hears (weather, input) (by simp)
  refine ⟨cause.map SessionError.message, ?_⟩
  rw [run_of_ending ending, reports_append, List.mem_append]
  right
  rcases (closes_of_ending plan ending).told with ⟨news, -, told | ⟨-, gone⟩⟩
  · rw [told]
    exact List.mem_append_right _ List.mem_cons_self
  · rw [listens] at gone
    cases gone

/-- Nothing comes after the report that a session is over. -/
theorem eq_nil_of_closed {front back : List SessionEvent} {reason : Option String}
    (split : front ++ .closed reason :: back = reports (run plan turns .dialling).2) :
    back = [] := by
  have told := (consistent_run plan turns).told.isSome
  cases back with
  | nil => rfl
  | cons event rest =>
      rw [← split, ← List.singleton_append, ← List.append_assoc, stage?_append, stage?_concat]
        at told
      cases found : stage? front with
      | none => simp [found] at told
      | some stage => cases stage <;> cases event <;> simp [found, Stage.after?] at told

end Endings

end Session

namespace WatchRun

section Steps

variable {plan : SessionPlan} {run : WatchRun} {turns : List (Session.Weather × Session.Input)}
  {heard : List SessionEvent}

theorem recorded_start (plan : SessionPlan) : Recorded plan (start plan) [] [] where
  planned := rfl
  phase := rfl
  hears _ timed mem := by cases mem
  said _ := rfl
  unended _ reason mem := by cases mem
  held := by simp [start, Watch.start]
  unasked _ := ⟨List.not_mem_nil, nofun⟩
  settled := .inl rfl

/-- The session that is over has said so, and the watch that runs has yet to hear it. -/
theorem Recorded.exists_closed (recorded : Recorded plan run turns heard)
    (running : run.watch.state = .running) (is_over : run.session.isOver = true) :
    ∃ reason, .closed reason ∈ run.channel := by
  have phase_over : (Session.run plan turns .dialling).1 = .over :=
    recorded.phase.symm.trans (beq_iff_eq.mp is_over)
  rcases Session.exists_closed_of_over (recorded.hears running) phase_over with ⟨reason, told⟩
  rw [← recorded.said running, List.mem_append] at told
  exact ⟨reason, told.resolve_left (recorded.unended running reason)⟩

/-- What is asked of the session changes neither where it stands nor what it has said. -/
theorem Recorded.asks (recorded : Recorded plan run turns heard) (requests : List Request)
    (stays : run.watch.handle.isSome = true → .disconnect ∉ requests) :
    Recorded plan
      { run with
        session := requests.foldl (fun session request => session.ask request) run.session }
      turns heard := by
  rw [RunningSession.foldl_ask]
  refine ⟨?_, ?_, recorded.hears, recorded.said, recorded.unended, recorded.held, ?_,
    recorded.settled⟩
  · split
    · exact recorded.planned
    · exact recorded.planned
  · split
    · exact recorded.phase
    · exact recorded.phase
  · intro held
    refine ⟨?_, (recorded.unasked held).2⟩
    split
    · exact (recorded.unasked held).1
    · exact fun mem => (List.mem_append.mp mem).elim (recorded.unasked held).1 (stays held)

/-- The session makes some turns, and what it reports goes into the channel. -/
theorem Recorded.settle (recorded : Recorded plan run turns heard)
    {made : List (Session.Weather × Session.Input)} {result : RunningSession × List Session.Output}
    (does : run.session.Made made result)
    (hears : run.watch.state = .running → ∀ timed ∈ made, timed.1.hearing = none)
    (unasked : run.watch.handle.isSome = true →
      .disconnect ∉ result.1.waiting ∧ ∀ timed ∈ made, timed.2.asksEnd = false) :
    Recorded plan (run.settle result).1 (turns ++ made) heard := by
  have whole : Session.run plan (turns ++ made) .dialling =
      ((Session.run run.session.plan made run.session.phase).1,
        (Session.run plan turns .dialling).2 ++
          (Session.run run.session.plan made run.session.phase).2) := by
    rw [Session.run_append, recorded.planned, recorded.phase]
  refine ⟨?_, ?_, ?_, ?_, recorded.unended, recorded.held, ?_, ?_⟩
  · exact does.plan.trans recorded.planned
  · rw [whole]
    exact does.phase
  · intro running timed mem
    exact (List.mem_append.mp mem).elim (recorded.hears running timed) (hears running timed)
  · intro running
    rw [whole, Session.reports_append, ← recorded.said running, ← does.outputs, List.append_assoc]
    rfl
  · intro held
    refine ⟨(unasked held).1, ?_⟩
    intro timed mem
    exact (List.mem_append.mp mem).elim ((recorded.unasked held).2 timed) ((unasked held).2 timed)
  · rcases recorded.settled with running | broken | ⟨cause, ends, all, rest⟩
    · exact .inl running
    · exact .inr (.inl broken)
    · refine .inr (.inr ⟨cause, ends.append made, ?_, rest⟩)
      rw [ends.run_append made]
      exact all

/-- The watch takes an input that is not the end of the session, and runs on. -/
theorem Recorded.goes_on (recorded : Recorded plan run turns heard) {input : Watch.Input}
    {channel : List SessionEvent} {next : Watch} (running : run.watch.state = .running)
    (left : run.watch.heardIn input ++ channel = run.channel)
    (no_end : ∀ reason outlet, input ≠ .event (.closed reason) outlet)
    (runs : next.state = .running) (held : next.handle.isSome = true ↔ next.shuttingDown = false)
    (held_before : next.handle.isSome = true → run.watch.handle.isSome = true) :
    Recorded plan { run with watch := next, channel } turns (heard ++ run.watch.heardIn input) where
  planned := recorded.planned
  phase := recorded.phase
  hears _ := recorded.hears running
  said _ := by
    rw [List.append_assoc, left]
    exact recorded.said running
  unended _ reason mem := by
    rcases List.mem_append.mp mem with before | now
    · exact recorded.unended running reason before
    · cases input with
      | event event outlet =>
          rw [Watch.heardIn_event running, List.mem_singleton] at now
          exact no_end reason outlet (congrArg (Watch.Input.event · outlet) now.symm)
      | _ => cases now
  held := held.trans (and_iff_right runs).symm
  unasked is_held := recorded.unasked (held_before is_held)
  settled := .inl runs

/-- A session whose watch was not asked to shut down has not ended because it was asked to. -/
theorem Recorded.shuttingDown_of_endsFor (recorded : Recorded plan run turns heard)
    (running : run.watch.state = .running) (ends : Session.EndsFor plan turns none) :
    run.watch.shuttingDown = true := by
  rw [← Bool.not_eq_false]
  intro not_asked
  rcases Session.askedToEnd_of_endsFor ends with ⟨front, weather, input, back, split, asks, -⟩
  have stays := (recorded.unasked (recorded.held.mpr ⟨running, not_asked⟩)).2 (weather, input)
    (split ▸ List.mem_append_right front List.mem_cons_self)
  rw [asks] at stays
  cases stays

/-- The watch hears the end of the session, and with it everything. -/
theorem Recorded.hears_end (recorded : Recorded plan run turns heard) {reason : Option String}
    {channel : List SessionEvent} (running : run.watch.state = .running)
    (left : .closed reason :: channel = run.channel) :
    Recorded plan
      { run with
        watch := { run.watch with handle := none, state := Watch.afterClosed reason }
        channel }
      turns (heard ++ [.closed reason]) := by
  have said := recorded.said running
  rw [← left] at said
  have reported : .closed reason ∈ Session.reports (Session.run plan turns .dialling).2 :=
    said ▸ List.mem_append_right heard List.mem_cons_self
  rcases Session.endsFor_of_closed reported with ⟨cause, ends, rfl⟩
  rw [Session.eq_nil_of_closed said] at said ⊢
  have stopped : Watch.afterClosed (cause.map SessionError.message) ≠ .running := by
    cases cause <;> nofun
  refine ⟨recorded.planned, recorded.phase, fun runs => absurd runs stopped,
    fun runs => absurd runs stopped, fun runs => absurd runs stopped, ?_, nofun, .inr (.inr ?_)⟩
  · simp [stopped]
  · refine ⟨cause, ends, said, List.getLast?_concat, rfl, ?_⟩
    rintro rfl
    exact recorded.shuttingDown_of_endsFor running ends

/-- The watch takes an input, and the channel is what it leaves there. -/
theorem Recorded.advance (recorded : Recorded plan run turns heard) {input : Watch.Input}
    {channel : List SessionEvent}
    (left : run.watch.state = .running → run.watch.heardIn input ++ channel = run.channel)
    (not_silent : run.watch.state = .running → input ≠ .silence) :
    Recorded plan ({ run with channel }.advance input) turns
      (heard ++ run.watch.heardIn input) := by
  have turned := run.watch.turned input
  rw [WatchRun.advance]
  generalize run.watch.turn input = result at turned
  rcases result with ⟨next, requests⟩
  suffices watched : Recorded plan { run with watch := next, channel } turns
        (heard ++ run.watch.heardIn input) ∧
          (next.handle.isSome = true → .disconnect ∉ requests) from
    watched.1.asks requests watched.2
  have still_held (running : run.watch.state = .running) :
      run.watch.handle.isSome = true ↔ run.watch.shuttingDown = false :=
    recorded.held.trans (and_iff_right running)
  cases turned with
  | ended ended =>
      rw [Watch.heardIn_of_ended ended, List.append_nil]
      exact ⟨⟨recorded.planned, recorded.phase, recorded.hears, fun running => absurd running ended,
        recorded.unended, recorded.held, recorded.unasked, recorded.settled⟩,
        fun _ => List.not_mem_nil⟩
  | again running shut =>
      exact ⟨recorded.goes_on running (left running) nofun running (still_held running) id,
        fun _ => List.not_mem_nil⟩
  | shut running first =>
      exact ⟨recorded.goes_on running (left running) nofun running (by simp) nofun, nofun⟩
  | welcomed running held =>
      have was_held : run.watch.handle.isSome = true := Option.isSome_iff_exists.mpr ⟨_, held⟩
      refine ⟨recorded.goes_on running (left running) nofun running ?_ fun _ => was_held, ?_⟩
      · exact (iff_of_true rfl was_held).trans (still_held running)
      · simp
  | late running free =>
      exact ⟨recorded.goes_on running (left running) nofun running (still_held running) id,
        fun _ => List.not_mem_nil⟩
  | wrote running names =>
      refine ⟨recorded.goes_on running (left running) ?_ running (still_held running) id,
        fun _ => List.not_mem_nil⟩
      rintro reason outlet ⟨⟩
      cases names
  | broke running names fails split =>
      exact ⟨⟨recorded.planned, recorded.phase, nofun, nofun, nofun, by simp, nofun,
        .inr (.inl ⟨_, rfl⟩)⟩, nofun⟩
  | closed running =>
      have heard_now := left running
      rw [Watch.heardIn_event running] at heard_now ⊢
      exact ⟨recorded.hears_end running heard_now, nofun⟩
  | silenced running => exact absurd rfl (not_silent running)

/-- The watch takes whatever the session reports, as long as it runs. -/
theorem hearing_of_running (running : run.watch.state = .running) (fault : Option TransportError) :
    (run.weather fault).hearing = none := by
  rw [weather, if_pos running]

/-- While its handle is held, a session takes no request that asks it to end. -/
theorem Recorded.take_of_held (recorded : Recorded plan run turns heard)
    (held : run.watch.handle.isSome = true) (weather : Session.Weather) :
    .disconnect ∉ (run.session.take true weather).1.waiting ∧
      ∀ input, run.session.asked? true = some input → input.asksEnd = false := by
  have stays := (recorded.unasked held).1
  have taking := run.session.taking true weather
  generalize asked : run.session.asked? true = input at taking
  generalize run.session.take true weather = result at taking
  cases taking with
  | idle => exact ⟨stays, nofun⟩
  | abandoned empty => exact absurd asked App.asked?_of_held
  | request waits =>
      rename_i request rest
      rw [waits] at stays
      refine ⟨fun mem => stays (List.mem_cons_of_mem _ mem), ?_⟩
      rintro _ ⟨⟩
      cases request with
      | disconnect => exact absurd List.mem_cons_self stays
      | _ => rfl

/-- Every move keeps the record true. -/
theorem recorded_step (recorded : Recorded plan run turns heard) (move : Move) :
    Recorded plan (run.step move).1 (turns ++ run.turnsIn move)
      (heard ++ (run.inputIn? move).elim [] run.watch.heardIn) := by
  cases move with
  | shutdown =>
      rw [turnsIn, List.append_nil]
      exact recorded.advance (fun _ => rfl) nofun
  | deliver outlet =>
      rw [turnsIn, List.append_nil, step.eq_def, inputIn?.eq_def]
      cases waiting : run.channel with
      | cons event rest =>
          refine recorded.advance ?_ nofun
          intro running
          rw [waiting, Watch.heardIn_event running]
          rfl
      | nil =>
          cases is_over : run.session.isOver with
          | false =>
              rw [if_neg Bool.false_ne_true, if_neg Bool.false_ne_true, Option.elim_none,
                List.append_nil]
              exact recorded
          | true =>
              refine recorded.advance (fun _ => rfl) ?_
              intro running
              rcases recorded.exists_closed running is_over with ⟨reason, waits⟩
              rw [waiting] at waits
              cases waits
  | take fault =>
      rw [inputIn?, Option.elim_none, List.append_nil]
      refine recorded.settle (run.session.made_take _ _) ?_ ?_
      · intro running timed mem
        rcases List.mem_map.mp mem with ⟨input, -, rfl⟩
        exact hearing_of_running running fault
      · intro held
        have kept := recorded.take_of_held held (run.weather fault)
        rw [← held] at kept
        refine ⟨kept.1, ?_⟩
        intro timed mem
        rcases List.mem_map.mp mem with ⟨input, asked, rfl⟩
        exact kept.2 input (Option.mem_toList.mp asked)
  | hear fault input =>
      rw [inputIn?, Option.elim_none, List.append_nil]
      refine recorded.settle (run.session.made_hear _ _) ?_ ?_
      · intro running timed mem
        rw [turnsIn] at mem
        split at mem
        · rw [List.mem_singleton.mp mem]
          exact hearing_of_running running fault
        · cases mem
      · intro held
        have same_queue :
            (run.session.hear (run.weather fault) input).1.waiting = run.session.waiting := by
          rw [RunningSession.hear]
          split <;> rfl
        refine ⟨same_queue ▸ (recorded.unasked held).1, ?_⟩
        intro timed mem
        rw [turnsIn] at mem
        split at mem
        · rw [List.mem_singleton.mp mem]
          exact Session.Input.asksEnd_of_isForeign ‹_›
        · cases mem

/-- In every run the record of turns and events is true. -/
theorem recorded_run (plan : SessionPlan) (moves : List Move) :
    Recorded plan (WatchRun.run moves (start plan)) (WatchRun.turns moves (start plan))
      (received moves (start plan)) := by
  induction moves using List.reverseRecOn with
  | nil => exact recorded_start plan
  | append_singleton front move ih =>
      rw [run_append, turns_append, received_append, received_singleton, WatchRun.turns,
        WatchRun.turns, List.append_nil]
      exact recorded_step ih move

end Steps

end WatchRun

end LedgerBoard
