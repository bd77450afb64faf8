import LedgerBoard.Dashboard.Ensemble
import LedgerBoard.Proofs.Dashboard.Generations
import LedgerBoard.Proofs.Dashboard.Tables
import LedgerBoard.Proofs.Session.Running

/-!
# The history of an ensemble

The chronicle of a run tells which turns each session made, and what the application took from the
channel. It is written beside the run, which never looks at it. Every session stands where its turns
have led it, and everything that it reported in them was taken from the channel, is in the channel,
or has yet to be put there, in this order.
-/

namespace LedgerBoard

namespace Ensemble

/-- The turns that the session of a generation makes in a move of a session. -/
def turnsOf (ensemble : Ensemble) (generation : Nat) :
    SessionMove → List (Session.Weather × Session.Input)
  | .post _ => []
  | .take other fault =>
      if other = generation then
        ((ensemble.ready? other).bind (·.asked? (ensemble.holds other))).toList.map
          fun input => (⟨fault, none⟩, input)
      else []
  | .hear other fault input =>
      if other = generation ∧ (ensemble.ready? other).isSome ∧ input.isForeign then
        [(⟨fault, none⟩, input)]
      else []

/-- The turns that it makes in moves of sessions in a row. -/
def turnsAmong (generation : Nat) :
    List SessionMove → Ensemble → List (Session.Weather × Session.Input)
  | [], _ => []
  | move :: rest, ensemble =>
      ensemble.turnsOf generation move ++ turnsAmong generation rest (ensemble.sessionStep move)

/-- The turns that it makes while the application subscribes to topics. -/
def turnsWhileAsking (generation : Nat) (meanwhile : Topic → List SessionMove) :
    List Topic → Ensemble → List (Session.Weather × Session.Input)
  | [], _ => []
  | topic :: rest, ensemble =>
      let asked := ensemble.subscribe topic
      turnsAmong generation (meanwhile topic) asked ++
        turnsWhileAsking generation meanwhile rest (asked.sessionRun (meanwhile topic))

/-- The turns that it makes while the application applies an event. -/
def turnsMeanwhile (ensemble : Ensemble) (generation : Nat) (meanwhile : Topic → List SessionMove)
    (envelope : Envelope) : List (Session.Weather × Session.Input) :=
  match ensemble.welcomed? envelope with
  | some _ =>
      turnsWhileAsking generation meanwhile Topic.all
        { ensemble with app := ensemble.app.showConnected }
  | none => []

/-- The turns that the session of a generation makes in a move. -/
def turnsIn (ensemble : Ensemble) (generation : Nat) :
    Move → List (Session.Weather × Session.Input)
  | .session move => ensemble.turnsOf generation move
  | .deliver _ meanwhile =>
      match ensemble.channel with
      | [] => []
      | envelope :: rest =>
          { ensemble with channel := rest }.turnsMeanwhile generation meanwhile envelope
  | .press _ | .act _ | .tick => []

/-- What the application takes from the channel in a move. -/
def takenIn (ensemble : Ensemble) : Move → List (ClockTime × Envelope)
  | .deliver arrival _ => (ensemble.channel.take 1).map fun envelope => (arrival, envelope)
  | _ => []

/-- The turns that each session made, and what the application took, with the times of arrival. -/
structure Chronicle where
  turns : Nat → List (Session.Weather × Session.Input)
  taken : List (ClockTime × Envelope)

/-- The chronicle before the first move. -/
def Chronicle.empty : Chronicle := ⟨fun _ => [], []⟩

/-- The chronicle after sessions have made more turns. -/
def Chronicle.add (chronicle : Chronicle)
    (turns : Nat → List (Session.Weather × Session.Input)) : Chronicle :=
  ⟨fun generation => chronicle.turns generation ++ turns generation, chronicle.taken⟩

/-- The chronicle after the application has taken an event. -/
def Chronicle.take (chronicle : Chronicle) (arrival : ClockTime) (envelope : Envelope) :
    Chronicle :=
  ⟨chronicle.turns, chronicle.taken ++ [(arrival, envelope)]⟩

/-- The chronicle after one more move. -/
def Chronicle.after (chronicle : Chronicle) (ensemble : Ensemble) (move : Move) : Chronicle :=
  ⟨fun generation => chronicle.turns generation ++ ensemble.turnsIn generation move,
    chronicle.taken ++ ensemble.takenIn move⟩

@[simp]
theorem Chronicle.turns_add (chronicle : Chronicle)
    (turns : Nat → List (Session.Weather × Session.Input)) (generation : Nat) :
    (chronicle.add turns).turns generation = chronicle.turns generation ++ turns generation :=
  rfl

@[simp]
theorem Chronicle.taken_add (chronicle : Chronicle)
    (turns : Nat → List (Session.Weather × Session.Input)) :
    (chronicle.add turns).taken = chronicle.taken :=
  rfl

theorem Chronicle.add_nil (chronicle : Chronicle) : chronicle.add (fun _ => []) = chronicle := by
  simp [add]

theorem Chronicle.add_append (chronicle : Chronicle)
    (front back : Nat → List (Session.Weather × Session.Input)) :
    chronicle.add (fun generation => front generation ++ back generation) =
      (chronicle.add front).add back := by
  simp [add]

theorem Chronicle.after_of_idle {chronicle : Chronicle} {ensemble : Ensemble} {move : Move}
    (nothing_taken : ensemble.takenIn move = [])
    (no_turn : ∀ generation, ensemble.turnsIn generation move = []) :
    chronicle.after ensemble move = chronicle := by
  simp [Chronicle.after, nothing_taken, no_turn]

/-- A move of a session adds its turns to the chronicle. -/
theorem Chronicle.after_session (chronicle : Chronicle) (ensemble : Ensemble) (move : SessionMove) :
    chronicle.after ensemble (.session move) = chronicle.add (ensemble.turnsOf · move) := by
  simp [Chronicle.after, add, turnsIn, takenIn]

/-- When the application takes an event, sessions may make turns meanwhile. -/
theorem Chronicle.after_deliver (chronicle : Chronicle) {ensemble : Ensemble} {envelope : Envelope}
    {rest : List Envelope} (waiting : ensemble.channel = envelope :: rest) (arrival : ClockTime)
    (meanwhile : Topic → List SessionMove) :
    chronicle.after ensemble (.deliver arrival meanwhile) =
      (chronicle.take arrival envelope).add
        ({ ensemble with channel := rest }.turnsMeanwhile · meanwhile envelope) := by
  simp [Chronicle.after, add, take, turnsIn, takenIn, waiting]

/-- The chronicle after moves in a row. -/
def Chronicle.afterAll : List (Nat × Move) → Ensemble → Chronicle → Chronicle
  | [], _, chronicle => chronicle
  | (now, move) :: rest, ensemble, chronicle =>
      afterAll rest (ensemble.step now move) (chronicle.after ensemble move)

/-- The chronicle of a run from its start. -/
def chronicle (ensemble : Ensemble) (moves : List (Nat × Move)) : Chronicle :=
  .afterAll moves ensemble .empty

/-- The phase of the session of a generation, and what it has yet to put into the channel. One that
has not been started stands at the beginning. -/
def standing (ensemble : Ensemble) (generation : Nat) : Session.Phase × List SessionEvent :=
  ((ensemble.member? generation).map fun member => (member.session.phase, member.unsaid)).getD
    (.dialling, [])

/-- Every session was started with the same plan. -/
def Follows (plan : SessionPlan) (ensemble : Ensemble) : Prop :=
  ∀ generation member, ensemble.member? generation = some member → member.session.plan = plan

section Change

variable (ensemble : Ensemble) (generation : Nat) (change : Member → Member)

@[simp]
theorem app_change : (ensemble.change generation change).app = ensemble.app := by
  cases generation <;> rfl

@[simp]
theorem channel_change : (ensemble.change generation change).channel = ensemble.channel := by
  cases generation <;> rfl

@[simp]
theorem length_members_change :
    (ensemble.change generation change).members.length = ensemble.members.length := by
  cases generation with
  | zero => rfl
  | succ index => simp [Ensemble.change]

/-- A change reaches the session of its generation only. -/
theorem member?_change (other : Nat) :
    (ensemble.change generation change).member? other =
      (ensemble.member? other).map fun member => if generation = other then change member
        else member := by
  cases generation with
  | zero =>
      cases other with
      | zero => rfl
      | succ index => simp [Ensemble.change]
  | succ changed =>
      cases other with
      | zero => rfl
      | succ index => simp [Ensemble.change, member?, List.getElem?_modify]

variable {ensemble generation} {member : Member}

/-- A session stands where a change has put it, and all others stay. -/
theorem standing_change (found : ensemble.member? generation = some member) (other : Nat) :
    (ensemble.change generation change).standing other =
      if generation = other then ((change member).session.phase, (change member).unsaid)
      else ensemble.standing other := by
  rw [standing, member?_change]
  split
  · rename_i same
    rw [← same, found]
    rfl
  · rw [standing]
    cases ensemble.member? other <;> rfl

variable {change}

theorem follows_change {plan : SessionPlan} (follows : ensemble.Follows plan)
    (found : ensemble.member? generation = some member)
    (kept : (change member).session.plan = member.session.plan) :
    (ensemble.change generation change).Follows plan := by
  intro other changed found_changed
  rw [member?_change, Option.map_eq_some_iff] at found_changed
  rcases found_changed with ⟨old, found_old, rfl⟩
  split
  · rename_i same
    rw [← same, found, Option.some.injEq] at found_old
    rw [← found_old, kept]
    exact follows generation member found
  · exact follows other old found_old

/-- A session is ready that has nothing to put into the channel. -/
theorem member?_of_ready? {session : RunningSession}
    (ready : ensemble.ready? generation = some session) :
    ensemble.member? generation = some ⟨session, []⟩ := by
  rw [ready?, Option.map_eq_some_iff] at ready
  rcases ready with ⟨member, found, rfl⟩
  rw [Option.filter_eq_some_iff] at found
  rw [found.1, ← List.isEmpty_iff.mp found.2]

end Change

/-- What orders change: they may start sessions, and leave the others where they stand. -/
structure Obeyed (orders : List Order) (before after : Ensemble) : Prop where
  app : after.app = before.app
  channel : after.channel = before.channel
  count : after.members.length = before.members.length + (issued orders).length
  standing : ∀ generation, after.standing generation = before.standing generation
  follows : ∀ plan, before.app.plan = plan → before.Follows plan → after.Follows plan

/-- The session that starts is the last one. -/
theorem member?_start (ensemble : Ensemble) (generation started : Nat) :
    (ensemble.obey (.start started)).member? generation =
      if generation = ensemble.members.length + 1 then some ⟨.start ensemble.app.plan, []⟩
      else ensemble.member? generation := by
  cases generation with
  | zero => rfl
  | succ index =>
      simp only [member?, obey, Nat.add_right_cancel_iff]
      split
      · rename_i last
        rw [last, List.getElem?_concat_length]
      · rename_i not_last
        rcases Nat.lt_or_gt_of_ne not_last with earlier | later
        · rw [List.getElem?_append_left earlier]
        · rw [List.getElem?_eq_none (by simp; omega), List.getElem?_eq_none (by omega)]

/-- To start a session leaves all others where they stand. -/
theorem obeyed_start (ensemble : Ensemble) (started : Nat) :
    Obeyed [.start started] ensemble (ensemble.obey (.start started)) where
  app := rfl
  channel := rfl
  count := by simp [obey, issued, Order.started?]
  standing generation := by
    rw [standing, standing, member?_start]
    split
    · rename_i last
      have absent : ensemble.member? generation = none := by
        rw [last]
        exact List.getElem?_eq_none (Nat.le_refl _)
      rw [absent]
      rfl
    · rfl
  follows plan app_plan follows generation member found := by
    rw [member?_start] at found
    split at found
    · cases found
      exact app_plan
    · exact follows generation member found

/-- A request waits, and leaves all sessions where they stand. -/
theorem obeyed_request (ensemble : Ensemble) (generation : Nat) (request : Request) :
    Obeyed [.request generation request] ensemble
      (ensemble.obey (.request generation request)) where
  app := app_change ..
  channel := channel_change ..
  count := length_members_change ..
  standing other := by
    rw [standing, obey, member?_change, Option.map_map, standing]
    congr 2
    funext member
    simp only [Function.comp_apply, RunningSession.ask]
    split
    · split <;> rfl
    · rfl
  follows plan app_plan follows other member found := by
    rw [obey, member?_change, Option.map_eq_some_iff] at found
    rcases found with ⟨old, found, rfl⟩
    rw [← follows other old found]
    simp only [RunningSession.ask]
    split
    · split <;> rfl
    · rfl

theorem obeyed_foldl (orders : List Order) (ensemble : Ensemble) :
    Obeyed orders ensemble (orders.foldl obey ensemble) := by
  induction orders generalizing ensemble with
  | nil => exact ⟨rfl, rfl, rfl, fun _ => rfl, fun _ _ follows => follows⟩
  | cons order rest ih =>
      have first : Obeyed [order] ensemble (ensemble.obey order) := by
        cases order with
        | start generation => exact obeyed_start ensemble generation
        | request generation request => exact obeyed_request ensemble generation request
      have later := ih (ensemble.obey order)
      have count :
          (issued (order :: rest)).length = (issued [order]).length + (issued rest).length := by
        rw [← List.length_append, ← issued_append, List.singleton_append]
      refine ⟨later.app.trans first.app, later.channel.trans first.channel, ?_, ?_, ?_⟩
      · rw [List.foldl_cons, later.count, first.count, count, Nat.add_assoc]
      · intro generation
        exact (later.standing generation).trans (first.standing generation)
      · intro plan app_plan follows
        exact later.follows plan (first.app ▸ app_plan) (first.follows plan app_plan follows)

theorem obeyed_advance (ensemble : Ensemble) (now : Nat) (input : App.Input) :
    Obeyed (ensemble.app.step now input).2 { ensemble with app := (ensemble.app.step now input).1 }
      (ensemble.advance now input) :=
  obeyed_foldl _ _

/-- The events of one session among envelopes. -/
def eventsFrom (generation : Nat) (envelopes : List Envelope) : List SessionEvent :=
  (envelopes.filter (·.generation == generation)).map (·.event)

@[simp]
theorem eventsFrom_append (generation : Nat) (front back : List Envelope) :
    eventsFrom generation (front ++ back) =
      eventsFrom generation front ++ eventsFrom generation back := by
  simp [eventsFrom, List.filter_append]

theorem eventsFrom_cons (generation : Nat) (envelope : Envelope) (rest : List Envelope) :
    eventsFrom generation (envelope :: rest) =
      eventsFrom generation [envelope] ++ eventsFrom generation rest :=
  eventsFrom_append generation [envelope] rest

theorem map_heardFrom (generation : Nat) (taken : List (ClockTime × Envelope)) :
    (heardFrom generation taken).map Prod.snd = eventsFrom generation (taken.map Prod.snd) := by
  simp [heardFrom, eventsFrom, List.filter_map, Function.comp_def]

/-- What is on its way from a session to the application, oldest first. -/
def onItsWay (ensemble : Ensemble) (generation : Nat) : List SessionEvent :=
  eventsFrom generation ensemble.channel ++ (ensemble.standing generation).2

/-- What a session has said: what was taken from it, and what is on its way. -/
def saidBy (ensemble : Ensemble) (chronicle : Chronicle) (generation : Nat) : List SessionEvent :=
  (heardFrom generation chronicle.taken).map Prod.snd ++ ensemble.onItsWay generation

/-- An ensemble is where its chronicle says. -/
structure Recorded (plan : SessionPlan) (ensemble : Ensemble) (chronicle : Chronicle) : Prop where
  app_plan : ensemble.app.plan = plan
  follows : ensemble.Follows plan
  count : ensemble.members.length = ensemble.app.started
  phase : ∀ generation, (ensemble.standing generation).1 =
    (Session.run plan (chronicle.turns generation) .dialling).1
  said : ∀ generation, ensemble.saidBy chronicle generation =
    Session.reports (Session.run plan (chronicle.turns generation) .dialling).2

theorem recorded_initial (plan : SessionPlan) (cap : Option Nat) :
    Recorded plan (initial plan cap) .empty where
  app_plan := rfl
  follows generation member found := by
    cases generation <;> cases found
  count := rfl
  phase generation := by cases generation <;> rfl
  said generation := by cases generation <;> rfl

section Steps

variable {plan : SessionPlan} {ensemble : Ensemble} {chronicle : Chronicle}

/-- The application may change and give orders, as long as it counts the sessions that it starts. -/
theorem Recorded.of_orders (recorded : Recorded plan ensemble chronicle) {next : App}
    {orders : List Order} (app_plan : next.plan = ensemble.app.plan)
    (started : next.started = ensemble.app.started + (issued orders).length) :
    Recorded plan (orders.foldl obey { ensemble with app := next }) chronicle := by
  have obeyed := obeyed_foldl orders { ensemble with app := next }
  have same_plan : next.plan = plan := app_plan.trans recorded.app_plan
  refine ⟨?_, ?_, ?_, ?_, ?_⟩
  · rw [obeyed.app]
    exact same_plan
  · exact obeyed.follows plan same_plan recorded.follows
  · rw [obeyed.count, obeyed.app, started, ← recorded.count]
  · intro generation
    rw [obeyed.standing]
    exact recorded.phase generation
  · intro generation
    rw [saidBy, onItsWay, obeyed.standing, obeyed.channel]
    exact recorded.said generation

/-- The application may change on its own, as long as it starts no session. -/
theorem Recorded.of_app (recorded : Recorded plan ensemble chronicle) {next : App}
    (app_plan : next.plan = ensemble.app.plan) (started : next.started = ensemble.app.started) :
    Recorded plan { ensemble with app := next } chronicle :=
  ⟨app_plan.trans recorded.app_plan, recorded.follows, recorded.count.trans started.symm,
    recorded.phase, recorded.said⟩

/-- The application takes an input, and no session makes a turn. -/
theorem Recorded.advance (recorded : Recorded plan ensemble chronicle) (now : Nat)
    (input : App.Input) : Recorded plan (ensemble.advance now input) chronicle := by
  have started : (ensemble.app.step now input).1.started =
      ensemble.app.started + (issued (ensemble.app.step now input).2).length := by
    cases App.handover_step ensemble.app now input with
    | kept held same none_issued => simp [none_issued, same]
    | ended held same none_issued => simp [none_issued, same]
    | begun held next one_issued => simp [one_issued, next]
  exact recorded.of_orders (App.plan_step ensemble.app now input) started

theorem Recorded.subscribe (recorded : Recorded plan ensemble chronicle) (topic : Topic) :
    Recorded plan (ensemble.subscribe topic) chronicle := by
  have started : (ensemble.app.subscribe ensemble.isHeard topic).1.started =
      ensemble.app.started + (issued (ensemble.app.subscribe ensemble.isHeard topic).2).length := by
    simp
  exact recorded.of_orders (App.plan_subscribe ..) started

/-- The application takes the oldest event of the channel. -/
theorem Recorded.take_channel (recorded : Recorded plan ensemble chronicle) (arrival : ClockTime)
    {envelope : Envelope} {rest : List Envelope} (waiting : ensemble.channel = envelope :: rest) :
    Recorded plan { ensemble with channel := rest } (chronicle.take arrival envelope) := by
  refine ⟨recorded.app_plan, recorded.follows, recorded.count, recorded.phase, ?_⟩
  intro generation
  refine Eq.trans ?_ (recorded.said generation)
  rw [saidBy, saidBy, onItsWay, onItsWay, waiting, map_heardFrom, map_heardFrom, Chronicle.take,
    List.map_append, eventsFrom_append, eventsFrom_cons, List.append_assoc, List.append_assoc]
  rfl

/-- A session puts its oldest event into the channel. -/
theorem Recorded.post (recorded : Recorded plan ensemble chronicle) {generation : Nat}
    {session : RunningSession} {event : SessionEvent} {rest : List SessionEvent}
    (found : ensemble.member? generation = some ⟨session, event :: rest⟩) :
    Recorded plan
      { ensemble.change generation fun _ => ⟨session, rest⟩ with
        channel := ensemble.channel ++ [⟨generation, event⟩] } chronicle := by
  have standing := standing_change (fun _ => ⟨session, rest⟩) found
  have stood : ensemble.standing generation = (session.phase, event :: rest) := by
    simp [Ensemble.standing, found]
  refine ⟨?_, ?_, ?_, ?_, ?_⟩
  · exact (congrArg App.plan (app_change ..)).trans recorded.app_plan
  · exact follows_change recorded.follows found rfl
  · simpa using recorded.count
  · intro other
    refine Eq.trans ?_ (recorded.phase other)
    show ((ensemble.change generation fun _ => ⟨session, rest⟩).standing other).1 = _
    rw [standing]
    split
    · rename_i same
      rw [← same, stood]
    · rfl
  · intro other
    refine Eq.trans ?_ (recorded.said other)
    show _ ++ (eventsFrom other (ensemble.channel ++ [⟨generation, event⟩]) ++
      ((ensemble.change generation fun _ => ⟨session, rest⟩).standing other).2) = _
    rw [standing, saidBy, onItsWay, eventsFrom_append]
    split
    · rename_i same
      rw [← same, stood]
      simp [eventsFrom]
    · rename_i other_session
      simp [eventsFrom, other_session]

/-- A session makes a turn, and has yet to say what it reports. -/
theorem Recorded.settle (recorded : Recorded plan ensemble chronicle) {generation : Nat}
    {session : RunningSession} (ready : ensemble.ready? generation = some session)
    {turns : List (Session.Weather × Session.Input)}
    {result : RunningSession × List Session.Output} (made : session.Made turns result) :
    Recorded plan (ensemble.settle generation result)
      (chronicle.add fun other => if generation = other then turns else []) := by
  have found := member?_of_ready? ready
  have same_plan : session.plan = plan := recorded.follows generation _ found
  have standing := standing_change
    (fun member => ⟨result.1, member.unsaid ++ Session.reports result.2⟩) found
  have stood : ensemble.standing generation = (session.phase, []) := by
    simp [Ensemble.standing, found]
  have phase := recorded.phase generation
  rw [stood] at phase
  have went : Session.run plan (chronicle.turns generation ++ turns) .dialling =
      (result.1.phase, (Session.run plan (chronicle.turns generation) .dialling).2 ++
        result.2) := by
    rw [Session.run_append, ← phase, made.phase, made.outputs, same_plan]
  refine ⟨?_, ?_, ?_, ?_, ?_⟩
  · exact (congrArg App.plan (app_change ..)).trans recorded.app_plan
  · exact follows_change recorded.follows found made.plan
  · simpa [Ensemble.settle] using recorded.count
  · intro other
    rw [Ensemble.settle, standing, Chronicle.turns_add]
    split
    · rename_i same
      rw [← same, went]
    · rw [List.append_nil]
      exact recorded.phase other
  · intro other
    have said := recorded.said other
    rw [saidBy, onItsWay] at said
    rw [saidBy, onItsWay, Ensemble.settle, channel_change, standing, Chronicle.turns_add,
      Chronicle.taken_add]
    split
    · rename_i same
      rw [← same, stood] at said
      rw [← same, went, Session.reports_append, ← said]
      simp
    · rw [List.append_nil]
      exact said

/-- Every move of a session goes into the chronicle with the turns made in it. -/
theorem Recorded.sessionStep (recorded : Recorded plan ensemble chronicle) (move : SessionMove) :
    Recorded plan (ensemble.sessionStep move) (chronicle.add (ensemble.turnsOf · move)) := by
  cases move with
  | post generation =>
      have no_turn : chronicle.add (ensemble.turnsOf · (.post generation)) = chronicle :=
        chronicle.add_nil
      rw [no_turn, Ensemble.sessionStep.eq_def]
      dsimp only
      split
      · rename_i session event rest found
        exact recorded.post found
      · exact recorded
  | take generation fault =>
      cases ready : ensemble.ready? generation with
      | none => simpa [Ensemble.sessionStep, turnsOf, ready, Chronicle.add_nil] using recorded
      | some session =>
          have next := recorded.settle ready
            (session.made_take (ensemble.holds generation) ⟨fault, none⟩)
          simpa [Ensemble.sessionStep, turnsOf, ready] using next
  | hear generation fault input =>
      cases ready : ensemble.ready? generation with
      | none => simpa [Ensemble.sessionStep, turnsOf, ready, Chronicle.add_nil] using recorded
      | some session =>
          have next := recorded.settle ready (session.made_hear ⟨fault, none⟩ input)
          simpa [Ensemble.sessionStep, turnsOf, ready, ite_and] using next

theorem Recorded.sessionRun (recorded : Recorded plan ensemble chronicle)
    (moves : List SessionMove) :
    Recorded plan (ensemble.sessionRun moves) (chronicle.add (turnsAmong · moves ensemble)) := by
  induction moves generalizing ensemble chronicle with
  | nil => exact chronicle.add_nil.symm ▸ recorded
  | cons move rest ih =>
      have next := ih (recorded.sessionStep move)
      rw [← Chronicle.add_append] at next
      exact next

/-- Sessions make their turns while the application subscribes to one topic after the other. -/
theorem Recorded.asking (recorded : Recorded plan ensemble chronicle)
    (meanwhile : Topic → List SessionMove) (topics : List Topic) :
    Recorded plan
      (topics.foldl (fun ensemble topic => (ensemble.subscribe topic).sessionRun (meanwhile topic))
        ensemble)
      (chronicle.add (turnsWhileAsking · meanwhile topics ensemble)) := by
  induction topics generalizing ensemble chronicle with
  | nil => exact chronicle.add_nil.symm ▸ recorded
  | cons topic rest ih =>
      have next := ih ((recorded.subscribe topic).sessionRun (meanwhile topic))
      rw [← Chronicle.add_append] at next
      exact next

/-- The application applies an event, and sessions make their turns meanwhile. -/
theorem Recorded.apply (recorded : Recorded plan ensemble chronicle) (now : Nat)
    (arrival : ClockTime) (meanwhile : Topic → List SessionMove) (envelope : Envelope) :
    Recorded plan (ensemble.apply now arrival meanwhile envelope)
      (chronicle.add (ensemble.turnsMeanwhile · meanwhile envelope)) := by
  simp only [Ensemble.apply, turnsMeanwhile]
  cases ensemble.welcomed? envelope with
  | some server =>
      have shown : Recorded plan { ensemble with app := ensemble.app.showConnected } chronicle :=
        recorded.of_app rfl rfl
      exact (shown.asking meanwhile Topic.all).of_app rfl rfl
  | none =>
      simp only [Chronicle.add_nil]
      exact recorded.advance now _

/-- Every move keeps the chronicle true. -/
theorem recorded_step (recorded : Recorded plan ensemble chronicle) (now : Nat) (move : Move) :
    Recorded plan (ensemble.step now move) (chronicle.after ensemble move) := by
  cases move with
  | press press =>
      rw [Chronicle.after_of_idle rfl fun _ => rfl]
      exact recorded.advance now (.press press)
  | act action =>
      rw [Chronicle.after_of_idle rfl fun _ => rfl]
      exact recorded.advance now (.act action)
  | tick =>
      rw [Chronicle.after_of_idle rfl fun _ => rfl]
      exact recorded.advance now .tick
  | deliver arrival meanwhile =>
      cases waiting : ensemble.channel with
      | nil =>
          rw [Chronicle.after_of_idle (by simp [takenIn, waiting])
            fun _ => by simp [turnsIn, waiting]]
          simpa only [step, waiting] using recorded
      | cons envelope rest =>
          rw [Chronicle.after_deliver chronicle waiting]
          simp only [step, waiting]
          exact (recorded.take_channel arrival waiting).apply now arrival meanwhile envelope
  | session move =>
      rw [Chronicle.after_session]
      exact recorded.sessionStep move

end Steps

theorem recorded_afterAll {plan : SessionPlan} {ensemble : Ensemble} {chronicle : Chronicle}
    (recorded : Recorded plan ensemble chronicle) (moves : List (Nat × Move)) :
    Recorded plan (ensemble.run moves) (.afterAll moves ensemble chronicle) := by
  induction moves generalizing ensemble chronicle with
  | nil => exact recorded
  | cons timed rest ih => exact ih (recorded_step recorded timed.1 timed.2)

/-- In every run the chronicle is true. -/
theorem recorded_run (plan : SessionPlan) (cap : Option Nat) (moves : List (Nat × Move)) :
    Recorded plan ((initial plan cap).run moves) ((initial plan cap).chronicle moves) :=
  recorded_afterAll (recorded_initial plan cap) moves

end Ensemble

end LedgerBoard
