import LedgerBoard.Proofs.Dashboard.Attuned
import LedgerBoard.Proofs.Dashboard.Delivery
import LedgerBoard.Proofs.Session.Trace

/-!
# The session that is held

Among all sessions that an application has started, the one that it holds is attuned to it, and
nobody has asked it to end. `InStep` says so of an ensemble, and every move keeps it.
-/

namespace LedgerBoard

namespace Ensemble

/-- The session that the application holds is attuned to it, and was never asked to end in its
turns. -/
structure Held (asked : List Subscription) (ensemble : Ensemble)
    (turns : List (Session.Weather × Session.Input)) (handle : Handle) : Prop where
  attuned : ∃ member, ensemble.member? handle.generation = some member ∧
    ensemble.app.Attuned asked handle member.session
  unasked : ∀ timed ∈ turns, timed.2.asksEnd = false

/-- What holds of an ensemble whose sessions have made their turns, once the application has asked
the session that it holds for some subscriptions. -/
structure InStep (asked : List Subscription) (ensemble : Ensemble)
    (turns : Nat → List (Session.Weather × Session.Input)) : Prop where
  held : ∀ handle, ensemble.app.handle = some handle →
    ensemble.Held asked (turns handle.generation) handle
  unborn : ∀ generation, ensemble.app.started < generation → turns generation = []

theorem inStep_initial (plan : SessionPlan) (cap : Option Nat) :
    InStep [] (initial plan cap) Chronicle.empty.turns where
  held handle held := by cases held
  unborn generation later := rfl

section Steps

variable {plan : SessionPlan} {cap : Option Nat} {ensemble : Ensemble} {chronicle : Chronicle}
  {turns : Nat → List (Session.Weather × Session.Input)} {next : App} {orders : List Order}
  {asked : List Subscription}

/-- An application that changes in nothing that its session knows stays in step with it. -/
theorem InStep.of_same (inStep : InStep asked ensemble turns)
    (handle : next.handle = ensemble.app.handle)
    (connected : asked ≠ [] → next.dashboard.isConnected = true)
    (subscriptions : next.subscriptions = ensemble.app.subscriptions)
    (started : next.started = ensemble.app.started) :
    InStep asked { ensemble with app := next } turns where
  held live held := by
    have before := inStep.held live (handle ▸ held)
    rcases before.attuned with ⟨member, found, attuned⟩
    exact ⟨⟨member, found, attuned.of_same connected subscriptions⟩, before.unasked⟩
  unborn generation later := inStep.unborn generation (started ▸ later)

/-- An application without a session has none to be in step with. -/
theorem InStep.of_released (inStep : InStep asked ensemble turns) (released : next.handle = none)
    (started : next.started = ensemble.app.started) (others : List Subscription) :
    InStep others (orders.foldl obey { ensemble with app := next }) turns := by
  have obeyed := obeyed_foldl orders { ensemble with app := next }
  refine ⟨?_, ?_⟩
  · intro handle held
    rw [obeyed.app, released] at held
    cases held
  · intro generation later
    rw [obeyed.app, started] at later
    exact inStep.unborn generation later

/-- A session that starts is attuned to the application, and has made no turn. -/
theorem InStep.of_begun (inStep : InStep asked ensemble turns)
    (count : ensemble.members.length = ensemble.app.started)
    (begun : next.handle = some (.ofGeneration (ensemble.app.started + 1)))
    (subscriptions : next.subscriptions = [])
    (started : next.started = ensemble.app.started + 1) (old : Option Nat) :
    InStep [] ((old.toList.map (fun old => Order.request old .disconnect) ++
      [Order.start (ensemble.app.started + 1)]).foldl obey { ensemble with app := next })
        turns := by
  have obeyed := obeyed_foldl (old.toList.map fun old => Order.request old .disconnect)
    { ensemble with app := next }
  have same_count := obeyed.count
  rw [issued_requests (fun old : Nat => old) (fun _ => .disconnect), List.length_nil, Nat.add_zero]
    at same_count
  rw [List.foldl_append, List.foldl_cons, List.foldl_nil]
  have app := obeyed.app
  generalize (old.toList.map fun old => Order.request old .disconnect).foldl obey
    { ensemble with app := next } = warned at same_count app
  have app_next : (warned.obey (.start (ensemble.app.started + 1))).app = next := app
  refine ⟨?_, ?_⟩
  · intro handle held
    rw [app_next, begun] at held
    cases held
    refine ⟨⟨⟨.start warned.app.plan, []⟩, ?_, ?_⟩, ?_⟩
    · rw [member?_start, same_count, Handle.ofGeneration, if_pos (congrArg (· + 1) count.symm)]
    · rw [app_next]
      exact App.attuned_start subscriptions _ _
    · rw [Handle.ofGeneration, inStep.unborn _ (Nat.lt_succ_self _)]
      intro timed mem
      cases mem
  · intro generation later
    rw [app_next, started] at later
    exact inStep.unborn generation (Nat.lt_of_succ_lt later)

/-- The application asks the session that it holds for a topic under an id that is new. -/
theorem InStep.subscribe (inStep : InStep asked ensemble turns)
    (connected : ensemble.app.dashboard.isConnected = true) (topic : Topic)
    (new : ∀ held ∈ asked, held.id ≠ (App.nextAsked asked topic).id) :
    InStep (asked ++ [App.nextAsked asked topic]) (ensemble.subscribe topic) turns := by
  have started : (ensemble.subscribe topic).app.started = ensemble.app.started := by simp
  refine ⟨?_, fun generation later => inStep.unborn generation (started ▸ later)⟩
  intro live same
  cases held : ensemble.app.handle with
  | none => simp [App.subscribe, held] at same
  | some handle =>
      have before := inStep.held handle held
      rcases before.attuned with ⟨member, found, attuned⟩
      have asks : (handle.subscribe topic).1 = App.nextAsked asked topic := attuned.asks topic
      have next : live = (handle.subscribe topic).2 := by
        simpa [App.subscribe, held] using same.symm
      have reaches : member.session.isOver = false → ensemble.isHeard = true := by
        intro still_open
        simp [isHeard, App.generation?, held, Ensemble.accepts, found, Member.isGone, still_open]
      have reached : (ensemble.subscribe topic).member? handle.generation = some
          { member with
            session := member.session.ask (.subscribe (App.nextAsked asked topic)) } := by
        simp only [Ensemble.subscribe, App.subscribe, held, asks, List.foldl_cons, List.foldl_nil,
          obey, member?_change, if_pos]
        exact congrArg (Option.map _) found
      rw [next]
      refine ⟨⟨_, reached, ?_⟩, before.unasked⟩
      rw [app_subscribe]
      exact attuned.subscribe connected held reaches topic new

/-- An input that does not welcome the session that is held leaves the application in step with it,
and with nothing else to ask for. -/
theorem InStep.of_change (inStep : InStep ensemble.app.askedFor ensemble turns)
    (count : ensemble.members.length = ensemble.app.started) {input : App.Input}
    (change : App.Change ensemble.app input next orders)
    (unwelcome : ∀ handle server arrival accepts,
      input = .event ⟨handle.generation, .connected server⟩ arrival accepts →
      ensemble.app.handle ≠ some handle) :
    InStep next.askedFor (orders.foldl obey { ensemble with app := next }) turns := by
  cases change with
  | idle notice ticks quits => exact inStep.of_same rfl App.connected_of_askedFor rfl rfl
  | begun notice free =>
      rw [App.askedFor, if_neg (Bool.eq_false_iff.mp free)]
      exact inStep.of_begun count rfl rfl rfl _
  | left notice =>
      apply inStep.of_released
      · rfl
      · rfl
  | welcomed notice held => exact absurd held (unwelcome _ _ _ _ rfl)
  | block held =>
      rw [App.askedFor, Dashboard.isConnected_showBlock]
      refine inStep.of_same rfl ?_ rfl rfl
      simpa using App.connected_of_askedFor
  | transaction held =>
      rw [App.askedFor, Dashboard.isConnected_showTransaction]
      refine inStep.of_same rfl ?_ rfl rfl
      simpa using App.connected_of_askedFor
  | lost notice held =>
      apply inStep.of_released
      · rfl
      · rfl

theorem InStep.advance (inStep : InStep ensemble.app.askedFor ensemble turns)
    (count : ensemble.members.length = ensemble.app.started) (now : Nat) (input : App.Input)
    (unwelcome : ∀ handle server arrival accepts,
      input = .event ⟨handle.generation, .connected server⟩ arrival accepts →
      ensemble.app.handle ≠ some handle) :
    InStep (ensemble.advance now input).app.askedFor (ensemble.advance now input) turns := by
  rw [(obeyed_advance ensemble now input).app]
  exact inStep.of_change count (App.change_step ensemble.app now input) unwelcome

theorem InStep.with_channel (inStep : InStep asked ensemble turns) (channel : List Envelope) :
    InStep asked { ensemble with channel } turns where
  held handle held := ⟨(inStep.held handle held).attuned, (inStep.held handle held).unasked⟩
  unborn := inStep.unborn

/-- A session may change in a way that keeps it attuned, in turns that nobody asked to be its
last. -/
theorem InStep.replace (inStep : InStep asked ensemble turns) {generation : Nat} {member : Member}
    (found : ensemble.member? generation = some member) (given : generation ≤ ensemble.app.started)
    (change : Member → Member) (more : List (Session.Weather × Session.Input))
    (keeps : ∀ handle, ensemble.app.handle = some handle → handle.generation = generation →
      ensemble.app.Attuned asked handle member.session →
      ensemble.app.Attuned asked handle (change member).session ∧ ∀ timed ∈ more,
      timed.2.asksEnd = false) :
    InStep asked (ensemble.change generation change)
      (fun other => turns other ++ if generation = other then more else []) := by
  have app : (ensemble.change generation change).app = ensemble.app := app_change ..
  refine ⟨?_, ?_⟩
  · intro handle held
    have before := inStep.held handle (app ▸ held)
    rcases before.attuned with ⟨old, found_held, attuned⟩
    by_cases same : generation = handle.generation
    · rw [← same, found, Option.some.injEq] at found_held
      rw [← found_held] at attuned
      have kept := keeps handle (app ▸ held) same.symm attuned
      refine ⟨⟨change member, ?_, ?_⟩, ?_⟩
      · rw [member?_change, ← same, found, Option.map_some, if_pos rfl]
      · rw [app]
        exact kept.1
      · intro timed mem
        rw [if_pos same] at mem
        rcases List.mem_append.mp mem with earlier | now
        · exact before.unasked timed earlier
        · exact kept.2 timed now
    · refine ⟨⟨old, ?_, ?_⟩, ?_⟩
      · rw [member?_change, found_held, Option.map_some, if_neg same]
      · rw [app]
        exact attuned
      · rw [if_neg same, List.append_nil]
        exact before.unasked
  · intro other later
    rw [app] at later
    rw [inStep.unborn other later, if_neg (by omega), List.append_nil]

/-- A session has been accepted if the application has heard so: one that waits to be accepted has
said nothing. -/
theorem not_waiting_of_connected (recorded : Recorded plan ensemble chronicle)
    (faithful : ensemble.app.Faithful cap chronicle.taken) {handle : Handle}
    {session : RunningSession} {unsaid : List SessionEvent}
    (held : ensemble.app.handle = some handle)
    (found : ensemble.member? handle.generation = some ⟨session, unsaid⟩)
    (connected : ensemble.app.dashboard.isConnected = true) :
    ¬(session.phase = .dialling ∨ session.phase = .greeting) := by
  intro waits
  have live := App.generation?_of_held held
  have phase := recorded.phase handle.generation
  have told := (Session.consistent_run plan (chronicle.turns handle.generation)).told
  rw [standing, found] at phase
  rw [← recorded.said, ← phase] at told
  have silent : Session.stage? (ensemble.saidBy chronicle handle.generation) = some .silent := by
    rcases waits with dials | greets
    · simpa [dials, Session.Phase.Tells] using told
    · simpa [greets, Session.Phase.Tells] using told
  have unheard := (List.append_eq_nil_iff.mp (Session.eq_nil_of_stage?_silent silent)).1
  exact (faithful.isConnected_iff live).mp connected (List.map_eq_nil_iff.mp unheard)

theorem le_started_of_member? (recorded : Recorded plan ensemble chronicle) {generation : Nat}
    {member : Member} (found : ensemble.member? generation = some member) :
    generation ≤ ensemble.app.started := by
  rw [← recorded.count]
  cases generation with
  | zero => exact Nat.zero_le _
  | succ index => exact (List.getElem?_eq_some_iff.mp found).1

/-- The session that is held takes what it is asked, and is not asked to end. -/
theorem InStep.take (inStep : InStep asked ensemble chronicle.turns)
    (recorded : Recorded plan ensemble chronicle)
    (faithful : ensemble.app.Faithful cap chronicle.taken) {generation : Nat}
    {session : RunningSession} (ready : ensemble.ready? generation = some session)
    (fault : Option TransportError) :
    InStep asked
      (ensemble.settle generation (session.take (ensemble.holds generation) ⟨fault, none⟩))
      (fun other => chronicle.turns other ++
        if generation = other then
          (session.asked? (ensemble.holds generation)).toList.map fun input =>
            (⟨fault, none⟩, input)
        else []) := by
  have found := member?_of_ready? ready
  refine inStep.replace found (le_started_of_member? recorded found) _ _ ?_
  intro handle held same attuned
  cases same
  have holds : ensemble.holds handle.generation = true := by
    simp [Ensemble.holds, App.generation?_of_held held]
  have taken := attuned.take (not_waiting_of_connected recorded faithful held found) ⟨fault, none⟩
  rw [holds]
  refine ⟨taken.1, ?_⟩
  intro timed mem
  rcases List.mem_map.mp mem with ⟨input, asks, rfl⟩
  exact taken.2 input (Option.mem_toList.mp asks)

/-- The session that is held hears from its node and the clock, who ask for no end. -/
theorem InStep.hear (inStep : InStep asked ensemble chronicle.turns)
    (recorded : Recorded plan ensemble chronicle) {generation : Nat} {session : RunningSession}
    (ready : ensemble.ready? generation = some session) (fault : Option TransportError)
    (input : Session.Input) :
    InStep asked (ensemble.settle generation (session.hear ⟨fault, none⟩ input))
      (fun other => chronicle.turns other ++
        if generation = other then
          if input.isForeign then [(⟨fault, none⟩, input)] else []
        else []) := by
  have found := member?_of_ready? ready
  refine inStep.replace found (le_started_of_member? recorded found) _ _ ?_
  intro handle held same attuned
  refine ⟨attuned.hear ⟨fault, none⟩ input, ?_⟩
  intro timed mem
  split at mem
  · rw [List.mem_singleton.mp mem]
    exact Session.Input.asksEnd_of_isForeign ‹_›
  · cases mem

/-- No move of a session brings the application and its session out of step. -/
theorem InStep.sessionStep (inStep : InStep asked ensemble chronicle.turns)
    (recorded : Recorded plan ensemble chronicle)
    (faithful : ensemble.app.Faithful cap chronicle.taken) (move : SessionMove) :
    InStep asked (ensemble.sessionStep move) (chronicle.add (ensemble.turnsOf · move)).turns := by
  cases move with
  | post generation =>
      have no_turn : chronicle.add (ensemble.turnsOf · (.post generation)) = chronicle :=
        chronicle.add_nil
      rw [no_turn]
      simp only [Ensemble.sessionStep]
      split
      · rename_i session event rest found
        have next := inStep.replace found (le_started_of_member? recorded found)
          (fun _ => ⟨session, rest⟩) [] fun _ _ _ attuned => ⟨attuned, by simp⟩
        simpa using next.with_channel _
      · exact inStep
  | take generation fault =>
      cases ready : ensemble.ready? generation with
      | none => simpa [Ensemble.sessionStep, turnsOf, ready, Chronicle.add_nil] using inStep
      | some session =>
          have next := inStep.take recorded faithful ready fault
          simpa [Ensemble.sessionStep, turnsOf, ready, Chronicle.add] using next
  | hear generation fault input =>
      cases ready : ensemble.ready? generation with
      | none => simpa [Ensemble.sessionStep, turnsOf, ready, Chronicle.add_nil] using inStep
      | some session =>
          have next := inStep.hear recorded ready fault input
          simpa [Ensemble.sessionStep, turnsOf, ready, Chronicle.add, ite_and] using next

theorem InStep.sessionRun (inStep : InStep asked ensemble chronicle.turns)
    (recorded : Recorded plan ensemble chronicle)
    (faithful : ensemble.app.Faithful cap chronicle.taken) (moves : List SessionMove) :
    InStep asked (ensemble.sessionRun moves)
      (chronicle.add (turnsAmong · moves ensemble)).turns := by
  induction moves generalizing ensemble chronicle with
  | nil => exact chronicle.add_nil.symm ▸ inStep
  | cons move rest ih =>
      have still_faithful :
          (ensemble.sessionStep move).app.Faithful cap
            (chronicle.add (ensemble.turnsOf · move)).taken := by
        rw [app_sessionStep]
        exact faithful
      have next := ih (inStep.sessionStep recorded faithful move) (recorded.sessionStep move)
        still_faithful
      rw [← Chronicle.add_append] at next
      exact next

theorem faithful_subscribe (faithful : ensemble.app.Faithful cap chronicle.taken) (topic : Topic) :
    (ensemble.subscribe topic).app.Faithful cap chronicle.taken := by
  rw [app_subscribe]
  exact faithful.of_alike (by simp) (by simp) (by simp)

/-- The application asks for a topic, and sessions go on. -/
theorem InStep.ask (inStep : InStep asked ensemble chronicle.turns)
    (recorded : Recorded plan ensemble chronicle)
    (faithful : ensemble.app.Faithful cap chronicle.taken)
    (connected : ensemble.app.dashboard.isConnected = true) (topic : Topic)
    (new : ∀ held ∈ asked, held.id ≠ (App.nextAsked asked topic).id) (moves : List SessionMove) :
    InStep (asked ++ [App.nextAsked asked topic]) ((ensemble.subscribe topic).sessionRun moves)
      (chronicle.add (turnsAmong · moves (ensemble.subscribe topic))).turns :=
  (inStep.subscribe connected topic new).sessionRun (recorded.subscribe topic)
    (faithful_subscribe faithful topic) moves

/-- The application asks for one topic after the other, while sessions go on. -/
theorem InStep.asking (inStep : InStep [] ensemble chronicle.turns)
    (recorded : Recorded plan ensemble chronicle)
    (faithful : ensemble.app.Faithful cap chronicle.taken)
    (connected : ensemble.app.dashboard.isConnected = true)
    (meanwhile : Topic → List SessionMove) :
    InStep App.bothTopics
      (Topic.all.foldl (fun ensemble topic =>
        (ensemble.subscribe topic).sessionRun (meanwhile topic)) ensemble)
      (chronicle.add (turnsWhileAsking · meanwhile Topic.all ensemble)).turns := by
  have first := inStep.ask recorded faithful connected .blocks nofun (meanwhile .blocks)
  have first_recorded := (recorded.subscribe .blocks).sessionRun (meanwhile .blocks)
  have first_faithful :
      ((ensemble.subscribe .blocks).sessionRun (meanwhile .blocks)).app.Faithful cap
        (chronicle.add (turnsAmong · (meanwhile .blocks) (ensemble.subscribe .blocks))).taken := by
    rw [app_sessionRun]
    exact faithful_subscribe faithful .blocks
  have new : ∀ held ∈ [App.nextAsked [] .blocks],
      held.id ≠ (App.nextAsked [App.nextAsked [] .blocks] .transactions).id := by
    decide +kernel
  have both := first.ask first_recorded first_faithful (by simpa using connected) .transactions new
    (meanwhile .transactions)
  have numbered : [] ++ [App.nextAsked [] .blocks] ++
      [App.nextAsked ([] ++ [App.nextAsked [] .blocks]) .transactions] = App.bothTopics := by
    decide +kernel
  rw [numbered, ← Chronicle.add_append] at both
  simpa [Topic.all, turnsWhileAsking] using both

/-- A session that is held is welcome only before the application has asked it for anything. -/
theorem InStep.deliver (inStep : InStep ensemble.app.askedFor ensemble chronicle.turns)
    (recorded : Recorded plan ensemble chronicle)
    (faithful : ensemble.app.Faithful cap chronicle.taken) {envelope : Envelope}
    {rest : List Envelope} (waiting : ensemble.channel = envelope :: rest) (now : Nat)
    (arrival : ClockTime) (meanwhile : Topic → List SessionMove) :
    let left := { ensemble with channel := rest }
    let after := left.apply now arrival meanwhile envelope
    InStep after.app.askedFor after
      ((chronicle.take arrival envelope).add (left.turnsMeanwhile · meanwhile envelope)).turns := by
  intro left after
  have at_rest : InStep left.app.askedFor left chronicle.turns := inStep.with_channel rest
  cases welcomed : left.welcomed? envelope with
  | none =>
      simp only [after, Ensemble.apply, turnsMeanwhile, welcomed, Chronicle.add_nil]
      apply at_rest.advance recorded.count now
      intro handle server arrived accepts same held
      cases same
      rw [welcomed_of_live (App.generation?_of_held held)] at welcomed
      cases welcomed
  | some server =>
      rcases envelope with ⟨generation, event⟩
      rcases envelope_of_welcomed welcomed with ⟨live, rfl⟩
      have ordered := recorded.ordered_next arrival waiting
      have not_connected := App.not_connected_of_welcome (faithful.fits_next live ordered)
      rw [App.askedFor, if_neg (Bool.eq_false_iff.mp not_connected)] at at_rest
      have shown : InStep [] { left with app := left.app.showConnected }
          (chronicle.take arrival ⟨generation, .connected server⟩).turns :=
        at_rest.of_same rfl (absurd rfl) rfl rfl
      have asks := shown.asking ((recorded.take_channel arrival waiting).of_app rfl rfl)
        (App.faithful_showConnected faithful arrival live ordered) rfl meanwhile
      have connected : after.app.dashboard.isConnected = true := by
        simp only [after, Ensemble.apply, welcomed, welcome, Topic.all, List.foldl_cons,
          List.foldl_nil, app_sessionRun, app_subscribe, App.dashboard_announce,
          App.dashboard_subscribe]
        rfl
      rw [App.askedFor, if_pos connected]
      simp only [after, Ensemble.apply, turnsMeanwhile, welcomed, welcome] at connected ⊢
      exact asks.of_same rfl (fun _ => connected) rfl rfl

/-- Every move keeps the application and its session in step. -/
theorem inStep_step (recorded : Recorded plan ensemble chronicle)
    (faithful : ensemble.app.Faithful cap chronicle.taken)
    (inStep : InStep ensemble.app.askedFor ensemble chronicle.turns) (now : Nat) (move : Move) :
    InStep (ensemble.step now move).app.askedFor (ensemble.step now move)
      (chronicle.after ensemble move).turns := by
  cases move with
  | press press =>
      rw [Chronicle.after_of_idle rfl fun _ => rfl]
      apply inStep.advance recorded.count now (.press press)
      intro handle server arrival accepts impossible
      cases impossible
  | act action =>
      rw [Chronicle.after_of_idle rfl fun _ => rfl]
      apply inStep.advance recorded.count now (.act action)
      intro handle server arrival accepts impossible
      cases impossible
  | tick =>
      rw [Chronicle.after_of_idle rfl fun _ => rfl]
      apply inStep.advance recorded.count now .tick
      intro handle server arrival accepts impossible
      cases impossible
  | deliver arrival meanwhile =>
      cases waiting : ensemble.channel with
      | nil =>
          rw [Chronicle.after_of_idle (by simp [takenIn, waiting])
            fun _ => by simp [turnsIn, waiting]]
          simpa only [step, waiting] using inStep
      | cons envelope rest =>
          rw [Chronicle.after_deliver chronicle waiting]
          simp only [step, waiting]
          exact inStep.deliver recorded faithful waiting now arrival meanwhile
  | session move =>
      rw [Chronicle.after_session]
      simp only [step, app_sessionStep]
      exact inStep.sessionStep recorded faithful move

end Steps

theorem inStep_afterAll {plan : SessionPlan} {cap : Option Nat} {ensemble : Ensemble}
    {chronicle : Chronicle} (recorded : Recorded plan ensemble chronicle)
    (faithful : ensemble.app.Faithful cap chronicle.taken)
    (inStep : InStep ensemble.app.askedFor ensemble chronicle.turns) (moves : List (Nat × Move)) :
    InStep (ensemble.run moves).app.askedFor (ensemble.run moves)
      (Chronicle.afterAll moves ensemble chronicle).turns := by
  induction moves generalizing ensemble chronicle with
  | nil => exact inStep
  | cons timed rest ih =>
      exact ih (recorded_step recorded timed.1 timed.2)
        (faithful_step recorded faithful timed.1 timed.2)
        (inStep_step recorded faithful inStep timed.1 timed.2)

/-- In every run the application and the session that it holds are in step. -/
theorem inStep_run (plan : SessionPlan) (cap : Option Nat) (moves : List (Nat × Move)) :
    InStep ((initial plan cap).run moves).app.askedFor ((initial plan cap).run moves)
      ((initial plan cap).chronicle moves).turns :=
  inStep_afterAll (recorded_initial plan cap) (App.faithful_initial plan cap)
    (inStep_initial plan cap) moves

/-- The session that is held counts as accepted once the application has taken the news that it
is. -/
theorem isConnected_iff_welcomed {cap : Option Nat} {app : App}
    {taken : List (ClockTime × Envelope)} (faithful : app.Faithful cap taken) {generation : Nat}
    (live : app.generation? = some generation) :
    app.dashboard.isConnected = true ↔
      ∃ arrival server, (arrival, ⟨generation, .connected server⟩) ∈ taken := by
  refine ⟨?_, ?_⟩
  · intro connected
    have stage := faithful.stage generation live
    rw [connected] at stage
    have fits := Session.fits_of_stage? stage
    generalize heard : (heardFrom generation taken).map Prod.snd = events at fits
    cases fits with
    | accepted server only_news =>
        have mem : .connected server ∈ (heardFrom generation taken).map Prod.snd :=
          heard ▸ List.mem_cons_self
        rcases List.mem_map.mp mem with ⟨⟨arrival, event⟩, mem, rfl⟩
        rcases List.mem_map.mp mem with ⟨⟨arrived, envelope⟩, mem, same⟩
        rcases envelope with ⟨other, event⟩
        cases same
        have from_session := List.mem_filter.mp mem
        cases beq_iff_eq.mp from_session.2
        exact ⟨arrival, server, from_session.1⟩
  · rintro ⟨arrival, server, mem⟩
    rw [faithful.isConnected_iff live]
    have heard : (arrival, SessionEvent.connected server) ∈ heardFrom generation taken :=
      List.mem_map.mpr ⟨_, List.mem_filter.mpr ⟨mem, beq_self_eq_true generation⟩, rfl⟩
    exact List.ne_nil_of_mem heard

/-- The session that the application holds was started, and as long as it serves requests, it agrees
with the application on what is subscribed. Once the application has taken the news that the node
accepted the session, it counts the first two ids as subscribed, one to each topic, and the session
comes to serve just these when it does what its queue asks for. Until then the session serves
nothing, and nothing waits for it. -/
theorem subscriptions_agree (plan : SessionPlan) (cap : Option Nat) (moves : List (Nat × Move)) :
    let ensemble := (initial plan cap).run moves
    let taken := ((initial plan cap).chronicle moves).taken
    ∀ generation, ensemble.app.generation? = some generation →
      ∃ member, ensemble.member? generation = some member ∧
        ∀ routes beat, member.session.phase = .serving routes beat →
          (ensemble.app.dashboard.isConnected = true →
            ensemble.app.subscriptions = [⟨"sub-0", .blocks⟩, ⟨"sub-1", .transactions⟩] ∧
            member.session.waiting.foldl Session.Routes.after routes =
              ensemble.app.subscriptions.map fun subscription =>
                (subscription.id, subscription.topic)) ∧
          ((∀ arrival server, (arrival, ⟨generation, .connected server⟩) ∉ taken) →
            routes = [] ∧ member.session.waiting = []) := by
  intro ensemble taken generation live
  rcases Option.map_eq_some_iff.mp live with ⟨handle, held, rfl⟩
  have faithful := faithful_run plan cap moves
  have inStep := inStep_run plan cap moves
  rcases (inStep.held handle held).attuned with ⟨member, found, attuned⟩
  refine ⟨member, found, ?_⟩
  intro routes beat serves
  have agreed := attuned.agreed routes (by rw [serves]; rfl)
  refine ⟨?_, ?_⟩
  · intro connected
    refine ⟨?_, agreed.1.symm ▸ agreed.2⟩
    rw [agreed.1, App.askedFor, if_pos connected]
    rfl
  · intro untold
    have not_connected : ensemble.app.dashboard.isConnected = false := by
      rw [← Bool.not_eq_true]
      intro connected
      rcases (isConnected_iff_welcomed faithful live).mp connected with ⟨arrival, server, mem⟩
      exact untold arrival server mem
    have nothing_asked : ensemble.app.askedFor = [] :=
      if_neg (Bool.eq_false_iff.mp not_connected)
    have nothing_waits := attuned.fresh nothing_asked
    rw [nothing_asked, nothing_waits] at agreed
    exact ⟨agreed.2, nothing_waits⟩

/-- Right after the application has heard that its session was accepted, all that it subscribes to
waits. -/
theorem subscriptions_agree_of_welcome :
    let plan : SessionPlan := ⟨"ws://node/ws", .ofParts 10 0⟩
    let moves : List (Nat × Move) :=
      [(0, .act .connect), (1, .session (.hear 1 none (.dialled (.ok ())))),
        (2, .session (.hear 1 none (.message (.text "CONNECTED\n\n\x00")))),
        (3, .session (.post 1)), (4, .deliver ⟨1, 2, 3⟩ fun _ => [])]
    let ensemble := (initial plan (some 3)).run moves
    let asked : List Request := [.subscribe ⟨"sub-0", .blocks⟩, .subscribe ⟨"sub-1", .transactions⟩]
    ensemble.app.generation? = some 1 ∧ ensemble.app.dashboard.isConnected = true ∧
      ensemble.member? 1 = some ⟨⟨plan, .serving [] none, asked⟩, []⟩ ∧
      ensemble.app.subscriptions = [⟨"sub-0", .blocks⟩, ⟨"sub-1", .transactions⟩] ∧
      asked.foldl Session.Routes.after [] = [("sub-0", .blocks), ("sub-1", .transactions)] := by
  intro plan moves ensemble asked
  have live : ensemble.app.generation? = some 1 := by decide +kernel
  have connected : ensemble.app.dashboard.isConnected = true := by decide +kernel
  have place : ensemble.member? 1 = some ⟨⟨plan, .serving [] none, asked⟩, []⟩ := by decide +kernel
  rcases subscriptions_agree plan (some 3) moves 1 live with ⟨member, found, agree⟩
  cases found.symm.trans place
  have agreed := (agree [] none rfl).1 connected
  refine ⟨live, connected, place, agreed.1, agreed.2.trans ?_⟩
  rw [agreed.1]
  rfl

end Ensemble

end LedgerBoard
