import Mathlib.Data.List.Induction
import LedgerBoard.Proofs.Session.Routing

/-!
# How sessions end

A session ends because its owner asks for it, because its transport or its node fails it, or because
nobody takes its events any more. `Ending` lists everything that ends a session in a turn, with the
cause. A turn ends a session exactly if it is listed, and then the last report names the cause,
unless the owner went away.
-/

namespace LedgerBoard.Session

/-- Whether an input asks a session to end: its owner says so, or nobody holds its handle. -/
def Input.asksEnd : Input → Bool
  | request .disconnect | abandoned => true
  | _ => false

/-- Whether a session heeds what the transport does in a phase. -/
def Phase.heeds : Phase → Bool
  | .greeting | .serving _ _ => true
  | _ => false

/-- Whether an input ends the wait for the receipt. -/
def Input.endsWait : Input → Bool
  | message (.close _) | failed _ | ended | waitOver => true
  | message content => content.frames.any isReceipt
  | _ => false

/-- An end is asked for by a request, or by giving up the handle. -/
theorem Input.asksEnd_iff {input : Input} :
    input.asksEnd = true ↔ input = .request .disconnect ∨ input = .abandoned := by
  cases input with
  | request request => cases request <;> simp [asksEnd]
  | _ => simp [asksEnd]

/-- Neither the node nor the clock asks for an end. -/
theorem Input.asksEnd_of_isForeign {input : Input} (foreign : input.isForeign = true) :
    input.asksEnd = false := by
  cases input with
  | request request => cases foreign
  | abandoned => cases foreign
  | _ => rfl

theorem Phase.heeds_iff {phase : Phase} :
    phase.heeds = true ↔ phase = .greeting ∨ ∃ routes beat, phase = .serving routes beat := by
  cases phase <;> simp [heeds]

/-- The turns in which a session has something to send. -/
inductive Sends : Phase → Input → Prop where
  | opening : Sends .dialling (.dialled (.ok ()))
  | subscribe {routes : Routes} {beat : Option Duration} (subscription : Subscription) :
      Sends (.serving routes beat) (.request (.subscribe subscription))
  | unsubscribe {routes : Routes} {beat : Option Duration} {id : String}
      (held : (routes.lookup id).isSome = true) :
        Sends (.serving routes beat) (.request (.unsubscribe id))
  | closing {routes : Routes} {beat : Option Duration} {input : Input}
      (asks : input.asksEnd = true) :
      Sends (.serving routes beat) input
  | beat {routes : Routes} (period : Duration) : Sends (.serving routes (some period)) .beatDue

/-- Everything that ends a session in a turn, and why it ends then. There is no cause where the
owner asked for the end. -/
inductive Ending (weather : Weather) : Phase → Input → Option SessionError → Prop where
  /-- The owner asks for the end before the node accepted the session. -/
  | early {phase : Phase} {input : Input} (asks : input.asksEnd = true)
      (before : phase = .dialling ∨ phase = .greeting) : Ending weather phase input none
  /-- The wait for the receipt is over, for whatever reason. -/
  | left {input : Input} (ends : input.endsWait = true) : Ending weather .leaving input none
  | unreached (cause : TransportError) :
      Ending weather .dialling (.dialled (.error cause)) (some (.transport cause))
  | unsent {phase : Phase} {input : Input} {cause : TransportError} (sends : Sends phase input)
      (fault : weather.sendFault = some cause) :
        Ending weather phase input (some (.transport cause))
  | broken {phase : Phase} (heeds : phase.heeds = true) (cause : TransportError) :
      Ending weather phase (.failed cause) (some (.transport cause))
  | cut {phase : Phase} (heeds : phase.heeds = true) :
      Ending weather phase .ended (some .connectionClosed)
  | shut {phase : Phase} (heeds : phase.heeds = true) (reason : Option String) :
      Ending weather phase (.message (.close reason)) (some (.closedByServer reason))
  /-- The node answers the opening frame with an error. -/
  | refused {message : Message} {frame : Frame} (first : message.frames.head? = some frame)
      (error : frame.command = .error) :
      Ending weather .greeting (.message message) (some (serverError frame))
  | unexpected {message : Message} {frame : Frame} (first : message.frames.head? = some frame)
      (no_answer : frame.command ≠ .connected ∧ frame.command ≠ .error) :
      Ending weather .greeting (.message message) (some (.unexpectedFrame frame.command))
  /-- The node sends an error while requests are served. -/
  | refuted {routes : Routes} {beat : Option Duration} {message : Message} {frame : Frame}
      (error : errorIn? message.frames = some frame)
      (heard : (routeAll routes weather.hearing message.frames).2 ≠ some .eventsDropped) :
      Ending weather (.serving routes beat) (.message message) (some (serverError frame))
  /-- The owner does not take the news that the node accepted the session. -/
  | unwelcome {message : Message} {frame : Frame} (first : message.frames.head? = some frame)
      (accepted : frame.command = .connected) (deaf : weather.hearing = some 0) :
      Ending weather .greeting (.message message) (some .eventsDropped)
  /-- The owner does not take all events that come before an error. -/
  | unheard {routes : Routes} {beat : Option Duration} {message : Message}
      (deaf : (routeAll routes weather.hearing message.frames).2 = some .eventsDropped) :
      Ending weather (.serving routes beat) (.message message) (some .eventsDropped)

/-- A turn ends a session after some news. The last report names the cause, unless the owner took
the news of this turn and then went away. -/
structure Closes (weather : Weather) (cause : Option SessionError) (result : Phase × List Output) :
    Prop where
  is_over : result.1 = .over
  told : ∃ news, (∀ event ∈ news, event.topic?.isSome = true) ∧
    (reports result.2 = news ++ [.closed (cause.map SessionError.message)] ∨
      reports result.2 = news ∧ weather.hearing = some news.length)

section Closes

variable {plan : SessionPlan} {weather : Weather} {phase : Phase} {input : Input}
  {cause : Option SessionError}

theorem closes_finish (told : cause ≠ some .eventsDropped ∨ weather.hearing = some 0)
    {closing : List Output} (closes : closing = [] ∨ closing = [.close]) :
    Closes weather cause (finish weather cause closing) := by
  have quiet : reports closing = [] := by rcases closes with rfl | rfl <;> rfl
  refine ⟨rfl, [], nofun, ?_⟩
  rw [finish, reports_append, quiet, List.nil_append, farewell]
  by_cases deaf : weather.hearing = some 0
  · right
    simp [deaf, reports]
  · left
    simp [deaf, told.resolve_right deaf, reports]

theorem closes_unsent {fault : TransportError} (failed : weather.sendFault = some fault)
    (output : Output) (next : Phase) :
    Closes weather (some (.transport fault)) (sending weather output next) := by
  rw [sending, failed]
  exact closes_finish (.inl (by simp)) (.inl rfl)

/-- The routes of a session say what is subscribed. -/
theorem agrees_self (routes : Routes) :
    Agrees (fun id => (routes.lookup id).map Topic.destination) routes :=
  fun _ => rfl

/-- An owner who goes away in the middle has taken just what was reported. -/
theorem length_of_routeAll {routes : Routes} {limit : Nat} {frames : List Frame}
    {events : List SessionEvent} {ending : Option SessionError}
    (routed : routeAll routes (some limit) frames = (events, ending)) :
    events.length ≤ limit ∧ (ending = some .eventsDropped → events.length = limit) := by
  induction frames generalizing limit events with
  | nil =>
      cases routed
      exact ⟨Nat.zero_le _, nofun⟩
  | cons frame rest ih =>
      rw [routeAll] at routed
      split at routed
      · rename_i fault route_found
        cases routed
        refine ⟨Nat.zero_le _, ?_⟩
        intro dropped
        rw [route_eq (agrees_self routes)] at route_found
        split at route_found
        · cases dropped
          cases route_found
        · cases route_found
      · exact ih routed
      · split at routed
        · rename_i deaf
          cases routed
          cases deaf
          exact ⟨Nat.le_refl _, fun _ => rfl⟩
        · rename_i hears
          rcases rest_routed : routeAll routes (some (limit - 1)) rest with ⟨more, last⟩
          rw [Option.map_some, rest_routed] at routed
          cases routed
          have counted := ih rest_routed
          have positive : limit ≠ 0 := fun zero => hears (congrArg some zero)
          simp only [List.length_cons]
          refine ⟨by omega, ?_⟩
          intro dropped
          have exhausted := counted.2 dropped
          omega

theorem closes_serve {routes : Routes} {beat : Option Duration} {message : Message}
    {events : List SessionEvent} {fault : SessionError}
    (routed : routeAll routes weather.hearing message.frames = (events, some fault)) :
    Closes weather (some fault) (serve weather routes beat message) := by
  have result : serve weather routes beat message =
      finish { weather with hearing := weather.hearing.map (· - events.length) } (some fault)
        (events.map .report) := by
    rw [serve, routed]
  rw [result]
  refine ⟨rfl, events, (newsOf_routeAll (agrees_self routes) routed).1, ?_⟩
  rw [finish, reports_append, reports_reports, farewell]
  by_cases tells : (weather.hearing.map (· - events.length) != some 0 &&
    some fault != some .eventsDropped) = true
  · left
    rw [if_pos tells]
    rfl
  · right
    rw [if_neg tells]
    refine ⟨List.append_nil _, ?_⟩
    cases heard : weather.hearing with
    | none =>
        rw [heard] at routed
        have stays := routeAll_none_ne_dropped (agrees_self routes) message.frames
        rw [routed] at stays
        simp [heard, stays] at tells
    | some limit =>
        rw [heard] at routed tells
        have counted := length_of_routeAll routed
        by_cases dropped : some fault = some .eventsDropped
        · rw [counted.2 dropped]
        · simp [dropped] at tells
          have exhausted : limit = events.length := by omega
          rw [exhausted]

/-- A message closes the transport, or carries frames. -/
theorem close_or_carrier (message : Message) :
    (∃ reason, message = .close reason) ∨ carrier? (.message message) = some message := by
  cases message with
  | close reason => exact .inl ⟨reason, rfl⟩
  | _ => exact .inr rfl

theorem turn_greeting_of_head {message : Message} {frame : Frame}
    (first : message.frames.head? = some frame) :
    turn plan weather (.message message) .greeting = welcome plan weather frame := by
  have some_frames : message.frames ≠ [] := by
    intro no_frames
    rw [no_frames] at first
    cases first
  rw [turn_carrier plan weather (carrier?_of_frames some_frames), readFrames, first]
  rfl

theorem turn_serving_of_carrier {routes : Routes} {beat : Option Duration} {message : Message}
    (carries : carrier? (.message message) = some message) :
    turn plan weather (.message message) (.serving routes beat) =
      serve weather routes beat message := by
  cases message with
  | close reason => cases carries
  | _ => rfl

/-- A leaving session waits for its receipt, and does nothing else. -/
theorem turn_leaving :
    turn plan weather input .leaving =
      if input.endsWait then finish weather none [.close] else (.leaving, []) := by
  cases input with
  | message message =>
      cases message with
      | close reason => rfl
      | _ => rfl
  | _ => rfl

/-- Every ending ends the session, and the owner is told why. -/
theorem closes_of_ending (plan : SessionPlan) (ending : Ending weather phase input cause) :
    Closes weather cause (turn plan weather input phase) := by
  cases ending with
  | early asks before =>
      rcases before with rfl | rfl <;> rcases Input.asksEnd_iff.mp asks with rfl | rfl
      · exact closes_finish (.inl (by simp)) (.inl rfl)
      · exact closes_finish (.inl (by simp)) (.inl rfl)
      · exact closes_finish (.inl (by simp)) (.inr rfl)
      · exact closes_finish (.inl (by simp)) (.inr rfl)
  | left ends =>
      rw [turn_leaving, if_pos ends]
      exact closes_finish (.inl (by simp)) (.inr rfl)
  | unreached fault => exact closes_finish (.inl (by simp)) (.inl rfl)
  | unsent sends fault =>
      cases sends with
      | opening => exact closes_unsent fault _ _
      | subscribe subscription => exact closes_unsent fault _ _
      | unsubscribe held =>
          rw [turn, turnServing, if_pos held]
          exact closes_unsent fault _ _
      | closing asks =>
          rcases Input.asksEnd_iff.mp asks with rfl | rfl
          · exact closes_unsent fault _ _
          · exact closes_unsent fault _ _
      | beat period => exact closes_unsent fault _ _
  | broken heeds fault =>
      rcases Phase.heeds_iff.mp heeds with rfl | ⟨routes, beat, rfl⟩
      · exact closes_finish (.inl (by simp)) (.inl rfl)
      · exact closes_finish (.inl (by simp)) (.inl rfl)
  | cut heeds =>
      rcases Phase.heeds_iff.mp heeds with rfl | ⟨routes, beat, rfl⟩
      · exact closes_finish (.inl (by simp)) (.inl rfl)
      · exact closes_finish (.inl (by simp)) (.inl rfl)
  | shut heeds reason =>
      rcases Phase.heeds_iff.mp heeds with rfl | ⟨routes, beat, rfl⟩
      · exact closes_finish (.inl (by simp)) (.inl rfl)
      · exact closes_finish (.inl (by simp)) (.inl rfl)
  | refused first error =>
      rw [turn_greeting_of_head first, welcome, error]
      exact closes_finish (.inl (by simp [serverError])) (.inl rfl)
  | unexpected first no_answer =>
      rw [turn_greeting_of_head first, welcome.eq_def]
      split
      · exact absurd ‹_› no_answer.1
      · exact absurd ‹_› no_answer.2
      · exact closes_finish (.inl (by simp)) (.inl rfl)
  | refuted error heard =>
      rename_i routes beat message frame
      have carries : carrier? (.message message) = some message :=
        carrier?_of_frames fun no_frames => by
        simp [no_frames, errorIn?] at error
      rw [turn_serving_of_carrier carries]
      rcases routed : routeAll routes weather.hearing message.frames with ⟨events, fault⟩
      rw [routed] at heard
      have ends := ((owed_of_routeAll (agrees_self routes) routed).2 heard).2
      rw [error] at ends
      cases ends
      exact closes_serve routed
  | unwelcome first accepted deaf =>
      rw [turn_greeting_of_head first, welcome, accepted]
      simp only [deaf, if_true]
      exact closes_finish (.inr deaf) (.inl rfl)
  | unheard deaf =>
      rename_i routes beat message
      have carries : carrier? (.message message) = some message :=
        carrier?_of_frames fun no_frames => by
        simp [no_frames, routeAll] at deaf
      rw [turn_serving_of_carrier carries]
      rcases routed : routeAll routes weather.hearing message.frames with ⟨events, fault⟩
      rw [routed] at deaf
      cases deaf
      exact closes_serve routed

theorem exists_fault_of_over {output : Output} {next : Phase} (goes_on : next ≠ .over)
    (is_over : (sending weather output next).1 = .over) :
    ∃ fault, weather.sendFault = some fault := by
  rw [sending] at is_over
  split at is_over
  · exact ⟨_, ‹_›⟩
  · exact absurd is_over goes_on

/-- A session that is over because it could not send has ended for the fault. -/
theorem ending_of_unsent {output : Output} {next : Phase} (sends : Sends phase input)
    (is_over : (sending weather output next).1 = .over) (goes_on : next ≠ .over) :
    ∃ cause, Ending weather phase input cause := by
  rcases exists_fault_of_over goes_on is_over with ⟨fault, failed⟩
  exact ⟨_, .unsent sends failed⟩

/-- A session that is over after the answer of the node has ended for what the node said. -/
theorem ending_of_welcome {message : Message} {frame : Frame}
    (first : message.frames.head? = some frame) (is_over : (welcome plan weather frame).1 = .over) :
    ∃ cause, Ending weather .greeting (.message message) cause := by
  rw [welcome.eq_def] at is_over
  split at is_over
  · rename_i accepted
    split at is_over
    · exact ⟨_, .unwelcome first accepted ‹_›⟩
    · cases is_over
  · exact ⟨_, .refused first ‹_›⟩
  · rename_i not_accepted not_refused
    exact ⟨_, .unexpected first ⟨not_accepted, not_refused⟩⟩

/-- A session that is over after it served a message has ended for what was routed. -/
theorem ending_of_serve {routes : Routes} {beat : Option Duration} {message : Message}
    (is_over : (serve weather routes beat message).1 = .over) :
    ∃ cause, Ending weather (.serving routes beat) (.message message) cause := by
  rcases routed : routeAll routes weather.hearing message.frames with ⟨events, ending⟩
  rw [serve, routed] at is_over
  cases ending with
  | none => cases is_over
  | some cause =>
      by_cases dropped : some cause = some .eventsDropped
      · exact ⟨_, .unheard (by rw [routed]; exact dropped)⟩
      · have fault := ((owed_of_routeAll (agrees_self routes) routed).2 dropped).2
        rcases Option.map_eq_some_iff.mp fault.symm with ⟨frame, error, -⟩
        exact ⟨_, .refuted error (by rw [routed]; exact dropped)⟩

theorem ending_of_serving {routes : Routes} {beat : Option Duration}
    (is_over : (turn plan weather input (.serving routes beat)).1 = .over) :
    ∃ cause, Ending weather (.serving routes beat) input cause := by
  have heeds : (Phase.serving routes beat).heeds = true := rfl
  cases input with
  | request request =>
      cases request with
      | subscribe subscription => exact ending_of_unsent (.subscribe subscription) is_over (by simp)
      | unsubscribe id =>
          rw [turn, turnServing] at is_over
          split at is_over
          · exact ending_of_unsent (.unsubscribe ‹_›) is_over (by simp)
          · cases is_over
      | disconnect => exact ending_of_unsent (.closing rfl) is_over (by simp)
  | abandoned => exact ending_of_unsent (.closing rfl) is_over (by simp)
  | message message =>
      rcases close_or_carrier message with ⟨reason, rfl⟩ | carries
      · exact ⟨_, .shut heeds reason⟩
      · rw [turn_serving_of_carrier carries] at is_over
        exact ending_of_serve is_over
  | failed cause => exact ⟨_, .broken heeds cause⟩
  | ended => exact ⟨_, .cut heeds⟩
  | beatDue =>
      cases beat with
      | none => cases is_over
      | some period => exact ending_of_unsent (.beat period) is_over (by simp)
  | dialled outcome => cases is_over
  | waitOver => cases is_over

theorem ending_of_greeting (is_over : (turn plan weather input .greeting).1 = .over) :
    ∃ cause, Ending weather .greeting input cause := by
  cases input with
  | message message =>
      rcases close_or_carrier message with ⟨reason, rfl⟩ | carries
      · exact ⟨_, .shut rfl reason⟩
      · cases first : message.frames.head? with
        | none =>
            rw [turn_carrier plan weather carries, readFrames, first] at is_over
            cases is_over
        | some frame =>
            rw [turn_greeting_of_head first] at is_over
            exact ending_of_welcome first is_over
  | request request =>
      cases request with
      | disconnect => exact ⟨none, .early rfl (.inr rfl)⟩
      | _ => cases is_over
  | abandoned => exact ⟨none, .early rfl (.inr rfl)⟩
  | failed cause => exact ⟨_, .broken rfl cause⟩
  | ended => exact ⟨_, .cut rfl⟩
  | _ => cases is_over

theorem ending_of_dialling (is_over : (turn plan weather input .dialling).1 = .over) :
    ∃ cause, Ending weather .dialling input cause := by
  cases input with
  | dialled outcome =>
      cases outcome with
      | error cause => exact ⟨_, .unreached cause⟩
      | ok reached => exact ending_of_unsent .opening is_over nofun
  | request request =>
      cases request with
      | disconnect => exact ⟨none, .early rfl (.inl rfl)⟩
      | _ => cases is_over
  | abandoned => exact ⟨none, .early rfl (.inl rfl)⟩
  | _ => cases is_over

/-- A turn after which a session is over gives the cause of its end. -/
theorem ending_of_over (open_before : phase ≠ .over)
    (is_over : (turn plan weather input phase).1 = .over) :
    ∃ cause, Ending weather phase input cause := by
  cases phase with
  | dialling => exact ending_of_dialling is_over
  | greeting => exact ending_of_greeting is_over
  | serving routes beat => exact ending_of_serving is_over
  | leaving =>
      rw [turn_leaving] at is_over
      split at is_over
      · exact ⟨none, .left ‹_›⟩
      · cases is_over
  | «over» => exact absurd rfl open_before

/-- The reason that is reported is the text of the cause. -/
theorem reason_of_closes {result : Phase × List Output} (closes : Closes weather cause result)
    {reason : Option String} (reported : .closed reason ∈ reports result.2) :
    reason = cause.map SessionError.message := by
  rcases closes.told with ⟨news, only_news, told | ⟨told, -⟩⟩
  · rw [told, List.mem_append] at reported
    rcases reported with among | last
    · cases only_news _ among
    · cases List.mem_singleton.mp last
      rfl
  · rw [told] at reported
    cases only_news _ reported

/-- A turn that reports the end is the end. -/
theorem over_of_closed {reason : Option String}
    (reported : .closed reason ∈ reports (turn plan weather input phase).2) :
    (turn plan weather input phase).1 = .over := by
  rcases made : turn plan weather input phase with ⟨next, outputs⟩
  rw [made] at reported
  cases turn_of_eq plan weather input made with
  | serve routed =>
      rw [reports_reports] at reported
      cases (newsOf_routeAll (agrees_self _) routed).1 _ reported
  | fail routed => rfl
  | finish open_before closes unrouted => rfl
  | _ => simp [reports] at reported

end Closes

section Runs

variable {plan : SessionPlan} {turns : List (Weather × Input)} {cause : Option SessionError}

/-- A session comes to its end in one of the turns that it makes. -/
def EndsFor (plan : SessionPlan) (turns : List (Weather × Input)) (cause : Option SessionError) :
    Prop :=
  ∃ front weather input back, turns = front ++ (weather, input) :: back ∧
    Ending weather (run plan front .dialling).1 input cause

/-- Nothing happens after an ending. -/
theorem run_of_ending {front back : List (Weather × Input)} {weather : Weather} {input : Input}
    (ending : Ending weather (run plan front .dialling).1 input cause) :
    run plan (front ++ (weather, input) :: back) .dialling =
      (.over, (run plan front .dialling).2 ++
        (turn plan weather input (run plan front .dialling).1).2) := by
  rw [run_append, run_cons, (closes_of_ending plan ending).is_over, run_over, List.append_nil]

/-- Every report is made in one of the turns. -/
theorem exists_turn_of_report {event : SessionEvent} {phase : Phase}
    (reported : event ∈ reports (run plan turns phase).2) :
    ∃ front weather input back, turns = front ++ (weather, input) :: back ∧
      event ∈ reports (turn plan weather input (run plan front phase).1).2 := by
  induction turns generalizing phase with
  | nil => cases reported
  | cons first rest ih =>
      rcases first with ⟨weather, input⟩
      rw [run_cons, reports_append, List.mem_append] at reported
      rcases reported with now | later
      · exact ⟨[], weather, input, rest, rfl, now⟩
      · rcases ih later with ⟨front, other, taken, back, rfl, reported⟩
        exact ⟨(weather, input) :: front, other, taken, back, rfl, reported⟩

/-- A session that says that it is over says why. -/
theorem endsFor_of_closed {reason : Option String}
    (reported : .closed reason ∈ reports (run plan turns .dialling).2) :
    ∃ cause, EndsFor plan turns cause ∧ reason = cause.map SessionError.message := by
  rcases exists_turn_of_report reported with ⟨front, weather, input, back, split, reported⟩
  have open_before : (run plan front .dialling).1 ≠ .over := by
    intro over_before
    rw [over_before] at reported
    cases reported
  rcases ending_of_over open_before (over_of_closed reported) with ⟨cause, ending⟩
  exact ⟨cause, ⟨front, weather, input, back, split, ending⟩,
    reason_of_closes (closes_of_ending plan ending) reported⟩

/-- A session that is over has ended for a cause, in its last turn or in one before. -/
theorem exists_endsFor_of_over (is_over : (run plan turns .dialling).1 = .over) :
    ∃ cause, EndsFor plan turns cause := by
  induction turns using List.reverseRecOn with
  | nil => cases is_over
  | append_singleton front last ih =>
      rcases last with ⟨weather, input⟩
      by_cases over_before : (run plan front .dialling).1 = .over
      · rcases ih over_before with ⟨cause, before, other, taken, back, rfl, ending⟩
        refine ⟨cause, before, other, taken, back ++ [(weather, input)], ?_, ending⟩
        rw [List.append_assoc, List.cons_append]
      · rw [run_append, run_cons] at is_over
        rcases ending_of_over over_before is_over with ⟨cause, ending⟩
        exact ⟨cause, front, weather, input, [], rfl, ending⟩

end Runs

end LedgerBoard.Session
