import LedgerBoard.Proofs.Dashboard.History
import LedgerBoard.Proofs.Session.Endings

/-!
# The trace of a session

The events of a session come in one order: that the node accepted it, then news, then that it is
over. The first event goes back to the first frame that the node sent, and the last one to what
ended the session.
-/

namespace LedgerBoard

namespace Session

/-- What may come before the last event. -/
def IsOpening (events : List SessionEvent) : Prop :=
  events = [] ∨ ∃ server news, events = .connected server :: news ∧
    ∀ event ∈ news, event.topic?.isSome = true

/-- The events after which a session is in a stage. -/
inductive Stage.Fits : Stage → List SessionEvent → Prop where
  | silent : Fits .silent []
  | accepted (server : Option String) {news : List SessionEvent}
      (only_news : ∀ event ∈ news, event.topic?.isSome = true) :
        Fits .accepted (.connected server :: news)
  | ended {opening : List SessionEvent} (opens : IsOpening opening) (reason : Option String) :
      Fits .ended (opening ++ [.closed reason])

theorem Stage.Fits.concat {stage next : Stage} {events : List SessionEvent} {event : SessionEvent}
    (fits : stage.Fits events) (after : stage.after? event = some next) :
    next.Fits (events ++ [event]) := by
  cases fits with
  | silent =>
      cases event <;> cases after
      · exact .accepted _ nofun
      · exact .ended (.inl rfl) _
  | accepted server only_news =>
      rename_i news
      have grown : ∀ last : SessionEvent, last.topic?.isSome = true →
          ∀ event ∈ news ++ [last], event.topic?.isSome = true := by
        intro last is_news event mem
        rcases List.mem_append.mp mem with earlier | last_one
        · exact only_news event earlier
        · rw [List.mem_singleton.mp last_one]
          exact is_news
      cases event <;> cases after
      · exact .accepted server (grown _ rfl)
      · exact .accepted server (grown _ rfl)
      · exact .ended (.inr ⟨server, _, rfl, only_news⟩) _
  | ended opens reason => cases event <;> cases after

/-- Events that lead to a stage have the form of that stage. -/
theorem fits_of_stage? {events : List SessionEvent} {stage : Stage}
    (found : stage? events = some stage) : stage.Fits events := by
  induction events using List.reverseRecOn generalizing stage with
  | nil =>
      cases found
      exact .silent
  | append_singleton front last ih =>
      rw [stage?_concat, Option.bind_eq_some_iff] at found
      rcases found with ⟨before, found_before, after⟩
      exact (ih found_before).concat after

/-- In whichever stage a session is, more events would complete the order. -/
theorem Stage.Fits.exists_opening {stage : Stage} {events : List SessionEvent}
    (fits : stage.Fits events) :
    ∃ opening reason, events <+: opening ++ [.closed reason] ∧ IsOpening opening := by
  cases fits with
  | silent => exact ⟨[], none, List.nil_prefix, .inl rfl⟩
  | accepted server only_news =>
      exact ⟨_, none, List.prefix_append _ _, .inr ⟨server, _, rfl, only_news⟩⟩
  | ended opens reason => exact ⟨_, reason, List.prefix_rfl, opens⟩

/-- The message that a session reads in a turn. While it dials there is no transport to read
from. -/
def messageRead? : Input → Phase → Option Message
  | _, .dialling | _, .over => none
  | .message message, _ => some message
  | _, _ => none

/-- The messages that a session reads in turns in a row. -/
def messagesRead (plan : SessionPlan) : List (Weather × Input) → Phase → List Message
  | [], _ => []
  | (weather, input) :: rest, phase =>
      (messageRead? input phase).toList ++ messagesRead plan rest (turn plan weather input phase).1

/-- The first message that can be decoded and holds a frame. -/
def firstFull? (messages : List Message) : Option Message :=
  messages.find? fun message => !message.frames.isEmpty

theorem framesRead_eq (input : Input) (phase : Phase) :
    framesRead input phase = (messageRead? input phase).elim [] Message.frames := by
  cases phase <;> cases input <;> rfl

/-- A session that was accepted has read a frame that accepts it first, and one that waits for its
acceptance has read no frame. -/
structure Answered (phase : Phase) (messages : List Message) (events : List SessionEvent) :
    Prop where
  unheard : phase = .dialling ∨ phase = .greeting → ∀ message ∈ messages, message.frames = []
  welcomed : ∀ server, .connected server ∈ events → ∃ message frame,
    firstFull? messages = some message ∧ message.frames.head? = some frame ∧
      frame.command = .connected ∧ frame.header? "server" = server

section Answered

variable {plan : SessionPlan} {weather : Weather} {phase next : Phase} {input : Input}
  {outputs : List Output} {messages : List Message} {events : List SessionEvent}

/-- Only the first frame of a message makes a session report that it was accepted. -/
theorem welcome_of_connected {server : Option String}
    (made : Turn plan weather phase input next outputs)
    (reported : .connected server ∈ reports outputs) :
    phase = .greeting ∧ ∃ message frame, messageRead? input phase = some message ∧
      message.frames.head? = some frame ∧ frame.command = .connected ∧
      frame.header? "server" = server := by
  have no_farewell : ∀ told ending, .connected server ∉ reports (farewell told ending) := by
    intro told ending mem
    rcases reports_farewell told ending with quiet | ⟨reason, said⟩
    · rw [quiet] at mem
      cases mem
    · rw [said, List.mem_singleton] at mem
      cases mem
  cases made with
  | welcome frames accepted =>
      rename_i message frame others beat
      have same : server = frame.header? "server" := by simpa [reports] using reported
      exact ⟨rfl, message, frame, rfl, by rw [frames]; rfl, accepted, same.symm⟩
  | serve routed =>
      rw [reports_reports] at reported
      cases (newsOf_routeAll (agrees_self _) routed).1 _ reported
  | fail routed =>
      rw [reports_append, reports_reports, List.mem_append] at reported
      rcases reported with news | last
      · cases (newsOf_routeAll (agrees_self _) routed).1 _ news
      · exact absurd last (no_farewell _ _)
  | finish open_before closes unrouted =>
      rw [reports_append, List.mem_append] at reported
      rcases reported with closing | last
      · rcases closes with rfl | rfl <;> cases closing
      · exact absurd last (no_farewell _ _)
  | _ => simp [reports] at reported

/-- A session that goes on waiting has read no frame. -/
theorem unread_of_waiting (made : Turn plan weather phase input next outputs)
    (waits : next = .dialling ∨ next = .greeting) :
    (phase = .dialling ∨ phase = .greeting) ∧ framesRead input phase = [] := by
  cases made with
  | rest unread =>
      refine ⟨waits, unread.resolve_left ?_⟩
      rintro rfl
      rcases waits with impossible | impossible <;> cases impossible
  | dial => exact ⟨.inl rfl, framesRead_dialling _⟩
  | _ => rcases waits with impossible | impossible <;> cases impossible

/-- In every turn what is reported goes on answering what was read. A session that still waits has
read no frame before. -/
theorem answered_turn (answered : Answered phase messages events)
    (made : Turn plan weather phase input next outputs) :
    Answered next (messages ++ (messageRead? input phase).toList) (events ++ reports outputs) where
  unheard waits message mem := by
    rcases unread_of_waiting made waits with ⟨waited, unread⟩
    rcases List.mem_append.mp mem with earlier | now
    · exact answered.unheard waited message earlier
    · rw [Option.mem_toList] at now
      rwa [framesRead_eq, now] at unread
  welcomed server reported := by
    rcases List.mem_append.mp reported with earlier | now
    · rcases answered.welcomed server earlier with ⟨message, frame, first, rest⟩
      refine ⟨message, frame, ?_, rest⟩
      rw [firstFull?] at first ⊢
      rw [List.find?_append, first, Option.some_or]
    · rcases welcome_of_connected made now with ⟨rfl, message, frame, read, first, rest⟩
      have nothing_before : firstFull? messages = none := by
        rw [firstFull?, List.find?_eq_none]
        intro other mem
        simp [answered.unheard (.inr rfl) other mem]
      have full : message.frames.isEmpty = false := by
        cases frames : message.frames with
        | nil => simp [frames] at first
        | cons head others => rfl
      refine ⟨message, frame, ?_, first, rest⟩
      rw [firstFull?] at nothing_before ⊢
      rw [List.find?_append, nothing_before, Option.none_or, read]
      simp [full]

end Answered

/-- Every run goes on answering what was read. -/
theorem Answered.run {phase : Phase} {messages : List Message} {events : List SessionEvent}
    (answered : Answered phase messages events) (plan : SessionPlan)
    (turns : List (Weather × Input)) :
    Answered (run plan turns phase).1 (messages ++ messagesRead plan turns phase)
      (events ++ reports (run plan turns phase).2) := by
  induction turns generalizing phase messages events with
  | nil => simpa [Session.run, messagesRead, reports] using answered
  | cons first rest ih =>
      rcases first with ⟨weather, input⟩
      have next := ih (answered_turn answered (turn_spec plan weather input phase))
      rw [run_cons, messagesRead, reports_append, ← List.append_assoc, ← List.append_assoc]
      exact next

theorem answered_run (plan : SessionPlan) (turns : List (Weather × Input)) :
    Answered (Session.run plan turns .dialling).1 (messagesRead plan turns .dialling)
      (reports (Session.run plan turns .dialling).2) := by
  have start : Answered .dialling [] [] := ⟨nofun, nofun⟩
  simpa using start.run plan turns

/-- The owner took what was reported in a turn, and then went away. -/
def GoesAway (weather : Weather) (outputs : List Output) : Prop :=
  weather.hearing = some (reports outputs).length

/-- The last event tells what ended the session, if anybody was there to be told. -/
theorem getLast?_of_ending {plan : SessionPlan} {front back : List (Weather × Input)}
    {weather : Weather} {input : Input} {cause : Option SessionError}
    (ending : Ending weather (run plan front .dialling).1 input cause) :
    (reports (run plan (front ++ (weather, input) :: back) .dialling).2).getLast? =
        some (.closed (cause.map SessionError.message)) ∨
      GoesAway weather (turn plan weather input (run plan front .dialling).1).2 := by
  rcases (closes_of_ending plan ending).told with ⟨news, -, told | ⟨told, gone⟩⟩
  · left
    rw [run_of_ending ending, reports_append, told, ← List.append_assoc, List.getLast?_concat]
  · right
    rw [GoesAway, told]
    exact gone

/-- What a session of a generation puts into the channel of its owner. -/
def emitted (generation : Nat) (outputs : List Output) : List Envelope :=
  (reports outputs).map (Envelope.mk generation)

end Session

/-- Among sessions, what comes with the generation of a session is what that session emitted. -/
theorem Ensemble.Recorded.emitted {plan : SessionPlan} {ensemble : Ensemble}
    {chronicle : Ensemble.Chronicle} (recorded : Recorded plan ensemble chronicle)
    (generation : Nat) :
    (chronicle.taken.map Prod.snd ++ ensemble.channel).filter (·.generation == generation) ++
        (ensemble.standing generation).2.map (Envelope.mk generation) =
      Session.emitted generation (Session.run plan (chronicle.turns generation) .dialling).2 := by
  have tagged : ∀ envelopes : List Envelope,
      (eventsFrom generation envelopes).map (Envelope.mk generation) =
      envelopes.filter (·.generation == generation) := by
    intro envelopes
    rw [eventsFrom, List.map_map]
    refine (List.map_congr_left ?_).trans (List.map_id _)
    intro envelope mem
    rw [← beq_iff_eq.mp (List.mem_filter.mp mem).2]
    rfl
  rw [Session.emitted, ← recorded.said generation, saidBy, onItsWay, map_heardFrom,
    ← List.append_assoc, ← eventsFrom_append, List.map_append, tagged]

namespace Session

/-- The events of a session in any run, whatever its owner and the node do and in whatever order.
They begin an order in which the node accepts the session at most once, then news may come, and
then, once and last, that the session is over. That the session was accepted is reported only if a
frame that accepts it stands first in the first message with frames. A run ends exactly if something
ends it, and then the last event gives the cause in words, or no reason where the owner had asked
for the end, unless the owner went away before it was told. Among other sessions and before the
application, all of this comes with the generation of the session. -/
theorem trace_of_session (plan : SessionPlan) (turns : List (Weather × Input)) :
    let result := run plan turns .dialling
    let events := reports result.2
    (∃ opening reason, events <+: opening ++ [.closed reason] ∧ IsOpening opening) ∧
    (∀ server, .connected server ∈ events → ∃ message frame,
      firstFull? (messagesRead plan turns .dialling) = some message ∧
        message.frames.head? = some frame ∧
        frame.command = .connected ∧ frame.header? "server" = server) ∧
    (result.1 = .over ↔ ∃ cause, EndsFor plan turns cause) ∧
    (∀ front weather input back cause, turns = front ++ (weather, input) :: back →
      Ending weather (run plan front .dialling).1 input cause →
      events.getLast? = some (.closed (cause.map SessionError.message)) ∨
        GoesAway weather (turn plan weather input (run plan front .dialling).1).2) ∧
    ∀ cap moves generation,
      let ensemble := (Ensemble.initial plan cap).run moves
      let chronicle := (Ensemble.initial plan cap).chronicle moves
      (chronicle.taken.map Prod.snd ++ ensemble.channel).filter (·.generation == generation) ++
          (ensemble.standing generation).2.map (Envelope.mk generation) =
        emitted generation (run plan (chronicle.turns generation) .dialling).2 := by
  intro result events
  refine ⟨?_, (answered_run plan turns).welcomed, ⟨exists_endsFor_of_over, ?_⟩, ?_, ?_⟩
  · have told := (consistent_run plan turns).told.isSome
    rcases Option.isSome_iff_exists.mp told with ⟨stage, found⟩
    exact (fits_of_stage? found).exists_opening
  · rintro ⟨cause, front, weather, input, back, split, ending⟩
    show (run plan turns .dialling).1 = .over
    rw [split, run_of_ending ending]
  · intro front weather input back cause split ending
    show (reports (run plan turns .dialling).2).getLast? = _ ∨ _
    rw [split]
    exact getLast?_of_ending ending
  · intro cap moves generation
    exact (Ensemble.recorded_run plan cap moves).emitted generation

end Session

end LedgerBoard
