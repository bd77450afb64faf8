import LedgerBoard.Proofs.Session.Record

/-!
# The order of reports

A session reports that it is accepted, then news, then that it is over; it may be over without
having been accepted. `stage?` reads off from the events alone how far a session has come, and has
no answer for events in another order.
-/

namespace LedgerBoard

/-- The topic of which an event is news. -/
def SessionEvent.topic? : SessionEvent → Option Topic
  | .block _ => some .blocks
  | .transaction _ => some .transactions
  | .connected _ | .closed _ => none

namespace Session

/-- How much a session has told its owner about itself. -/
inductive Stage where
  | silent
  | accepted
  | ended
  deriving DecidableEq, Repr

/-- The stage after one more event, if the event may come then. -/
def Stage.after? : Stage → SessionEvent → Option Stage
  | silent, .connected _ => some accepted
  | accepted, .block _ | accepted, .transaction _ => some accepted
  | silent, .closed _ | accepted, .closed _ => some ended
  | _, _ => none

/-- The stage after events in a row, if they may come in this order. -/
def stage? (events : List SessionEvent) : Option Stage :=
  events.foldlM Stage.after? .silent

theorem stage?_append (front back : List SessionEvent) :
    stage? (front ++ back) = (stage? front).bind fun stage => back.foldlM Stage.after? stage :=
  List.foldlM_append ..

theorem stage?_concat (events : List SessionEvent) (event : SessionEvent) :
    stage? (events ++ [event]) = (stage? events).bind fun stage => stage.after? event := by
  rw [stage?_append]
  cases stage? events with
  | none => rfl
  | some stage => simp

/-- Events may come in an order if more events may come in it. -/
theorem isSome_stage?_of_append {front back : List SessionEvent}
    (ordered : (stage? (front ++ back)).isSome = true) : (stage? front).isSome = true := by
  rw [stage?_append] at ordered
  cases found : stage? front with
  | none => simp [found] at ordered
  | some stage => rfl

/-- A session that is silent has said nothing at all. -/
theorem eq_nil_of_stage?_silent {events : List SessionEvent}
    (silent : stage? events = some .silent) :
    events = [] := by
  rcases List.eq_nil_or_concat events with nothing | ⟨front, event, rfl⟩
  · exact nothing
  · rw [List.concat_eq_append, stage?_concat, Option.bind_eq_some_iff] at silent
    rcases silent with ⟨stage, -, after⟩
    cases stage <;> cases event <;> cases after

/-- News may follow once a session was accepted. -/
theorem after?_news {event : SessionEvent} (is_news : event.topic?.isSome = true) :
    Stage.accepted.after? event = some .accepted := by
  cases event with
  | block block => rfl
  | transaction transaction => rfl
  | connected server => simp [SessionEvent.topic?] at is_news
  | closed reason => simp [SessionEvent.topic?] at is_news

/-- News does not come first. -/
theorem silent_after?_news {event : SessionEvent} (is_news : event.topic?.isSome = true) :
    Stage.silent.after? event = none := by
  cases event with
  | block block => rfl
  | transaction transaction => rfl
  | connected server => simp [SessionEvent.topic?] at is_news
  | closed reason => simp [SessionEvent.topic?] at is_news

theorem foldlM_after?_news {news : List SessionEvent}
    (only_news : ∀ event ∈ news, event.topic?.isSome = true) :
    news.foldlM Stage.after? .accepted = some .accepted := by
  induction news with
  | nil => rfl
  | cons event rest ih =>
      rw [List.foldlM_cons, after?_news (only_news event List.mem_cons_self)]
      exact ih fun other mem => only_news other (List.mem_cons_of_mem _ mem)

/-- A session can say that it is over as long as it has not said so. -/
theorem isSome_stage?_farewell {events : List SessionEvent} (heard : Bool)
    (ending : Option SessionError)
    (stage : stage? events = some .silent ∨ stage? events = some .accepted) :
    (stage? (events ++ reports (farewell heard ending))).isSome = true := by
  rcases reports_farewell heard ending with quiet | ⟨reason, told⟩
  · rw [quiet, List.append_nil]
    rcases stage with stage | stage <;> rw [stage] <;> rfl
  · rw [told, stage?_concat]
    rcases stage with stage | stage <;> rw [stage] <;> rfl

/-- What a session can have told about itself in a phase. -/
def Phase.Tells : Phase → Option Stage → Prop
  | .dialling, stage | .greeting, stage => stage = some .silent
  | .serving _ _, stage | .leaving, stage => stage = some .accepted
  | .over, stage => stage.isSome = true

theorem Phase.Tells.isSome {phase : Phase} {stage : Option Stage} (tells : phase.Tells stage) :
    stage.isSome = true := by
  cases phase with
  | dialling => exact tells ▸ rfl
  | greeting => exact tells ▸ rfl
  | serving routes beat => exact tells ▸ rfl
  | leaving => exact tells ▸ rfl
  | «over» => exact tells

/-- A session that is not over has said nothing so far, or that it was accepted. -/
theorem Phase.Tells.of_open {phase : Phase} {stage : Option Stage} (tells : phase.Tells stage)
    (open_before : phase ≠ .over) : stage = some .silent ∨ stage = some .accepted := by
  cases phase with
  | dialling => exact .inl tells
  | greeting => exact .inl tells
  | serving routes beat => exact .inr tells
  | leaving => exact .inr tells
  | «over» => exact absurd rfl open_before

end Session

end LedgerBoard
