import LedgerBoard.Proofs.Session.Packing
import LedgerBoard.Proofs.Session.Reports

/-!
# Routing

While it serves, a session owes its owner one event for each message on a subscribed id whose
payload the topic accepts, in the order in which they are read, up to the first error. `due` reads
this off the record alone, and `accounts_run` says that a run reports no more and, unless its owner
goes away, no less.
-/

namespace LedgerBoard.Session

/-- The event that a frame brings: that of a message on a subscribed id, if the topic accepts it. -/
def news? (active : Active) (frame : Frame) : Option SessionEvent :=
  if frame.command = .message then do
    let id ← frame.header? "subscription"
    let destination ← active id
    let topic ← Topic.all.find? fun topic => topic.destination == destination
    eventOf? topic frame.body
  else none

/-- The events that a record owes to the owner of a session: those that its frames bring, until an
error is read or the session takes its leave. -/
def due : Active → List Entry → List SessionEvent
  | _, [] => []
  | active, .read frame :: rest =>
      if frame.command = .error then [] else (news? active frame).toList ++ due active rest
  | active, .sent frame :: rest =>
      if frame.command = .disconnect then [] else due (follow active (.sent frame)) rest

/-- The first error in a record, if it was read before the session took its leave. -/
def firstError? : List Entry → Option Frame
  | [] => none
  | .read frame :: rest => if frame.command = .error then some frame else firstError? rest
  | .sent frame :: rest => if frame.command = .disconnect then none else firstError? rest

/-- The frames before the first error. -/
def beforeError (frames : List Frame) : List Frame :=
  frames.takeWhile fun frame => frame.command ≠ .error

def errorIn? (frames : List Frame) : Option Frame :=
  frames.find? fun frame => frame.command = .error

/-- Frames in a row bring news up to the first error among them. -/
theorem due_reads (active : Active) (frames : List Frame) (rest : List Entry) :
    due active (frames.map .read ++ rest) =
      (beforeError frames).filterMap (news? active) ++
        if (errorIn? frames).isSome then [] else due active rest := by
  induction frames with
  | nil => rfl
  | cons frame others ih =>
      by_cases fault : frame.command = .error
      · simp [due, beforeError, errorIn?, fault]
      · cases brought : news? active frame with
        | none => simpa [due, beforeError, errorIn?, fault, brought] using ih
        | some event => simpa [due, beforeError, errorIn?, fault, brought] using ih

theorem firstError?_reads (frames : List Frame) (rest : List Entry) :
    firstError? (frames.map .read ++ rest) = (errorIn? frames).or (firstError? rest) := by
  induction frames with
  | nil => rfl
  | cons frame others ih =>
      by_cases fault : frame.command = .error
      · simp [firstError?, errorIn?, fault]
      · simpa [firstError?, errorIn?, fault] using ih

theorem find?_destination (topic : Topic) :
    Topic.all.find? (fun other => other.destination == topic.destination) = some topic := by
  cases topic <;> decide

/-- A frame is routed as its record on the wire says. -/
theorem route_eq {active : Active} {routes : Routes} (agrees : Agrees active routes)
    (frame : Frame) :
    route routes frame =
      if frame.command = .error then .error (serverError frame) else .ok (news? active frame) := by
  cases command : frame.command with
  | message =>
      simp only [route, news?, command]
      cases header : frame.header? "subscription" with
      | none => rfl
      | some id =>
          cases held : routes.lookup id with
          | none => simp [held, agrees id]
          | some topic => simp [held, agrees id, find?_destination]
  | error => simp [route, command]
  | _ => simp [route, news?, command]

/-- Nothing but what is owed is routed. Unless the owner goes away nothing of it is missing, and
only an error ends the session. -/
theorem owed_of_routeAll {active : Active} {routes : Routes} (agrees : Agrees active routes)
    {frames : List Frame} {hearing : Option Nat} {events : List SessionEvent}
    {ending : Option SessionError} (routed : routeAll routes hearing frames = (events, ending)) :
    events <+: (beforeError frames).filterMap (news? active) ∧
      (ending ≠ some .eventsDropped → events = (beforeError frames).filterMap (news? active) ∧
        ending = (errorIn? frames).map serverError) := by
  induction frames generalizing hearing events with
  | nil =>
      cases routed
      exact ⟨List.prefix_refl _, fun _ => ⟨rfl, rfl⟩⟩
  | cons frame rest ih =>
      rw [routeAll, route_eq agrees] at routed
      by_cases fault : frame.command = .error
      · simp only [fault, if_true] at routed
        cases routed
        refine ⟨List.nil_prefix, ?_⟩
        intro _
        simp [beforeError, errorIn?, fault]
      · have skipped : beforeError (frame :: rest) = frame :: beforeError rest := by
          simp [beforeError, fault]
        have unfaulty : errorIn? (frame :: rest) = errorIn? rest := by simp [errorIn?, fault]
        rw [skipped, unfaulty]
        cases brought : news? active frame with
        | none =>
            simp only [fault, if_false, brought] at routed
            rw [List.filterMap_cons_none brought]
            exact ih routed
        | some event =>
            simp only [fault, if_false, brought] at routed
            rw [List.filterMap_cons_some brought]
            split at routed
            · cases routed
              exact ⟨List.nil_prefix, absurd rfl⟩
            · rcases rest_routed : routeAll routes (hearing.map (· - 1)) rest with ⟨more, last⟩
              rw [rest_routed] at routed
              cases routed
              rcases ih rest_routed with ⟨some_of, all_of⟩
              refine ⟨List.cons_prefix_cons.mpr ⟨rfl, some_of⟩, ?_⟩
              intro stays
              exact ⟨congrArg (event :: ·) (all_of stays).1, (all_of stays).2⟩

theorem routeAll_none_ne_dropped {active : Active} {routes : Routes} (agrees : Agrees active routes)
    (frames : List Frame) : (routeAll routes none frames).2 ≠ some .eventsDropped := by
  induction frames with
  | nil => nofun
  | cons frame rest ih =>
      rw [routeAll, route_eq agrees]
      by_cases fault : frame.command = .error
      · simp [fault, serverError]
      · cases brought : news? active frame with
        | none => simpa [fault] using ih
        | some event => simpa [fault] using ih

/-- The news among events. -/
def newsIn (events : List SessionEvent) : List SessionEvent :=
  events.filter fun event => event.topic?.isSome

@[simp]
theorem newsIn_append (front back : List SessionEvent) :
    newsIn (front ++ back) = newsIn front ++ newsIn back :=
  List.filter_append ..

theorem isSome_topic?_of_news? {active : Active} {frame : Frame} {event : SessionEvent}
    (brought : news? active frame = some event) : event.topic?.isSome = true := by
  rw [news?] at brought
  split at brought
  · simp only [bind, Option.bind_eq_some_iff] at brought
    rcases brought with ⟨id, -, destination, -, topic, -, announced⟩
    rw [topic?_of_eventOf? announced]
    rfl
  · cases brought

/-- All that is owed is news. -/
theorem newsIn_of_owed {active : Active} {frames : List Frame} {events : List SessionEvent}
    (some_of : events <+: frames.filterMap (news? active)) : newsIn events = events := by
  rw [newsIn, List.filter_eq_self]
  intro event mem
  rcases List.mem_filterMap.mp (some_of.subset mem) with ⟨frame, -, brought⟩
  exact isSome_topic?_of_news? brought

/-- What a session says once it serves no longer: nothing, or that it is over. -/
def IsClosing (events : List SessionEvent) : Prop :=
  events = [] ∨ ∃ reason, events = [.closed reason]

theorem IsClosing.newsIn {events : List SessionEvent} (closing : IsClosing events) :
    newsIn events = [] := by
  rcases closing with rfl | ⟨reason, rfl⟩ <;> rfl

section Runs

variable (plan : SessionPlan)

@[simp]
theorem run_over (turns : List (Weather × Input)) : run plan turns .over = (.over, []) := by
  induction turns with
  | nil => rfl
  | cons first rest ih => rw [run_cons, turn, ih, List.append_nil]

/-- Nothing can be lost before an owner who stays, nor in a session that goes on or could say that
it is over. -/
def Complete (OwnerStays : Prop) (result : Phase × List Output) : Prop :=
  OwnerStays ∨ result.1 ≠ .over ∨ ∃ reason, .closed reason ∈ reports result.2

theorem Complete.of_append {OwnerStays Later : Prop} {phase : Phase} {done outputs : List Output}
    (complete : Complete OwnerStays (phase, done ++ outputs)) (later : OwnerStays → Later)
    (not_closed : ∀ reason, .closed reason ∉ reports done) : Complete Later (phase, outputs) := by
  rcases complete with stays | goes_on | ⟨reason, told⟩
  · exact .inl (later stays)
  · exact .inr (.inl goes_on)
  · rw [reports_append, List.mem_append] at told
    exact .inr (.inr ⟨reason, told.resolve_left (not_closed reason)⟩)

/-- What a run reports accounts for what its record owes. If nothing can be lost then nothing is
missing, and the first error, if one is read, ended the session. -/
structure Accounts (active : Active) (log : List Entry) (OwnerStays : Prop)
    (result : Phase × List Output) : Prop where
  no_more : newsIn (reports result.2) <+: due active log
  all : Complete OwnerStays result → ∃ closing, IsClosing closing ∧
    reports result.2 = due active log ++ closing ∧
    ∀ frame, firstError? log = some frame →
      result.1 = .over ∧ closing = [.closed (some (serverError frame).message)]

section Accounts

variable {plan} {active : Active} {log : List Entry} {OwnerStays Later : Prop} {phase : Phase}
  {outputs : List Output}

/-- Something happens that the wire does not show and nobody is told. -/
theorem Accounts.silently (accounts : Accounts active log Later (phase, outputs))
    (later : OwnerStays → Later) {done : List Output} (quiet : reports done = []) :
    Accounts active log OwnerStays (phase, done ++ outputs) := by
  have same : reports (done ++ outputs) = reports outputs := by
    rw [reports_append, quiet, List.nil_append]
  refine ⟨?_, ?_⟩
  · rw [same]
    exact accounts.no_more
  · intro complete
    rw [same]
    exact accounts.all (complete.of_append later (by simp [quiet]))

/-- A frame is sent, which may change what is active. -/
theorem Accounts.sending {frame : Frame} (stays : frame.command ≠ .disconnect)
    (accounts : Accounts (follow active (.sent frame)) log Later (phase, outputs))
    (later : OwnerStays → Later) :
    Accounts active (.sent frame :: log) OwnerStays (phase, [.send frame] ++ outputs) := by
  have same_due : due active (.sent frame :: log) = due (follow active (.sent frame)) log := by
    simp [due, stays]
  have same_error : firstError? (.sent frame :: log) = firstError? log := by
    simp [firstError?, stays]
  have silently :
      Accounts (follow active (.sent frame)) log OwnerStays (phase, [.send frame] ++ outputs) :=
    accounts.silently later rfl
  refine ⟨?_, ?_⟩
  · rw [same_due]
    exact silently.no_more
  · rw [same_due, same_error]
    exact silently.all

/-- Frames are read, and the news among them is reported. -/
theorem Accounts.reading {frames : List Frame} {events : List SessionEvent}
    (accounts : Accounts active log Later (phase, outputs)) (later : OwnerStays → Later)
    (brought : events = (beforeError frames).filterMap (news? active))
    (no_error : errorIn? frames = none) :
    Accounts active (frames.map .read ++ log) OwnerStays
      (phase, events.map .report ++ outputs) := by
  have owed : due active (frames.map .read ++ log) = events ++ due active log := by
    rw [due_reads, no_error, brought]
    rfl
  have errors : firstError? (frames.map .read ++ log) = firstError? log := by
    rw [firstError?_reads, no_error, Option.none_or]
  have only_news : newsIn events = events := by
    rw [brought]
    exact newsIn_of_owed List.prefix_rfl
  refine ⟨?_, ?_⟩
  · rw [reports_append, reports_reports, newsIn_append, only_news, owed]
    exact (List.prefix_append_right_inj _).mpr accounts.no_more
  · intro complete
    have not_closed : ∀ reason, .closed reason ∉ reports (events.map .report) := by
      intro reason mem
      rw [reports_reports, ← only_news] at mem
      cases (List.mem_filter.mp mem).2
    rcases accounts.all (complete.of_append later not_closed) with
      ⟨closing, is_closing, told, first_error⟩
    refine ⟨closing, is_closing, ?_, ?_⟩
    · rw [reports_append, reports_reports, owed, List.append_assoc]
      exact congrArg (events ++ ·) told
    · rw [errors]
      exact first_error

end Accounts

end Runs

end LedgerBoard.Session
