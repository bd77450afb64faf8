import Mathlib.Data.List.DropRight
import LedgerBoard.Proofs.Dashboard.Generations
import LedgerBoard.Proofs.Session.Reports

/-!
# What the tables show

While a session is held that the node accepted, each table shows the last rows of what the
application took from that session, and nothing otherwise. This is so for whatever arrives, as long
as the events of each session come in an order in which a session can report them.
-/

namespace LedgerBoard

/-- The last rows, as many as a cap allows. A cap of zero allows all of them. -/
def lastRows : Option Nat → List Row → List Row
  | none, rows | some 0, rows => rows
  | some (limit + 1), rows => rows.rtake (limit + 1)

theorem lastRows_nil (cap : Option Nat) : lastRows cap [] = [] := by
  match cap with
  | none => rfl
  | some 0 => rfl
  | some (limit + 1) => exact List.rtake_nil _

/-- What the table of a topic shows of an event that arrives. -/
def rowOf? : Topic → ClockTime × SessionEvent → Option Row
  | .blocks, (arrival, .block block) => some (.ofBlock arrival block)
  | .transactions, (arrival, .transaction transaction) => some (.ofTransaction arrival transaction)
  | _, _ => none

/-- The rows of a topic among events that arrived, in the order of their arrival. -/
def rowsOf (topic : Topic) (heard : List (ClockTime × SessionEvent)) : List Row :=
  heard.filterMap (rowOf? topic)

/-- The table of a topic. -/
def Dashboard.table (dashboard : Dashboard) : Topic → RowList
  | .blocks => dashboard.blocks
  | .transactions => dashboard.transactions

/-- The events of one session among all that arrived. -/
def heardFrom (generation : Nat) (taken : List (ClockTime × Envelope)) :
    List (ClockTime × SessionEvent) :=
  (taken.filter (·.2.generation == generation)).map fun (arrival, envelope) =>
    (arrival, envelope.event)

namespace RowList

/-- Room for one more row is made by dropping the oldest. -/
theorem makeRoom_eq_drop (cap : Nat) (rows : List Row) :
    makeRoom cap rows = rows.drop (rows.length + 1 - cap) := by
  induction rows with
  | nil => simp [makeRoom]
  | cons oldest rest ih =>
      rw [makeRoom, List.length_cons]
      split
      · have one_more : rest.length + 1 + 1 - cap = (rest.length + 1 - cap) + 1 := by omega
        rw [ih, one_more, List.drop_succ_cons]
      · have none_less : rest.length + 1 + 1 - cap = 0 := by omega
        rw [none_less, List.drop_zero]

/-- A table that shows the last rows shows them after one more row, too. -/
theorem push_lastRows (cap : Option Nat) (rows : List Row) (row : Row) :
    push ⟨cap.filter (0 < ·), lastRows cap rows⟩ row =
      ⟨cap.filter (0 < ·), lastRows cap (rows ++ [row])⟩ := by
  match cap with
  | none => rfl
  | some 0 => rfl
  | some (limit + 1) =>
      have kept : makeRoom (limit + 1) (rows.rtake (limit + 1)) =
          rows.drop (rows.length + 1 - (limit + 1)) := by
        rw [makeRoom_eq_drop, List.rtake, List.drop_drop, List.length_drop]
        congr 1
        omega
      have dropped : (rows ++ [row]).rtake (limit + 1) =
          rows.drop (rows.length + 1 - (limit + 1)) ++ [row] := by
        rw [List.rtake, List.length_append, List.length_singleton, List.drop_append_of_le_length]
        omega
      show (⟨some (limit + 1), makeRoom (limit + 1) (rows.rtake (limit + 1)) ++ [row]⟩ : RowList) =
        ⟨some (limit + 1), (rows ++ [row]).rtake (limit + 1)⟩
      rw [kept, dropped]

end RowList

/-- What is heard last makes the last row. -/
theorem rowsOf_concat (topic : Topic) (heard : List (ClockTime × SessionEvent))
    (arrived : ClockTime × SessionEvent) :
    rowsOf topic (heard ++ [arrived]) = rowsOf topic heard ++ (rowOf? topic arrived).toList := by
  cases shown : rowOf? topic arrived <;> simp [rowsOf, shown]

theorem heardFrom_concat_self (generation : Nat) (taken : List (ClockTime × Envelope))
    (arrival : ClockTime) (event : SessionEvent) :
    heardFrom generation (taken ++ [(arrival, ⟨generation, event⟩)]) =
      heardFrom generation taken ++ [(arrival, event)] := by
  simp [heardFrom, List.filter_append]

theorem heardFrom_concat_other {generation : Nat} (taken : List (ClockTime × Envelope))
    (arrival : ClockTime) {envelope : Envelope} (other : envelope.generation ≠ generation) :
    heardFrom generation (taken ++ [(arrival, envelope)]) = heardFrom generation taken := by
  simp [heardFrom, List.filter_append, other]

namespace App

/-- What the tables are about: everything from the session that is held, once the node accepted
it. -/
def shown (app : App) (taken : List (ClockTime × Envelope)) : List (ClockTime × SessionEvent) :=
  if app.dashboard.isConnected then app.generation?.elim [] (heardFrom · taken) else []

/-- The state of an application goes with what it has taken so far. -/
structure Faithful (cap : Option Nat) (app : App) (taken : List (ClockTime × Envelope)) : Prop where
  held : app.dashboard.isConnected = true → app.generation?.isSome = true
  given : ∀ generation, app.generation? = some generation → generation ≤ app.started
  stage : ∀ generation, app.generation? = some generation →
    Session.stage? ((heardFrom generation taken).map Prod.snd) =
      some (if app.dashboard.isConnected then .accepted else .silent)
  tables : ∀ topic, app.dashboard.table topic =
    ⟨cap.filter (0 < ·), lastRows cap (rowsOf topic (app.shown taken))⟩

section Faithful

variable {cap : Option Nat} {app next : App} {taken more : List (ClockTime × Envelope)}

theorem shown_of_not_connected (not_connected : app.dashboard.isConnected = false) :
    app.shown taken = [] := by
  simp [shown, not_connected]

/-- A connected dashboard shows what was heard from the session that is held. -/
theorem shown_of_connected (connected : app.dashboard.isConnected = true) {generation : Nat}
    (held : app.generation? = some generation) : app.shown taken = heardFrom generation taken := by
  simp [shown, connected, held]

theorem exists_heardFrom_of_mem_shown {heard : ClockTime × SessionEvent}
    (mem : heard ∈ app.shown taken) : ∃ generation, heard ∈ heardFrom generation taken := by
  rw [shown] at mem
  split at mem
  · cases live : app.generation? with
    | none => simp [live] at mem
    | some generation => exact ⟨generation, by simpa [live] using mem⟩
  · cases mem

/-- A session that is held counts as accepted from the first event that was heard from it. -/
theorem Faithful.isConnected_iff (faithful : Faithful cap app taken) {generation : Nat}
    (live : app.generation? = some generation) :
    app.dashboard.isConnected = true ↔ heardFrom generation taken ≠ [] := by
  have stage := faithful.stage generation live
  cases connected : app.dashboard.isConnected with
  | true =>
      refine ⟨?_, fun _ => rfl⟩
      intro _ nothing
      rw [nothing, connected] at stage
      cases stage
  | false =>
      rw [connected] at stage
      have nothing := List.map_eq_nil_iff.mp (Session.eq_nil_of_stage?_silent stage)
      simp [nothing]

/-- An application without a session has empty tables, whatever it has taken. -/
theorem faithful_of_released (held : app.generation? = none)
    (not_connected : app.dashboard.isConnected = false)
    (empty : ∀ topic, app.dashboard.table topic = ⟨cap.filter (0 < ·), []⟩) :
    Faithful cap app taken where
  held connected := by simp [not_connected] at connected
  given generation live := by simp [held] at live
  stage generation live := by simp [held] at live
  tables topic := by
    rw [shown_of_not_connected not_connected, empty topic]
    exact congrArg (RowList.mk _) (lastRows_nil cap).symm

theorem faithful_initial (plan : SessionPlan) (cap : Option Nat) :
    Faithful cap (initial plan cap) [] :=
  faithful_of_released rfl rfl fun topic => by cases topic <;> rfl

theorem Faithful.cap_table (faithful : Faithful cap app taken) (topic : Topic) :
    (app.dashboard.table topic).cap = cap.filter (0 < ·) := by
  rw [faithful.tables topic]

/-- Without a session there is nothing to show. -/
theorem Faithful.of_ended (faithful : Faithful cap app taken) (held : next.generation? = none)
    (dashboard : next.dashboard = app.dashboard.markDisconnected) : Faithful cap next more := by
  apply faithful_of_released held (by rw [dashboard]; rfl)
  intro topic
  rw [dashboard, ← faithful.cap_table topic]
  cases topic <;> rfl

/-- Nothing was heard from a session that starts. -/
theorem Faithful.of_begun (faithful : Faithful cap app taken)
    (held : next.generation? = some (app.started + 1)) (count : next.started = app.started + 1)
    (dashboard : next.dashboard = app.dashboard) (not_connected : app.dashboard.isConnected = false)
    (fresh : heardFrom (app.started + 1) taken = []) : Faithful cap next taken := by
  have still_not_connected : next.dashboard.isConnected = false := dashboard ▸ not_connected
  refine ⟨?_, ?_, ?_, ?_⟩
  · intro connected
    simp [still_not_connected] at connected
  · intro generation live
    rw [held, Option.some.injEq] at live
    omega
  · intro generation live
    rw [held, Option.some.injEq] at live
    rw [← live, fresh, still_not_connected]
    rfl
  · intro topic
    rw [shown_of_not_connected still_not_connected, dashboard, faithful.tables topic,
      shown_of_not_connected not_connected]

/-- Only what the session that is held says counts. -/
theorem Faithful.of_same (faithful : Faithful cap app taken)
    (same : ∀ generation, app.generation? = some generation →
      heardFrom generation more = heardFrom generation taken) : Faithful cap app more := by
  have same_shown : app.shown more = app.shown taken := by
    cases live : app.generation? with
    | none => simp [shown, live]
    | some generation => simp [shown, live, same generation live]
  refine ⟨faithful.held, faithful.given, ?_, ?_⟩
  · intro generation live
    rw [same generation live]
    exact faithful.stage generation live
  · intro topic
    rw [same_shown]
    exact faithful.tables topic

/-- The application may change in what the tables do not go back to. -/
theorem Faithful.of_alike (faithful : Faithful cap app taken)
    (held : next.generation? = app.generation?) (count : next.started = app.started)
    (dashboard : next.dashboard = app.dashboard) : Faithful cap next taken := by
  have same_shown : next.shown taken = app.shown taken := by rw [shown, shown, held, dashboard]
  refine ⟨?_, ?_, ?_, ?_⟩
  · rw [dashboard, held]
    exact faithful.held
  · rw [held, count]
    exact faithful.given
  · rw [dashboard, held]
    exact faithful.stage
  · rw [dashboard, same_shown]
    exact faithful.tables

theorem faithful_connect (faithful : Faithful cap app taken) (now : Nat)
    (fresh : heardFrom (app.started + 1) taken = []) : Faithful cap (app.connect now).1 taken := by
  rw [connect]
  split
  · rename_i enabled
    have not_connected : app.dashboard.isConnected = false := by
      simpa [Dashboard.controls] using enabled
    exact faithful.of_begun rfl rfl rfl not_connected fresh
  · exact faithful

theorem faithful_disconnect (faithful : Faithful cap app taken) (now : Nat) :
    Faithful cap (app.disconnect now).1 taken := by
  rw [disconnect]
  split
  · exact faithful.of_ended rfl rfl
  · exact faithful.of_ended rfl rfl

theorem faithful_act (faithful : Faithful cap app taken) (now : Nat) (action : Action)
    (fresh : heardFrom (app.started + 1) taken = []) :
    Faithful cap (app.act now action).1 taken := by
  cases action with
  | quit => exact ⟨faithful.held, faithful.given, faithful.stage, faithful.tables⟩
  | connect => exact faithful_connect faithful now fresh
  | disconnect => exact faithful_disconnect faithful now

/-- The session that is held said something after which it is accepted. -/
theorem Faithful.of_heard (faithful : Faithful cap app taken) {generation : Nat}
    (live : app.generation? = some generation) (held : next.generation? = app.generation?)
    (count : next.started = app.started) (connected : next.dashboard.isConnected = true)
    (stage : Session.stage? ((heardFrom generation more).map Prod.snd) = some .accepted)
    (tables : ∀ topic, next.dashboard.table topic =
      ⟨cap.filter (0 < ·), lastRows cap (rowsOf topic (heardFrom generation more))⟩) :
    Faithful cap next more := by
  refine ⟨?_, ?_, ?_, ?_⟩
  · intro _
    rw [held, live]
    rfl
  · intro other live_other
    rw [count]
    exact faithful.given other (held ▸ live_other)
  · intro other live_other
    rw [held, live, Option.some.injEq] at live_other
    rw [← live_other, stage, connected]
    rfl
  · intro topic
    rw [shown_of_connected connected (held.trans live)]
    exact tables topic

/-- News of the session that is held adds its row. -/
theorem Faithful.of_news (faithful : Faithful cap app taken) {arrival : ClockTime}
    {generation : Nat} {event : SessionEvent} (live : app.generation? = some generation)
    (held : next.generation? = app.generation?) (count : next.started = app.started)
    (connected : app.dashboard.isConnected = true) (still : next.dashboard.isConnected = true)
    (is_news : event.topic?.isSome = true)
    (tables : ∀ topic, next.dashboard.table topic =
      (rowOf? topic (arrival, event)).elim (app.dashboard.table topic)
        (app.dashboard.table topic).push) :
    Faithful cap next (taken ++ [(arrival, ⟨generation, event⟩)]) := by
  have stage := faithful.stage _ live
  apply faithful.of_heard live held count still
  · rw [heardFrom_concat_self, List.map_append, List.map_singleton, Session.stage?_concat, stage,
      connected]
    exact Session.after?_news is_news
  · intro topic
    rw [tables, heardFrom_concat_self, rowsOf_concat, faithful.tables topic,
      shown_of_connected connected live]
    cases rowOf? topic (arrival, event) with
    | none => simp
    | some row => exact RowList.push_lastRows cap _ row

/-- What the session that is held says next fits what was heard from it. -/
theorem Faithful.fits_next (faithful : Faithful cap app taken) {arrival : ClockTime}
    {generation : Nat} {event : SessionEvent} (live : app.generation? = some generation)
    (ordered : (Session.stage? ((heardFrom generation
      (taken ++ [(arrival, ⟨generation, event⟩)])).map Prod.snd)).isSome = true) :
    ((if app.dashboard.isConnected then Session.Stage.accepted
      else .silent).after? event).isSome = true := by
  rwa [heardFrom_concat_self, List.map_append, List.map_singleton, Session.stage?_concat,
    faithful.stage _ live, Option.bind_some] at ordered

/-- News comes from accepted sessions only. -/
theorem isConnected_of_news {event : SessionEvent}
    (ordered : ((if app.dashboard.isConnected then Session.Stage.accepted
      else .silent).after? event).isSome = true) (is_news : event.topic?.isSome = true) :
    app.dashboard.isConnected = true := by
  cases connected : app.dashboard.isConnected with
  | true => rfl
  | false =>
      have impossible := Session.silent_after?_news is_news
      simp [connected, impossible] at ordered

/-- A session is not accepted again. -/
theorem not_connected_of_welcome {server : Option String}
    (ordered : ((if app.dashboard.isConnected then Session.Stage.accepted
      else .silent).after? (.connected server)).isSome = true) :
      app.dashboard.isConnected = false := by
  cases connected : app.dashboard.isConnected with
  | false => rfl
  | true => simp [connected, Session.Stage.after?] at ordered

/-- The tables are empty when the session that is held says that it was accepted. -/
theorem faithful_showConnected (faithful : Faithful cap app taken) (arrival : ClockTime)
    {generation : Nat} {server : Option String} (live : app.generation? = some generation)
    (ordered : (Session.stage? ((heardFrom generation
      (taken ++ [(arrival, ⟨generation, .connected server⟩)])).map Prod.snd)).isSome = true) :
    Faithful cap app.showConnected (taken ++ [(arrival, ⟨generation, .connected server⟩)]) := by
  have stage := faithful.stage _ live
  rw [not_connected_of_welcome (faithful.fits_next live ordered)] at stage
  have nothing : heardFrom generation taken = [] :=
    List.map_eq_nil_iff.mp (Session.eq_nil_of_stage?_silent stage)
  refine faithful.of_heard live rfl rfl rfl ?_ ?_
  · rw [heardFrom_concat_self, nothing]
    rfl
  · intro topic
    have no_row : rowOf? topic (arrival, .connected server) = none := by cases topic <;> rfl
    rw [heardFrom_concat_self, nothing, rowsOf_concat, no_row, ← faithful.cap_table topic]
    show _ = RowList.mk _ (lastRows cap [])
    rw [lastRows_nil]
    cases topic <;> rfl

theorem faithful_applyLive (faithful : Faithful cap app taken) (now : Nat) (arrival : ClockTime)
    (accepts : Topic → Bool) {generation : Nat} {event : SessionEvent}
    (live : app.generation? = some generation)
    (ordered : (Session.stage? ((heardFrom generation
      (taken ++ [(arrival, ⟨generation, event⟩)])).map Prod.snd)).isSome = true) :
    Faithful cap (app.applyLive now arrival accepts event).1
      (taken ++ [(arrival, ⟨generation, event⟩)]) := by
  cases event with
  | connected server =>
      apply (faithful_showConnected faithful arrival live ordered).of_alike
      · simp [applyLive, subscribeAll_eq]
      · simp [applyLive, subscribeAll_eq]
      · simp [applyLive, subscribeAll_eq]
  | block block =>
      have connected := isConnected_of_news (faithful.fits_next live ordered) rfl
      refine faithful.of_news live rfl rfl connected ?_ rfl ?_
      · simp only [applyLive, Dashboard.showBlock, connected, if_true]
        exact connected
      · intro topic
        cases topic <;> simp [applyLive, Dashboard.showBlock, connected, Dashboard.table, rowOf?]
  | transaction transaction =>
      have connected := isConnected_of_news (faithful.fits_next live ordered) rfl
      refine faithful.of_news live rfl rfl connected ?_ rfl ?_
      · simp only [applyLive, Dashboard.showTransaction, connected, if_true]
        exact connected
      · intro topic
        cases topic <;>
          simp [applyLive, Dashboard.showTransaction, connected, Dashboard.table, rowOf?]
  | closed reason =>
      simp only [applyLive]
      split
      · exact faithful.of_ended rfl rfl
      · exact faithful.of_ended rfl rfl

/-- Whatever event is applied, the application goes with what it has taken. -/
theorem faithful_applyEvent (faithful : Faithful cap app taken) (now : Nat) (arrival : ClockTime)
    (accepts : Topic → Bool) {envelope : Envelope}
    (ordered : (Session.stage? ((heardFrom envelope.generation
      (taken ++ [(arrival, envelope)])).map Prod.snd)).isSome = true) :
    Faithful cap (app.applyEvent now arrival accepts envelope).1
      (taken ++ [(arrival, envelope)]) := by
  rw [applyEvent]
  split
  · exact faithful_applyLive faithful now arrival accepts ‹_› ordered
  · rename_i not_live
    apply faithful.of_same
    intro generation live
    refine heardFrom_concat_other taken arrival ?_
    intro same
    exact not_live (same ▸ live)

end Faithful

end App

end LedgerBoard
