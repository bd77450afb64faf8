import LedgerBoard.Proofs.Dashboard.Inputs
import LedgerBoard.Proofs.Outcome

/-!
# Delivery from end to end

However the application, its sessions and their nodes interleave, the tables show what the node
offered to the session that is held, up to what is still on its way, and nothing else.
-/

namespace LedgerBoard

/-- The identifier that is read from a payload is not blank. -/
theorem isBlankText_of_readFields {topic : Topic} {payload : String}
    {identified : String × Json.Fields} (read : topic.readFields payload = .ok identified) :
    Text.isBlankText identified.1 = false := by
  rw [Topic.readFields] at read
  split at read
  · cases read
  · dsimp only at read
    split at read
    · cases read
    · rename_i not_blank
      cases read
      exact Bool.eq_false_iff.mpr not_blank

/-- Every event that a payload announces has an identifier that is not blank. -/
theorem isBlankText_id_of_eventOf? {topic : Topic} {payload : String} {event : SessionEvent}
    (announced : Session.eventOf? topic payload = some event) {arrival : ClockTime} {row : Row}
    (shown : rowOf? topic (arrival, event) = some row) : Text.isBlankText row.id = false := by
  cases topic with
  | blocks =>
      rcases Option.map_eq_some_iff.mp announced with ⟨block, read, rfl⟩
      rcases Outcome.map_eq_ok_iff.mp (Outcome.toOption_eq_some_iff.mp read) with
        ⟨identified, fields_read, rfl⟩
      cases shown
      exact isBlankText_of_readFields fields_read
  | transactions =>
      rcases Option.map_eq_some_iff.mp announced with ⟨transaction, read, rfl⟩
      rcases Outcome.map_eq_ok_iff.mp (Outcome.toOption_eq_some_iff.mp read) with
        ⟨identified, fields_read, rfl⟩
      cases shown
      exact isBlankText_of_readFields fields_read

/-- A row is shown of an event in the table of its topic only. -/
theorem topic?_of_rowOf? {topic : Topic} {arrival : ClockTime} {event : SessionEvent} {row : Row}
    (shown : rowOf? topic (arrival, event) = some row) : event.topic? = some topic := by
  cases topic <;> cases event <;> first | rfl | cases shown

theorem mem_of_mem_lastRows {cap : Option Nat} {rows : List Row} {row : Row}
    (mem : row ∈ lastRows cap rows) : row ∈ rows := by
  match cap with
  | none => exact mem
  | some 0 => exact mem
  | some (limit + 1) => exact List.mem_of_mem_drop mem

namespace Ensemble

open Session (stage? record offered)

section Steps

variable {plan : SessionPlan} {ensemble : Ensemble} {chronicle : Chronicle}

/-- What a session has said comes in an order in which a session can say it. -/
theorem Recorded.ordered (recorded : Recorded plan ensemble chronicle) {generation : Nat}
    {front back : List SessionEvent} (said : ensemble.saidBy chronicle generation = front ++ back) :
    (stage? front).isSome = true := by
  have told := (Session.consistent_run plan (chronicle.turns generation)).told
  rw [← recorded.said generation, said] at told
  exact Session.isSome_stage?_of_append told.isSome

/-- What the application takes next comes in such an order, too. -/
theorem Recorded.ordered_next (recorded : Recorded plan ensemble chronicle) (arrival : ClockTime)
    {envelope : Envelope} {rest : List Envelope} (waiting : ensemble.channel = envelope :: rest) :
    (stage? ((heardFrom envelope.generation (chronicle.taken ++ [(arrival, envelope)])).map
      Prod.snd)).isSome = true := by
  have said : ensemble.saidBy chronicle envelope.generation =
      (heardFrom envelope.generation (chronicle.taken ++ [(arrival, envelope)])).map Prod.snd ++
        (eventsFrom envelope.generation rest ++ (ensemble.standing envelope.generation).2) := by
    rw [saidBy, onItsWay, waiting, map_heardFrom, map_heardFrom, List.map_append, eventsFrom_append,
      eventsFrom_cons, List.append_assoc, List.append_assoc]
    rfl
  exact recorded.ordered said

/-- Nothing was taken from a session that is yet to be started, as a session that is absent has said
nothing. -/
theorem Recorded.fresh (recorded : Recorded plan ensemble chronicle) :
    heardFrom (ensemble.app.started + 1) chronicle.taken = [] := by
  have absent : ensemble.member? (ensemble.app.started + 1) = none :=
    List.getElem?_eq_none (Nat.le_of_eq recorded.count)
  have told := (Session.consistent_run plan (chronicle.turns (ensemble.app.started + 1))).told
  have phase := recorded.phase (ensemble.app.started + 1)
  rw [standing, absent] at phase
  rw [← phase, ← recorded.said] at told
  have nothing := Session.eq_nil_of_stage?_silent told
  exact List.map_eq_nil_iff.mp (List.append_eq_nil_iff.mp nothing).1

variable {cap : Option Nat}

/-- Every move keeps the application with what it has taken. -/
theorem faithful_step (recorded : Recorded plan ensemble chronicle)
    (faithful : ensemble.app.Faithful cap chronicle.taken) (now : Nat) (move : Move) :
    (ensemble.step now move).app.Faithful cap (chronicle.after ensemble move).taken := by
  have acted : ∀ action, (ensemble.app.act now action).1.Faithful cap chronicle.taken :=
    fun action => App.faithful_act faithful now action recorded.fresh
  rw [app_step]
  cases move with
  | press press =>
      rw [Chronicle.after_of_idle rfl fun _ => rfl]
      simp only [inputIn?, Option.elim_some, App.step]
      split
      · exact acted _
      · exact faithful
  | act action =>
      rw [Chronicle.after_of_idle rfl fun _ => rfl]
      exact acted action
  | tick =>
      rw [Chronicle.after_of_idle rfl fun _ => rfl]
      exact ⟨faithful.held, faithful.given, faithful.stage, faithful.tables⟩
  | deliver arrival meanwhile =>
      cases waiting : ensemble.channel with
      | nil =>
          rw [Chronicle.after_of_idle (by simp [takenIn, waiting])
            fun _ => by simp [turnsIn, waiting]]
          simpa only [inputIn?, waiting, Option.elim_none] using faithful
      | cons envelope rest =>
          rw [Chronicle.after_deliver chronicle waiting]
          simp only [inputIn?, waiting, Option.elim_some, App.step]
          exact App.faithful_applyEvent faithful now arrival _
            (recorded.ordered_next arrival waiting)
  | session move =>
      rw [Chronicle.after_session]
      exact faithful

end Steps

theorem faithful_afterAll {plan : SessionPlan} {cap : Option Nat} {ensemble : Ensemble}
    {chronicle : Chronicle} (recorded : Recorded plan ensemble chronicle)
    (faithful : ensemble.app.Faithful cap chronicle.taken) (moves : List (Nat × Move)) :
    (ensemble.run moves).app.Faithful cap (Chronicle.afterAll moves ensemble chronicle).taken := by
  induction moves generalizing ensemble chronicle with
  | nil => exact faithful
  | cons timed rest ih =>
      exact ih (recorded_step recorded timed.1 timed.2)
        (faithful_step recorded faithful timed.1 timed.2)

/-- In every run the application goes with what it has taken. -/
theorem faithful_run (plan : SessionPlan) (cap : Option Nat) (moves : List (Nat × Move)) :
    ((initial plan cap).run moves).app.Faithful cap ((initial plan cap).chronicle moves).taken :=
  faithful_afterAll (recorded_initial plan cap) (App.faithful_initial plan cap) moves

section Delivery

variable (plan : SessionPlan) (cap : Option Nat) (moves : List (Nat × Move))

/-- What the node of a session offered on a topic. -/
def offeredTo (generation : Nat) (topic : Topic) : List SessionEvent :=
  offered topic (record plan (((initial plan cap).chronicle moves).turns generation) .dialling)

/-- What was taken from a session, and then what is on its way, is the beginning of what its node
offered, and it is all of that as long as the session takes requests. -/
theorem newsOf_saidBy (generation : Nat) (topic : Topic) :
    let ensemble := (initial plan cap).run moves
    let said := newsOf topic (ensemble.saidBy ((initial plan cap).chronicle moves) generation)
    said <+: offeredTo plan cap moves generation topic ∧
      (Session.takesRequests (ensemble.standing generation).1 = true →
        said = offeredTo plan cap moves generation topic) := by
  intro ensemble said
  have recorded := recorded_run plan cap moves
  have consistent := Session.consistent_run plan
    (((initial plan cap).chronicle moves).turns generation)
  have said_eq : said = newsOf topic (Session.reports (Session.run plan
      (((initial plan cap).chronicle moves).turns generation) .dialling).2) :=
    congrArg (newsOf topic) (recorded.said generation)
  rw [said_eq]
  refine ⟨consistent.no_more topic, ?_⟩
  intro serves
  rw [recorded.phase generation] at serves
  rcases Session.Phase.exists_routes serves with ⟨routes, found⟩
  exact (consistent.no_less routes found).2 topic

/-- A row that is shown comes from a payload, so its identifier is not blank. -/
theorem exists_mark_of_shown (topic : Topic) {row : Row}
    (shown : row ∈ (((initial plan cap).run moves).app.dashboard.table topic).rows) :
    ∃ c ∈ row.id.toList, Text.isBlank c = false := by
  have faithful := faithful_run plan cap moves
  rw [faithful.tables topic] at shown
  rcases List.mem_filterMap.mp (mem_of_mem_lastRows shown) with ⟨⟨arrival, event⟩, heard, row_of⟩
  rcases App.exists_heardFrom_of_mem_shown heard with ⟨generation, heard⟩
  have said : event ∈ ((initial plan cap).run moves).saidBy ((initial plan cap).chronicle moves)
      generation := List.mem_append_left _ (List.mem_map_of_mem heard)
  have news : event ∈ newsOf topic (((initial plan cap).run moves).saidBy
      ((initial plan cap).chronicle moves) generation) := by
    refine List.mem_filter.mpr ⟨said, ?_⟩
    simp [topic?_of_rowOf? row_of]
  have on_offer := (newsOf_saidBy plan cap moves generation topic).1.subset news
  rcases List.mem_filterMap.mp on_offer with ⟨payload, -, announced⟩
  have not_blank := isBlankText_id_of_eventOf? announced row_of
  rw [Text.isBlankText, List.all_eq_false] at not_blank
  simpa using not_blank

end Delivery

/-- While there is a session that its node accepted, the table of each topic shows the last rows of
what was heard from that session. What was heard and what is on its way is, in order, the beginning
of what the node offered in messages on the ids subscribed to the topic, and all of it as long as
the session takes requests. Otherwise the tables are empty, and no identifier is ever blank. The
session that is held counts as accepted as soon as anything was heard from it. -/
theorem tables_show_what_is_delivered (plan : SessionPlan) (cap : Option Nat)
    (moves : List (Nat × Move)) :
    let ensemble := (initial plan cap).run moves
    let table := ensemble.app.dashboard.table
    let heard := fun generation => heardFrom generation ((initial plan cap).chronicle moves).taken
    (ensemble.app.dashboard.isConnected = true →
      ∃ generation, ensemble.app.generation? = some generation ∧ ∀ topic,
        let news := newsOf topic ((heard generation).map Prod.snd) ++
          newsOf topic (ensemble.onItsWay generation)
        (table topic).rows = lastRows cap (rowsOf topic (heard generation)) ∧
        news <+: offeredTo plan cap moves generation topic ∧
        (Session.takesRequests (ensemble.standing generation).1 = true →
          news = offeredTo plan cap moves generation topic)) ∧
    (ensemble.app.dashboard.isConnected = false → ∀ topic, (table topic).rows = []) ∧
    (∀ topic, ∀ row ∈ (table topic).rows, ∃ c ∈ row.id.toList, Text.isBlank c = false) ∧
    ∀ generation, ensemble.app.generation? = some generation →
      (ensemble.app.dashboard.isConnected = true ↔ heard generation ≠ []) := by
  intro ensemble table heard
  have faithful := faithful_run plan cap moves
  refine ⟨?_, ?_, ?_, ?_⟩
  · intro connected
    rcases Option.isSome_iff_exists.mp (faithful.held connected) with ⟨generation, live⟩
    refine ⟨generation, live, ?_⟩
    intro topic
    have accounted := newsOf_saidBy plan cap moves generation topic
    simp only [saidBy, newsOf_append] at accounted
    refine ⟨?_, accounted⟩
    show _ = lastRows cap (rowsOf topic (heardFrom generation _))
    rw [← App.shown_of_connected connected live]
    exact congrArg RowList.rows (faithful.tables topic)
  · intro not_connected topic
    refine (congrArg RowList.rows (faithful.tables topic)).trans ?_
    rw [App.shown_of_not_connected not_connected]
    exact lastRows_nil cap
  · intro topic row shown
    exact exists_mark_of_shown plan cap moves topic shown
  · intro generation live
    exact faithful.isConnected_iff live

end Ensemble

end LedgerBoard
