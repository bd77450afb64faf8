import LedgerBoard.Proofs.Dashboard.Tables

/-!
# A dashboard by its history

A dashboard is marked as connected or disconnected, and shown blocks and transactions in between.
All that it is afterwards follows from the marks and from what it was shown since the last of them,
whatever its cap: `after_initial` computes it from the history alone.
-/

namespace LedgerBoard.Dashboard

/-- What can be done with a dashboard. -/
inductive Deed where
  | mark (connection : Connection)
  | block (arrival : ClockTime) (block : Block)
  | transaction (arrival : ClockTime) (transaction : Transaction)

namespace Deed

def mark? : Deed → Option Connection
  | .mark connection => some connection
  | _ => none

/-- The row that a deed is to add to the table of a topic. -/
def row? : Topic → Deed → Option Row
  | .blocks, .block arrival shown => some (.ofBlock arrival shown)
  | .transactions, .transaction arrival shown => some (.ofTransaction arrival shown)
  | _, _ => none

end Deed

/-- Does one thing with a dashboard. Where something was to be shown, the answer says whether it
was. -/
def perform (dashboard : Dashboard) : Deed → Dashboard × Option Bool
  | .mark .connected => (dashboard.markConnected, none)
  | .mark .disconnected => (dashboard.markDisconnected, none)
  | .block arrival block => (dashboard.showBlock arrival block).map id some
  | .transaction arrival transaction => (dashboard.showTransaction arrival transaction).map id some

/-- The dashboard after a history. -/
def after (dashboard : Dashboard) (deeds : List Deed) : Dashboard :=
  deeds.foldl (fun dashboard deed => (dashboard.perform deed).1) dashboard

/-- The answers to a history, one for each deed. -/
def answers (dashboard : Dashboard) : List Deed → List (Option Bool)
  | [] => []
  | deed :: deeds => (dashboard.perform deed).2 :: (dashboard.perform deed).1.answers deeds

def lastMark? (deeds : List Deed) : Option Connection :=
  (deeds.filterMap Deed.mark?).getLast?

/-- What was done since the last mark, or at all if there was none. -/
def sinceMark (deeds : List Deed) : List Deed :=
  deeds.rtakeWhile fun deed => deed.mark?.isNone

def rowsSinceMark (topic : Topic) (deeds : List Deed) : List Row :=
  (sinceMark deeds).filterMap (Deed.row? topic)

/-- The table of a topic by its history. -/
def tableOf (cap : Option Nat) (deeds : List Deed) (topic : Topic) : RowList :=
  ⟨cap.filter (0 < ·),
    if lastMark? deeds = some .connected then lastRows cap (rowsSinceMark topic deeds) else []⟩

/-- A dashboard by its history. -/
def ofHistory (cap : Option Nat) (deeds : List Deed) : Dashboard :=
  ⟨(lastMark? deeds).getD .disconnected, tableOf cap deeds .blocks, tableOf cap deeds .transactions⟩

variable (cap : Option Nat) (deeds : List Deed)

@[simp]
theorem after_concat (dashboard : Dashboard) (deed : Deed) :
    dashboard.after (deeds ++ [deed]) = ((dashboard.after deeds).perform deed).1 := by
  simp [after]

@[simp]
theorem lastMark?_mark (connection : Connection) :
    lastMark? (deeds ++ [.mark connection]) = some connection := by
  simp [lastMark?, Deed.mark?]

@[simp]
theorem rowsSinceMark_mark (topic : Topic) (connection : Connection) :
    rowsSinceMark topic (deeds ++ [.mark connection]) = [] := by
  simp [rowsSinceMark, sinceMark, Deed.mark?]

/-- A deed that is no mark leaves the last mark as it was. -/
theorem lastMark?_concat {deed : Deed} (no_mark : deed.mark? = none) :
    lastMark? (deeds ++ [deed]) = lastMark? deeds := by
  simp [lastMark?, no_mark]

/-- A deed that is no mark adds its row, if it has one. -/
theorem rowsSinceMark_concat {deed : Deed} (no_mark : deed.mark? = none) (topic : Topic) :
    rowsSinceMark topic (deeds ++ [deed]) =
      rowsSinceMark topic deeds ++ (deed.row? topic).toList := by
  cases row : deed.row? topic <;>
    simp [rowsSinceMark, sinceMark, no_mark, row]

/-- A deed that marks nothing adds its row to the table of its topic, while there is a session. -/
theorem tableOf_concat {deed : Deed} (no_mark : deed.mark? = none) (topic : Topic) :
    tableOf cap (deeds ++ [deed]) topic =
      if lastMark? deeds = some .connected then
        (deed.row? topic).elim (tableOf cap deeds topic) (tableOf cap deeds topic).push
      else tableOf cap deeds topic := by
  by_cases connected : lastMark? deeds = some .connected
  · simp only [tableOf, lastMark?_concat deeds no_mark, rowsSinceMark_concat deeds no_mark,
      connected, if_true]
    cases deed.row? topic with
    | none => simp
    | some row => exact (RowList.push_lastRows cap _ row).symm
  · simp [tableOf, lastMark?_concat deeds no_mark, connected]

/-- A dashboard is connected if its last mark says so. -/
@[simp]
theorem isConnected_ofHistory :
    (ofHistory cap deeds).isConnected = true ↔ lastMark? deeds = some .connected := by
  rcases marked : lastMark? deeds with _ | _ | _ <;> simp [ofHistory, isConnected, marked]

/-- While there is a session, a deed that marks nothing adds its row. -/
theorem perform_of_no_mark (dashboard : Dashboard) {deed : Deed} (no_mark : deed.mark? = none) :
    (dashboard.perform deed).1 =
      if dashboard.isConnected then
        ⟨dashboard.connection, (deed.row? .blocks).elim dashboard.blocks dashboard.blocks.push,
          (deed.row? .transactions).elim dashboard.transactions dashboard.transactions.push⟩
      else dashboard := by
  cases deed with
  | mark connection => cases no_mark
  | block arrival block =>
      simp only [perform, showBlock]
      split <;> rfl
  | transaction arrival transaction =>
      simp only [perform, showTransaction]
      split <;> rfl

theorem perform_mark (dashboard : Dashboard) (connection : Connection) :
    (dashboard.perform (.mark connection)).1 = dashboard.enter connection := by
  cases connection <;> rfl

/-- One more deed leads from the dashboard of a history to that of the longer one. -/
theorem perform_ofHistory (deed : Deed) :
    ((ofHistory cap deeds).perform deed).1 = ofHistory cap (deeds ++ [deed]) := by
  cases marks : deed.mark? with
  | some connection =>
      cases deed with
      | mark connection =>
          simp [perform_mark, enter, RowList.clear, ofHistory, tableOf, lastRows_nil]
      | block arrival block => cases marks
      | transaction arrival transaction => cases marks
  | none =>
      have connected := isConnected_ofHistory cap deeds
      rw [perform_of_no_mark _ marks]
      by_cases marked : lastMark? deeds = some .connected
      · rw [if_pos (connected.mpr marked)]
        simp [ofHistory, lastMark?_concat deeds marks, tableOf_concat cap deeds marks, marked]
      · rw [if_neg (mt connected.mp marked)]
        simp [ofHistory, lastMark?_concat deeds marks, tableOf_concat cap deeds marks, marked]

/-- A new dashboard comes to be the one that its history says. -/
theorem after_initial : (initial cap).after deeds = ofHistory cap deeds := by
  induction deeds using List.reverseRecOn with
  | nil => rfl
  | append_singleton deeds deed ih => rw [after_concat, ih, perform_ofHistory]

/-- A deed is answered by whether the dashboard was connected, unless it is a mark. -/
theorem answer_eq (dashboard : Dashboard) (deed : Deed) :
    (dashboard.perform deed).2 =
      if deed.mark?.isSome then none else some dashboard.isConnected := by
  cases deed with
  | mark connection => cases connection <;> rfl
  | block arrival block =>
      cases connected : dashboard.isConnected <;> simp [perform, showBlock, connected, Deed.mark?]
  | transaction arrival transaction =>
      cases connected : dashboard.isConnected <;>
        simp [perform, showTransaction, connected, Deed.mark?]

theorem answers_eq (dashboard : Dashboard) :
    dashboard.answers deeds = deeds.mapIdx fun index deed =>
      if deed.mark?.isSome then none
        else some (dashboard.after (deeds.take index)).isConnected := by
  induction deeds generalizing dashboard with
  | nil => rfl
  | cons deed deeds ih =>
      rw [answers, ih, List.mapIdx_cons, answer_eq]
      rfl

/-- After any history, a new dashboard is connected exactly if it was marked and last marked as
connected. Each table then shows the last rows of its topic since that mark, and nothing otherwise.
Every deed that is to show something is answered by whether the dashboard was connected at that
time. So a cap only hides rows that would be shown without it, and another mark as disconnected
changes nothing. -/
theorem dashboard_is_decided_by_its_history (cap : Option Nat) (deeds : List Deed) :
    let dashboard := (initial cap).after deeds
    (dashboard.isConnected = true ↔ lastMark? deeds = some .connected) ∧
    (∀ topic, (dashboard.table topic).rows =
      if dashboard.isConnected then lastRows cap (rowsSinceMark topic deeds) else []) ∧
    ((initial cap).answers deeds = deeds.mapIdx fun index deed =>
      if deed.mark?.isSome then none
      else some ((initial cap).after (deeds.take index)).isConnected) ∧
    (∀ topic, (dashboard.table topic).rows =
      lastRows cap (((initial none).after deeds).table topic).rows) ∧
    (dashboard.isConnected = false ↔ dashboard.markDisconnected = dashboard) := by
  simp only [after_initial]
  have tables : ∀ limit topic, (ofHistory limit deeds).table topic = tableOf limit deeds topic := by
    intro limit topic
    cases topic <;> rfl
  refine ⟨isConnected_ofHistory cap deeds, ?_, ?_, ?_, ?_⟩
  · intro topic
    simp [tables, tableOf]
  · simpa only [after_initial] using answers_eq deeds (initial cap)
  · intro topic
    rw [tables, tables]
    simp only [tableOf]
    split
    · rfl
    · exact (lastRows_nil cap).symm
  · constructor
    · intro disconnected
      have not_connected : lastMark? deeds ≠ some .connected := by
        simp [← isConnected_ofHistory cap deeds, disconnected]
      rcases marked : lastMark? deeds with _ | _ | _ <;>
        simp_all [markDisconnected, enter, ofHistory, tableOf, RowList.clear]
    · intro same
      rw [← same]
      rfl

end LedgerBoard.Dashboard
