import LedgerBoard.Proofs.Session.Trace

/-!
# Ends that are asked for

A session that its owner asks to end says at once, or after its receipt, that it is over, and gives
no reason, whatever the node does in between. Nothing else makes it say so.
-/

namespace LedgerBoard.Session

/-- Turns in which all sending works and the owner stays. -/
def fair (inputs : List Input) : List (Weather × Input) :=
  inputs.map fun input => ({}, input)

/-- Whether a session reads, in turns in a row, a frame with which a node accepts sessions. -/
def readsWelcome (plan : SessionPlan) (turns : List (Weather × Input)) : Bool :=
  (messagesRead plan turns .dialling).any fun message =>
    message.frames.any (·.command == .connected)

/-- Whether the node accepted a session that still serves requests. -/
def Phase.isServing : Phase → Bool
  | .serving _ _ => true
  | _ => false

/-- A session is asked to end in one of its turns, while it takes requests. -/
def AskedToEnd (plan : SessionPlan) (turns : List (Weather × Input)) : Prop :=
  ∃ front weather input back, turns = front ++ (weather, input) :: back ∧ input.asksEnd = true ∧
    takesRequests (run plan front .dialling).1 = true

section Parting

variable {plan : SessionPlan} {turns : List (Weather × Input)}

/-- A leaving session sends nothing more, and all that it reports is that it is over. -/
theorem run_leaving (plan : SessionPlan) (inputs : List Input) :
    let result := run plan (fair inputs) .leaving
    reports result.2 = (if result.1 = .over then [.closed none] else []) ∧ sent result.2 = [] ∧
      (result.1 = .leaving ∨ result.1 = .over) := by
  induction inputs with
  | nil => exact ⟨rfl, rfl, .inl rfl⟩
  | cons input rest ih =>
      rw [fair, List.map_cons, run_cons, turn_leaving]
      cases ends : input.endsWait with
      | true =>
          rw [if_pos rfl, finish, run_over]
          exact ⟨rfl, rfl, .inr rfl⟩
      | false => exact ih

/-- From the turn in which it is asked to end, a session sends the closing frame if the node
accepted it, and nothing else. -/
theorem run_of_asksEnd (plan : SessionPlan) {input : Input} (asks : input.asksEnd = true)
    {phase : Phase} (takes : takesRequests phase = true) (back : List Input) :
    let result := run plan (fair (input :: back)) phase
    reports result.2 = (if result.1 = .over then [.closed none] else []) ∧
      sent result.2 = (if phase.isServing then [.disconnect receipt] else []) ∧
      (result.1 = .leaving ∨ result.1 = .over) := by
  cases phase with
  | serving routes beat =>
      have leaves : turn plan {} input (.serving routes beat) =
          (.leaving, [.send (.disconnect receipt)]) := by
        rcases Input.asksEnd_iff.mp asks with rfl | rfl <;> rfl
      have waits := run_leaving plan back
      rw [fair, List.map_cons, run_cons, leaves]
      exact ⟨waits.1, congrArg ([Frame.disconnect receipt] ++ ·) waits.2.1, waits.2.2⟩
  | leaving => cases takes
  | «over» => cases takes
  | dialling =>
      have ends : turn plan {} input .dialling = (.over, [.report (.closed none)]) := by
        rcases Input.asksEnd_iff.mp asks with rfl | rfl <;> rfl
      rw [fair, List.map_cons, run_cons, ends, run_over]
      exact ⟨rfl, rfl, .inr rfl⟩
  | greeting =>
      have ends : turn plan {} input .greeting = (.over, [.close, .report (.closed none)]) := by
        rcases Input.asksEnd_iff.mp asks with rfl | rfl <;> rfl
      rw [fair, List.map_cons, run_cons, ends, run_over]
      exact ⟨rfl, rfl, .inr rfl⟩

/-- Whether a session that takes requests was accepted can be told from what it has read. -/
theorem readsWelcome_eq (takes : takesRequests (run plan turns .dialling).1 = true) :
    readsWelcome plan turns = (run plan turns .dialling).1.isServing := by
  have answered := answered_run plan turns
  have told := (consistent_run plan turns).told
  have unread : (run plan turns .dialling).1 = .dialling ∨
      (run plan turns .dialling).1 = .greeting →
      readsWelcome plan turns = false := by
    intro waits
    rw [readsWelcome, List.any_eq_false]
    intro message mem
    simp [answered.unheard waits message mem]
  cases phase : (run plan turns .dialling).1 with
  | dialling => exact unread (.inl phase)
  | greeting => exact unread (.inr phase)
  | leaving =>
      rw [phase] at takes
      cases takes
  | «over» =>
      rw [phase] at takes
      cases takes
  | serving routes beat =>
      rw [phase] at told
      have fits := fits_of_stage? told
      generalize events : reports (run plan turns .dialling).2 = told at fits
      cases fits with
      | accepted server only_news =>
          have reported : .connected server ∈ reports (run plan turns .dialling).2 :=
            events ▸ List.mem_cons_self
          rcases answered.welcomed server reported with ⟨message, frame, found, first, accepts, -⟩
          have accepting : message.frames.any (·.command == .connected) = true :=
            List.any_eq_true.mpr ⟨frame, List.mem_of_head? first, beq_iff_eq.mpr accepts⟩
          exact List.any_eq_true.mpr ⟨message, List.mem_of_find?_eq_some found, accepting⟩

theorem AskedToEnd.append (asked : AskedToEnd plan turns) (more : List (Weather × Input)) :
    AskedToEnd plan (turns ++ more) := by
  rcases asked with ⟨front, weather, input, back, rfl, asks, takes⟩
  refine ⟨front, weather, input, back ++ more, ?_, asks, takes⟩
  rw [List.append_assoc, List.cons_append]

/-- A session leaves only when it was asked to end. -/
theorem askedToEnd_of_leaving (leaves : (run plan turns .dialling).1 = .leaving) :
    AskedToEnd plan turns := by
  induction turns using List.reverseRecOn with
  | nil => cases leaves
  | append_singleton front last ih =>
      rcases last with ⟨weather, input⟩
      rw [run_append, run_cons, run] at leaves
      rcases made : turn plan weather input (run plan front .dialling).1 with ⟨next, outputs⟩
      rw [made] at leaves
      cases leaves
      have spec := turn_of_eq plan weather input made
      generalize phase : (run plan front .dialling).1 = before at spec
      cases spec with
      | rest unread => exact (ih phase).append _
      | leave asked =>
          refine ⟨front, weather, input, [], rfl, Input.asksEnd_iff.mpr asked, ?_⟩
          rw [phase]
          rfl

/-- A session ends without a cause only when it was asked to end. -/
theorem askedToEnd_of_endsFor (ends : EndsFor plan turns none) : AskedToEnd plan turns := by
  rcases ends with ⟨front, weather, input, back, rfl, ending⟩
  generalize phase : (run plan front .dialling).1 = before at ending
  cases ending with
  | early asks waits =>
      refine ⟨front, weather, input, back, rfl, asks, ?_⟩
      rw [phase]
      rcases waits with rfl | rfl <;> rfl
  | left ends => exact (askedToEnd_of_leaving phase).append _

/-- A session reports an end without a reason only when it was asked to end. -/
theorem askedToEnd_of_closed (reported : .closed none ∈ reports (run plan turns .dialling).2) :
    AskedToEnd plan turns := by
  rcases endsFor_of_closed reported with ⟨cause, ends, no_reason⟩
  cases cause with
  | some cause => cases no_reason
  | none => exact askedToEnd_of_endsFor ends

end Parting

/-- A session whose sending works and whose owner stays, and which is asked to end at a moment when
it takes requests: whatever it takes from then on, all that it still reports is that it is over,
without a reason, and over it is at the latest when the time to wait for the receipt is over. It
sends the closing frame if it has read the frame that accepts it, and nothing otherwise. In any run,
a session that says without a reason that it is over was asked to end. -/
theorem ends_without_reason_iff_asked (plan : SessionPlan) :
    (∀ front input back, input.asksEnd = true →
      takesRequests (run plan (fair front) .dialling).1 = true →
      let before := run plan (fair front) .dialling
      let after := run plan (fair (front ++ input :: back)) .dialling
      reports after.2 = reports before.2 ++ (if after.1 = .over then [.closed none] else []) ∧
      (run plan (fair (front ++ input :: back ++ [.waitOver])) .dialling).1 = .over ∧
      sent after.2 = sent before.2 ++
        (if readsWelcome plan (fair front) then [.disconnect receipt] else [])) ∧
    ∀ turns, .closed none ∈ reports (run plan turns .dialling).2 → AskedToEnd plan turns := by
  refine ⟨?_, fun turns reported => askedToEnd_of_closed reported⟩
  intro front input back asks takes before after
  have split : ∀ first second, fair (first ++ second) = fair first ++ fair second :=
    fun first second => List.map_append
  have parting := run_of_asksEnd plan asks takes back
  rw [← readsWelcome_eq takes] at parting
  have after_eq : after = ((run plan (fair (input :: back)) before.1).1,
      before.2 ++ (run plan (fair (input :: back)) before.1).2) := by
    show run plan (fair (front ++ input :: back)) .dialling = _
    rw [split, run_append]
  rw [split (front ++ input :: back), run_append]
  show _ ∧ (run plan (fair [.waitOver]) after.1).1 = .over ∧ _
  rw [after_eq, reports_append, sent_append, parting.1, parting.2.1]
  refine ⟨rfl, ?_, rfl⟩
  rcases parting.2.2 with leaves | ends
  · rw [leaves]
    rfl
  · rw [ends]
    rfl

/-- The owner of a session does not hear of an error that the node sends after it was asked to let
go. -/
theorem ends_without_reason_iff_asked_of_late_error :
    let plan : SessionPlan := ⟨"ws://node/ws", .ofParts 10 0⟩
    let front : List Input := [.dialled (.ok ()), .message (.text "CONNECTED\n\n\x00")]
    let back : List Input :=
      [.message (.text "ERROR\nmessage:boom\n\n\x00"), .message (.text "?"), .ended]
    let inputs := front ++ .request .disconnect :: back
    (Input.request .disconnect).asksEnd = true ∧
      takesRequests (run plan (fair front) .dialling).1 = true ∧
      reports (run plan (fair inputs) .dialling).2 = [.connected none, .closed none] ∧
      sent (run plan (fair inputs) .dialling).2 = [.connect plan.host 10000, .disconnect receipt] ∧
      AskedToEnd plan (fair inputs) := by
  intro plan front back inputs
  have takes : takesRequests (run plan (fair front) .dialling).1 = true := by decide +kernel
  have ends := ends_without_reason_iff_asked plan
  have parting := ends.1 front (.request .disconnect) back rfl takes
  have is_over : (run plan (fair inputs) .dialling).1 = .over := by decide +kernel
  have welcomed : reports (run plan (fair front) .dialling).2 = [.connected none] := by
    decide +kernel
  have opened : sent (run plan (fair front) .dialling).2 = [.connect plan.host 10000] := by
    decide +kernel
  have reads : readsWelcome plan (fair front) = true := by decide +kernel
  have told : reports (run plan (fair inputs) .dialling).2 = [.connected none, .closed none] := by
    rw [parting.1, is_over, welcomed]
    rfl
  refine ⟨rfl, takes, told, ?_, ends.2 _ ?_⟩
  · rw [parting.2.2, opened, reads]
    rfl
  · rw [told]
    exact List.mem_cons_of_mem _ List.mem_cons_self

end LedgerBoard.Session
