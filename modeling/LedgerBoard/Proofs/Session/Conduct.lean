import LedgerBoard.Proofs.Session.Deeds
import LedgerBoard.Proofs.Session.Packing

/-!
# What a session sends in its turns

Every turn of a session adds to the log what the session takes in, and then what it sends.
`Standing` ties the log to the phase of the session, and `conducted_turn` says that a session keeps
to the rules of the protocol in every turn, and sends the commands of its owner in the order in
which it took them.
-/

namespace LedgerBoard

namespace Session

def Output.item? : Output → Option Item
  | send frame => some (.frame frame)
  | beat => some .beat
  | _ => none

/-- What outputs put on the wire. -/
def itemsOf (outputs : List Output) : List Item := outputs.filterMap Output.item?

@[simp]
theorem itemsOf_nil : itemsOf [] = [] := rfl

@[simp]
theorem itemsOf_close (rest : List Output) : itemsOf (.close :: rest) = itemsOf rest := rfl

@[simp]
theorem itemsOf_report (event : SessionEvent) : itemsOf [.report event] = [] := rfl

@[simp]
theorem itemsOf_append (front back : List Output) :
    itemsOf (front ++ back) = itemsOf front ++ itemsOf back := List.filterMap_append

@[simp]
theorem itemsOf_reports (events : List SessionEvent) : itemsOf (events.map .report) = [] := by
  simp [itemsOf, Output.item?]

@[simp]
theorem itemsOf_farewell (told : Bool) (ending : Option SessionError) :
    itemsOf (farewell told ending) = [] := by
  rw [farewell]
  split <;> rfl

def Input.request? : Input → Option Request
  | request asked => some asked
  | _ => none

/-- What a session takes in before it sends anything in a turn. -/
def intake (input : Input) (phase : Phase) : List Deed :=
  input.request?.toList.map .took ++ (framesRead input phase).map .read

/-- What a turn adds to the log. -/
def deedsOf (input : Input) (phase : Phase) (outputs : List Output) : List Deed :=
  intake input phase ++ (itemsOf outputs).map .sent

section Views

variable (input : Input) (phase : Phase) (outputs : List Output)

@[simp]
theorem wire_intake : wire (intake input phase) = [] := by
  simp [wire, intake]

/-- Only what a session puts out in a turn goes on the wire. -/
@[simp]
theorem wire_deedsOf : wire (deedsOf input phase outputs) = itemsOf outputs := by
  rw [deedsOf, wire_append, wire_intake, List.nil_append, wire, List.filterMap_map]
  exact List.filterMap_some

@[simp]
theorem heard_deedsOf : heard (deedsOf input phase outputs) = framesRead input phase := by
  have took : heard (input.request?.toList.map .took) = [] := by simp [heard]
  have reads : heard ((framesRead input phase).map .read) = framesRead input phase := by
    rw [heard, List.filterMap_map]
    exact List.filterMap_some
  have sends : heard ((itemsOf outputs).map .sent) = [] := by simp [heard]
  rw [deedsOf, intake, heard_append, heard_append, took, reads, sends, List.nil_append,
    List.append_nil]

@[simp]
theorem askedOf_deedsOf : askedOf (deedsOf input phase outputs) = [] := by
  simp [askedOf, deedsOf, intake]

@[simp]
theorem takenOf_deedsOf : takenOf (deedsOf input phase outputs) = input.request?.toList := by
  have took : takenOf (input.request?.toList.map .took) = input.request?.toList := by
    rw [takenOf, List.filterMap_map]
    exact List.filterMap_some
  have reads : takenOf ((framesRead input phase).map .read) = [] := by simp [takenOf]
  have sends : takenOf ((itemsOf outputs).map .sent) = [] := by simp [takenOf]
  rw [deedsOf, intake, takenOf_append, takenOf_append, took, reads, sends, List.append_nil,
    List.append_nil]

/-- In a turn a session reads first and sends then. -/
theorem passed_deedsOf :
    passed (deedsOf input phase outputs) =
      (framesRead input phase).map .read ++ (sent outputs).map .sent := by
  have took : passed (input.request?.toList.map .took) = [] := by simp [passed]
  have reads :
      passed ((framesRead input phase).map .read) = (framesRead input phase).map .read := by
    rw [passed, List.filterMap_map, ← List.filterMap_eq_map]
    rfl
  have sends : passed ((itemsOf outputs).map .sent) = (sent outputs).map .sent := by
    induction outputs with
    | nil => rfl
    | cons output rest ih =>
        cases output with
        | send frame => exact congrArg (Entry.sent frame :: ·) ih
        | beat => exact ih
        | report event => exact ih
        | close => exact ih
  rw [deedsOf, intake, passed_append, passed_append, took, reads, sends, List.nil_append]

end Views

/-- The item that a request asks to send. -/
def itemOf? : Request → Option Item
  | .subscribe subscription =>
      some (.frame (.subscribe subscription.id subscription.topic.destination))
  | .unsubscribe id => some (.frame (.unsubscribe id))
  | .disconnect => none

/-- Whether an item subscribes or unsubscribes. -/
def Item.isCommand : Item → Bool
  | frame content => content.command == .subscribe || content.command == .unsubscribe
  | beat => false

/-- What the log of a session in a phase looks like. -/
inductive Standing (plan : SessionPlan) (log : List Deed) : Phase → Prop where
  | dialling (silent : wire log = []) (unheard : heard log = [])
      (agrees : Agrees (active (passed log)) []) : Standing plan log .dialling
  | greeting (opened : wire log = [.frame (opening plan)]) (unheard : heard log = [])
      (agrees : Agrees (active (passed log)) []) : Standing plan log .greeting
  | serving {welcome : Frame} {routes : Routes} {beat : Option Duration}
      (serves : Serves log welcome)
      (agreed : HeartBeat.interval? plan.heartbeat (welcome.header? "heart-beat") = beat)
      (agrees : Agrees (active (passed log)) routes) : Standing plan log (.serving routes beat)
  | leaving : Standing plan log .leaving
  | over : Standing plan log .over

/-- A session kept to the rules, and sent what it was asked to in the order in which it took the
requests, leaving out those that it took before it was accepted. -/
structure Conducted (plan : SessionPlan) (phase : Phase) (log : List Deed) : Prop where
  lawful : Lawful plan log
  in_order : ((wire log).filter Item.isCommand).Sublist ((takenLate log).filterMap itemOf?)
  standing : Standing plan log phase

section Conducted

variable {plan : SessionPlan} {phase next : Phase} {log more : List Deed} {welcome : Frame}

/-- Where nothing is sent only the phase has to fit. -/
theorem Conducted.silently (conducted : Conducted plan phase log) (silent : wire more = [])
    (standing : Standing plan (log ++ more) next) : Conducted plan next (log ++ more) where
  lawful := lawful_append_of_silent conducted.lawful silent
  in_order := by
    rw [wire_append, silent, List.append_nil]
    exact conducted.in_order.trans ((takenLate_sublist_append log more).filterMap _)
  standing := standing

/-- A turn in which one thing is sent, which must be permitted, and on request if it is a
command. -/
theorem Conducted.sending (conducted : Conducted plan phase log) {input : Input}
    {outputs : List Output} {item : Item} (one : itemsOf outputs = [item])
    (permitted : Permitted plan (log ++ intake input phase) item)
    (on_request : item.isCommand = true →
      heard log ≠ [] ∧ input.request?.toList.filterMap itemOf? = [item])
    (standing : Standing plan (log ++ deedsOf input phase outputs) next) :
    Conducted plan next (log ++ deedsOf input phase outputs) where
  lawful := by
    rw [deedsOf, one, ← List.append_assoc]
    refine lawful_concat (lawful_append_of_silent conducted.lawful (wire_intake input phase)) ?_
    intro other same
    cases same
    exact permitted
  in_order := by
    rw [wire_append, wire_deedsOf, one, List.filter_append]
    by_cases command : item.isCommand = true
    · rcases on_request command with ⟨some_heard, requested⟩
      rw [takenLate_append _ some_heard, takenOf_deedsOf, List.filterMap_append, requested,
        List.filter_cons_of_pos command]
      exact conducted.in_order.append (List.Sublist.refl _)
    · rw [List.filter_cons_of_neg command, List.filter_nil, List.append_nil]
      exact conducted.in_order.trans ((takenLate_sublist_append _ _).filterMap _)
  standing := standing

/-- Nothing changes for a phase as long as nothing is read or sent. -/
theorem Standing.of_quiet (standing : Standing plan log phase) (silent : wire more = [])
    (unheard : heard more = []) (nothing_passed : passed more = []) :
    Standing plan (log ++ more) phase := by
  have same_active : active (passed (log ++ more)) = active (passed log) := by
    rw [passed_append, nothing_passed, List.append_nil]
  cases standing with
  | dialling silent_before unheard_before agrees =>
      refine .dialling ?_ ?_ ?_
      · rw [wire_append, silent_before, silent, List.nil_append]
      · rw [heard_append, unheard_before, unheard, List.nil_append]
      · rw [same_active]
        exact agrees
  | greeting opened unheard_before agrees =>
      refine .greeting ?_ ?_ ?_
      · rw [wire_append, opened, silent, List.append_nil]
      · rw [heard_append, unheard_before, unheard, List.nil_append]
      · rw [same_active]
        exact agrees
  | serving serves agreed agrees =>
      refine .serving (serves.append ?_) agreed ?_
      · rw [silent]
        exact List.not_mem_nil
      · rw [same_active]
        exact agrees
  | leaving => exact .leaving
  | «over» => exact .over

/-- The interval between heart-beats is the one that the welcoming frame agrees to. -/
theorem beat_of_welcome {weather : Weather} {message : Message} {frame : Frame}
    {others : List Frame} {routes : Routes} {beat : Option Duration} {outputs : List Output}
    (frames : message.frames = frame :: others)
    (made : turn plan weather (.message message) .greeting = (.serving routes beat, outputs)) :
    HeartBeat.interval? plan.heartbeat (frame.header? "heart-beat") = beat := by
  have carries : carrier? (.message message) = some message := carrier?_of_frames (by simp [frames])
  rw [turn_carrier plan weather carries, frames] at made
  simp only [readFrames, List.head?_cons, Option.elim_some, welcome] at made
  split at made
  · split at made
    · cases made
    · cases made
      rfl
  · cases made
  · cases made

/-- A session that serves may send what is permitted after the welcome. -/
theorem Conducted.serving_sends (conducted : Conducted plan phase log) (serves : Serves log welcome)
    {beat : Option Duration}
    (agreed : HeartBeat.interval? plan.heartbeat (welcome.header? "heart-beat") = beat)
    {input : Input} {outputs : List Output} {item : Item} {routes : Routes}
    (one : itemsOf outputs = [item]) (permitted : Permitted plan (log ++ intake input phase) item)
    (on_request : item.isCommand = true → input.request?.toList.filterMap itemOf? = [item])
    (stays : item ≠ .frame (.disconnect receipt))
    (agrees : Agrees (active (passed (log ++ deedsOf input phase outputs))) routes) :
    Conducted plan (.serving routes beat) (log ++ deedsOf input phase outputs) := by
  refine conducted.sending one permitted ?_ (.serving (serves.append ?_) agreed agrees)
  · intro command
    exact ⟨serves.heard_ne_nil, on_request command⟩
  · rw [wire_deedsOf, one, List.mem_singleton]
    exact stays.symm

/-- Every turn keeps to what is asked of the log. Only a leaving session reads frames without doing
anything. -/
theorem conducted_turn (conducted : Conducted plan phase log) (weather : Weather) (input : Input) :
    Conducted plan (turn plan weather input phase).1
      (log ++ deedsOf input phase (turn plan weather input phase).2) := by
  have standing := conducted.standing
  rcases made : turn plan weather input phase with ⟨next, outputs⟩
  cases turn_of_eq plan weather input made with
  | rest unread =>
      refine conducted.silently (by simp) ?_
      rcases unread with rfl | nothing_read
      · exact .leaving
      · refine standing.of_quiet (by simp) (by simp [nothing_read]) ?_
        rw [passed_deedsOf, nothing_read]
        rfl
  | dial =>
      cases standing with
      | dialling silent unheard agrees =>
          refine conducted.sending rfl (.opening ?_) (by simp [Item.isCommand, Frame.connect])
            (.greeting ?_ ?_ ?_)
          · rw [wire_append, silent, wire_intake, List.nil_append]
          · rw [wire_append, silent, wire_deedsOf]
            rfl
          · rw [heard_append, unheard, heard_deedsOf, framesRead_dialling, List.nil_append]
          · rw [passed_append, passed_deedsOf, framesRead_dialling, active_append]
            exact agrees
  | welcome frames accepted =>
      rename_i message frame others beat
      cases standing with
      | greeting opened unheard agrees =>
          have agreed := beat_of_welcome frames made
          have read : framesRead (.message message) .greeting = frame :: others := frames
          refine conducted.silently (by simp) (.serving ⟨?_, ?_, accepted, ?_⟩ agreed ?_)
          · simp [opened]
          · rw [heard_append, unheard, heard_deedsOf, read]
            rfl
          · rw [wire_append, opened]
            simp [opening, Frame.connect, Frame.disconnect]
          · rw [passed_append, passed_deedsOf, active_append, List.foldl_append, foldl_follow_reads]
            exact agrees
  | subscribe subscription =>
      cases standing with
      | serving serves agreed agrees =>
          refine conducted.serving_sends serves agreed rfl (.subscribe (serves.append ?_) ?_)
            (fun _ => rfl) (by simp [Frame.subscribe, Frame.disconnect]) ?_
          · simp
          · simp [intake, framesRead, Input.request?]
          · rw [passed_append, passed_deedsOf, active_append]
            exact agrees_subscribe agrees subscription.id subscription.topic
  | unsubscribe held =>
      rename_i routes beat id
      cases standing with
      | serving serves agreed agrees =>
          refine conducted.serving_sends serves agreed rfl (.unsubscribe (serves.append ?_) ?_ ?_)
            (fun _ => rfl) (by simp [Frame.unsubscribe, Frame.disconnect]) ?_
          · simp
          · simp [intake, framesRead, Input.request?]
          · have nothing_passed :
                passed (intake (.request (.unsubscribe id)) (.serving routes beat)) = [] := by
              simp [passed, intake, framesRead]
            rw [passed_append, nothing_passed, List.append_nil, agrees id, Option.isSome_map]
            exact held
          · rw [passed_append, passed_deedsOf, active_append]
            exact agrees_unsubscribe agrees id
  | beat =>
      cases standing with
      | serving serves agreed agrees =>
          refine conducted.serving_sends serves agreed rfl (.beat (serves.append ?_) agreed)
            (by simp [Item.isCommand]) (by simp) ?_
          · simp
          · rw [passed_append, passed_deedsOf, active_append]
            exact agrees
  | serve routed =>
      rename_i routes beat message events
      cases standing with
      | serving serves agreed agrees =>
          refine conducted.silently (by simp) (.serving (serves.append (by simp)) agreed ?_)
          rw [passed_append, passed_deedsOf, active_append, List.foldl_append, foldl_follow_reads,
            sent_reports]
          exact agrees
  | leave asked =>
      rename_i routes beat
      cases standing with
      | serving serves agreed agrees =>
          refine conducted.sending rfl (.closing (serves.append ?_))
            (by simp [Item.isCommand, Frame.disconnect]) .leaving
          simp
  | fail routed => exact conducted.silently (by simp) .over
  | finish open_before closes unrouted =>
      refine conducted.silently ?_ .over
      rcases closes with rfl | rfl <;> simp

/-- Nothing but the queue changes when the owner asks for something. -/
theorem Conducted.asking {phase : Phase} (conducted : Conducted plan phase log)
    (requests : List Request) :
    Conducted plan phase (log ++ requests.map .asked) := by
  have silent : wire (requests.map .asked) = [] := by simp [wire]
  have unheard : heard (requests.map .asked) = [] := by simp [heard]
  have nothing_passed : passed (requests.map .asked) = [] := by simp [passed]
  exact conducted.silently silent (conducted.standing.of_quiet silent unheard nothing_passed)

end Conducted

end Session

end LedgerBoard
