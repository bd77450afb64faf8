import LedgerBoard.Proofs.Session.Record

/-!
# Frames and the messages that carry them

A node may put several frames into one message. Which frames came together makes no difference to a
session that waits for its acceptance, serves or leaves, with one exception: of the message that
accepts it a session reads the first frame only, so an error behind that frame is lost. `arrive`
takes frames one by one, and `attend_turns` says that whole messages come to the same.
-/

namespace LedgerBoard.Session

/-- How many more events an owner takes after some outputs. -/
def remaining (hearing : Option Nat) (outputs : List Output) : Option Nat :=
  hearing.map (· - (reports outputs).length)

theorem remaining_nil (hearing : Option Nat) : remaining hearing [] = hearing := by
  cases hearing <;> rfl

/-- What the owner still hears is told by all that was reported. -/
theorem remaining_append (hearing : Option Nat) (front back : List Output) :
    remaining hearing (front ++ back) = remaining (remaining hearing front) back := by
  cases hearing with
  | none => rfl
  | some count => simp [remaining, Nat.sub_sub]

section Attend

variable {α : Type} (act : Option Nat → α → Phase → Phase × List Output)

/-- What a session does with one thing after the other before an owner who takes `hearing` more
events in all: the phase it comes to, and all that was done. -/
def attend : Option Nat → List α → Phase → Phase × List Output
  | _, [], phase => (phase, [])
  | hearing, first :: rest, phase =>
      let (next, outputs) := act hearing first phase
      let (last, more) := attend (remaining hearing outputs) rest next
      (last, outputs ++ more)

theorem attend_cons (hearing : Option Nat) (first : α) (rest : List α) (phase : Phase) :
    attend act hearing (first :: rest) phase =
      let (next, outputs) := act hearing first phase
      let (last, more) := attend act (remaining hearing outputs) rest next
      (last, outputs ++ more) := rfl

theorem attend_append (hearing : Option Nat) (front back : List α) (phase : Phase) :
    attend act hearing (front ++ back) phase =
      let (next, outputs) := attend act hearing front phase
      let (last, more) := attend act (remaining hearing outputs) back next
      (last, outputs ++ more) := by
  induction front generalizing hearing phase with
  | nil => simp [attend, remaining_nil]
  | cons first rest ih => simp [attend, ih, remaining_append]

end Attend

/-- A turn before an owner who takes `hearing` more events. -/
def turnHeard (plan : SessionPlan) (hearing : Option Nat)
    (turning : Option TransportError × Input) :
    Phase → Phase × List Output :=
  turn plan ⟨turning.1, hearing⟩ turning.2

/-- Before an owner who stays, these are turns in a row. -/
theorem attend_none (plan : SessionPlan) (turns : List (Option TransportError × Input))
    (phase : Phase) :
    attend (turnHeard plan) none turns phase =
      run plan (turns.map fun turning => (⟨turning.1, none⟩, turning.2)) phase := by
  induction turns generalizing phase with
  | nil => rfl
  | cons first rest ih => simp [attend, run, turnHeard, remaining, ih]

/-- What a session does with the frames of one message. -/
def readFrames (plan : SessionPlan) (hearing : Option Nat) (frames : List Frame) :
    Phase → Phase × List Output
  | .greeting => frames.head?.elim (.greeting, []) (welcome plan ⟨none, hearing⟩)
  | .serving routes beat =>
      match routeAll routes hearing frames with
      | (events, none) => (.serving routes beat, events.map .report)
      | (events, some cause) =>
          finish ⟨none, hearing.map (· - events.length)⟩ (some cause) (events.map .report)
  | .leaving =>
      if frames.any isReceipt then finish ⟨none, hearing⟩ none [.close] else (.leaving, [])
  | phase => (phase, [])

/-- The message of an input that may carry frames. -/
def carrier? : Input → Option Message
  | .message (.close _) => none
  | .message message => some message
  | _ => none

theorem carrier?_of_frames {message : Message} (some_frames : message.frames ≠ []) :
    carrier? (.message message) = some message := by
  cases message with
  | close reason => exact absurd rfl some_frames
  | _ => rfl

/-- A message does what its frames do. -/
theorem turn_carrier (plan : SessionPlan) (weather : Weather) {input : Input} {message : Message}
    (carries : carrier? input = some message) (phase : Phase) :
    turn plan weather input phase = readFrames plan weather.hearing message.frames phase := by
  rw [carrier?.eq_def] at carries
  split at carries
  · cases carries
  · rename_i goes_on
    cases carries
    cases phase with
    | dialling => rfl
    | greeting =>
        rw [turn, turnGreeting, readFrames]
        · cases message.frames <;> rfl
        · exact goes_on
    | serving routes beat =>
        rw [turn, turnServing, serve, readFrames]
        · rcases routeAll routes weather.hearing message.frames with ⟨events, ending⟩
          cases ending <;> rfl
        · exact goes_on
    | leaving =>
        rw [turn, turnLeaving, readFrames]
        · rfl
        · exact goes_on
    | «over» => rfl
  · cases carries

/-- What reaches a session, without the bounds of messages. -/
inductive Arrival where
  | frame (frame : Frame)
  /-- Anything that carries no frame, and why sending fails then, if it does. -/
  | other (fault : Option TransportError) (input : Input)

/-- What a session does with one frame, or with anything that carries none. -/
def arrive (plan : SessionPlan) (hearing : Option Nat) : Arrival → Phase → Phase × List Output
  | .frame frame => readFrames plan hearing [frame]
  | .other fault input => turn plan ⟨fault, hearing⟩ input

/-- What reaches a session in a turn. -/
def arrivals (turning : Option TransportError × Input) : List Arrival :=
  match carrier? turning.2 with
  | some message => message.frames.map .frame
  | none => [.other turning.1 turning.2]

section Frames

variable (plan : SessionPlan) (hearing : Option Nat)

theorem attend_over (frames : List Frame) :
    attend (arrive plan) hearing (frames.map .frame) .over = (.over, []) := by
  induction frames with
  | nil => rfl
  | cons frame rest ih => simp [attend, arrive, readFrames, remaining_nil, ih]

/-- A leaving session does the same with frames one by one and in one message. -/
theorem attend_leaving (frames : List Frame) :
    attend (arrive plan) hearing (frames.map .frame) .leaving =
      readFrames plan hearing frames .leaving := by
  induction frames with
  | nil => rfl
  | cons frame rest ih =>
      rw [List.map_cons, attend_cons]
      by_cases receipt : isReceipt frame = true
      · simp [arrive, readFrames, receipt, finish, attend_over]
      · simpa [arrive, readFrames, receipt, remaining_nil] using ih

/-- A session that serves does the same with frames one by one and in one message. -/
theorem attend_serving (routes : Routes) (beat : Option Duration) (frames : List Frame) :
    attend (arrive plan) hearing (frames.map .frame) (.serving routes beat) =
      readFrames plan hearing frames (.serving routes beat) := by
  induction frames generalizing hearing with
  | nil => rfl
  | cons frame rest ih =>
      rw [List.map_cons, attend_cons]
      cases routed : route routes frame with
      | error cause => simp [arrive, readFrames, routeAll, routed, finish, attend_over]
      | ok found =>
          cases found with
          | none => simp [arrive, readFrames, routeAll, routed, remaining_nil, ih]
          | some event =>
              by_cases deaf : hearing = some 0
              · simp [arrive, readFrames, routeAll, routed, deaf, finish, attend_over]
              · have heard : remaining hearing [.report event] = hearing.map (· - 1) := rfl
                simp only [arrive, readFrames, routeAll, routed, deaf, if_false, List.map_cons,
                  List.map_nil, heard, ih]
                rcases routeAll routes (hearing.map (· - 1)) rest with ⟨events, ending⟩
                cases ending with
                | none => rfl
                | some cause => simp [finish, Function.comp_def, Nat.sub_sub, Nat.add_comm]

/-- Without subscriptions, frames that are no error bring nothing. -/
theorem routeAll_unsubscribed {frames : List Frame}
    (no_error : ∀ frame ∈ frames, frame.command ≠ .error) :
    routeAll [] hearing frames = ([], none) := by
  induction frames with
  | nil => rfl
  | cons frame rest ih =>
      have unrouted : route [] frame = .ok none := by
        have harmless := no_error frame List.mem_cons_self
        rw [route]
        split
        · cases frame.header? "subscription" <;> rfl
        · contradiction
        · rfl
      simp only [routeAll, unrouted]
      exact ih fun other mem => no_error other (List.mem_cons_of_mem _ mem)

/-- While it waits to be accepted, a session reads the first frame of a message only. Behind an
acceptance every other frame without an error would make no difference. -/
theorem attend_greeting {frame : Frame} {others : List Frame}
    (no_error : frame.command = .connected → ∀ other ∈ others, other.command ≠ .error) :
    attend (arrive plan) hearing ((frame :: others).map .frame) .greeting =
      readFrames plan hearing (frame :: others) .greeting := by
  rw [List.map_cons, attend_cons]
  simp only [arrive, readFrames, List.head?_cons, Option.elim_some]
  rw [welcome]
  split
  · rename_i accepted
    split
    · simp [finish, attend_over]
    · simp [attend_serving, readFrames, routeAll_unsubscribed _ (no_error accepted)]
  · simp [finish, attend_over]
  · simp [finish, attend_over]

/-- Once a session was accepted, the frames of a message may come one by one. -/
theorem attend_frames {phase : Phase} (later : phase ≠ .dialling ∧ phase ≠ .greeting)
    (frames : List Frame) :
    attend (arrive plan) hearing (frames.map .frame) phase =
      readFrames plan hearing frames phase := by
  cases phase with
  | dialling => exact absurd rfl later.1
  | greeting => exact absurd rfl later.2
  | serving routes beat => exact attend_serving plan hearing routes beat frames
  | leaving => exact attend_leaving plan hearing frames
  | «over» => exact attend_over plan hearing frames

end Frames

section Runs

variable (plan : SessionPlan)

/-- A session is not dialling or waiting to be accepted again. -/
theorem later_turn (weather : Weather) (input : Input) {phase : Phase}
    (later : phase ≠ .dialling ∧ phase ≠ .greeting) :
    (turn plan weather input phase).1 ≠ .dialling ∧
    (turn plan weather input phase).1 ≠ .greeting := by
  rcases made : turn plan weather input phase with ⟨next, outputs⟩
  cases turn_of_eq plan weather input made with
  | rest unread => exact later
  | dial => exact absurd rfl later.1
  | welcome frames accepted => exact absurd rfl later.2
  | _ => exact ⟨nofun, nofun⟩

/-- What reaches a session in a turn may come one by one where this is so for its message. -/
theorem attend_arrivals (hearing : Option Nat) (turning : Option TransportError × Input)
    (phase : Phase) (apart : ∀ message, carrier? turning.2 = some message →
      attend (arrive plan) hearing (message.frames.map .frame) phase =
        readFrames plan hearing message.frames phase) :
    attend (arrive plan) hearing (arrivals turning) phase =
      turnHeard plan hearing turning phase := by
  rw [arrivals]
  split
  · rename_i message carries
    rw [apart message carries, turnHeard, turn_carrier plan _ carries]
  · simp [attend, arrive, turnHeard]

/-- Once greeted, a session does the same with frames and with the messages that carry them. -/
theorem attend_turns_later (hearing : Option Nat) (turns : List (Option TransportError × Input))
    {phase : Phase} (later : phase ≠ .dialling ∧ phase ≠ .greeting) :
    attend (arrive plan) hearing (turns.flatMap arrivals) phase =
      attend (turnHeard plan) hearing turns phase := by
  induction turns generalizing hearing phase with
  | nil => rfl
  | cons turning rest ih =>
      have first := attend_arrivals plan hearing turning phase
        fun message _ => attend_frames plan hearing later message.frames
      rw [List.flatMap_cons, attend_append, first, attend_cons]
      simp only [ih _ (later_turn plan ⟨turning.1, hearing⟩ turning.2 later), turnHeard]

theorem frames_of_carrier {input : Input} {message : Message}
    (carries : carrier? input = some message) :
    message.frames = framesRead input .greeting := by
  rw [carrier?.eq_def] at carries
  split at carries
  · cases carries
  · cases carries
    rfl
  · cases carries

/-- A session that reads no frame is still waiting, and otherwise it waits no longer. -/
theorem greeting_turn (weather : Weather) (input : Input) :
    (turn plan weather input .greeting).1 = .greeting ∧ framesRead input .greeting = [] ∨
      (turn plan weather input .greeting).1 ≠ .dialling ∧
        (turn plan weather input .greeting).1 ≠ .greeting := by
  rcases made : turn plan weather input .greeting with ⟨next, outputs⟩
  cases turn_of_eq plan weather input made with
  | rest unread => exact .inl ⟨rfl, unread.resolve_left nofun⟩
  | welcome frames accepted => exact .inr ⟨nofun, nofun⟩
  | finish open_before closes unrouted => exact .inr ⟨nofun, nofun⟩

/-- The frames that share a message with the one by which the node accepts a session. -/
def behindWelcome : List (Option TransportError × Input) → List Frame
  | [] => []
  | turning :: rest =>
      match framesRead turning.2 .greeting with
      | [] => behindWelcome rest
      | frame :: others => if frame.command = .connected then others else []

/-- Unless an error shares the message that accepts a session, all frames may come one by one. -/
theorem attend_turns (hearing : Option Nat) {turns : List (Option TransportError × Input)}
    (no_error : ∀ frame ∈ behindWelcome turns, frame.command ≠ .error) :
    attend (arrive plan) hearing (turns.flatMap arrivals) .greeting =
      attend (turnHeard plan) hearing turns .greeting := by
  induction turns generalizing hearing with
  | nil => rfl
  | cons turning rest ih =>
      have first : attend (arrive plan) hearing (arrivals turning) .greeting =
          turnHeard plan hearing turning .greeting := by
        apply attend_arrivals
        intro message carries
        cases frames : message.frames with
        | nil => rfl
        | cons frame others =>
            apply attend_greeting
            intro accepted other mem
            apply no_error
            simpa [behindWelcome, ← frames_of_carrier carries, frames, accepted] using mem
      rw [List.flatMap_cons, attend_append, first, attend_cons]
      rcases greeting_turn plan ⟨turning.1, hearing⟩ turning.2 with ⟨waits, unread⟩ | later
      · have no_error_later : ∀ frame ∈ behindWelcome rest, frame.command ≠ .error := by
          simpa [behindWelcome, unread] using no_error
        simp only [turnHeard, waits, ih _ no_error_later]
      · simp only [turnHeard, attend_turns_later plan _ rest later]

/-- Two ways to put the same frames into messages, with everything else at the same places between
them, come to the same, for as long as the owner takes events: what is sent and reported, and the
phase in the end. Neither way may put an error into the message that accepts the session, behind the
frame that does. -/
theorem packing_makes_no_difference (hearing : Option Nat)
    {left right : List (Option TransportError × Input)}
    (same : left.flatMap arrivals = right.flatMap arrivals)
    (left_apart : ∀ frame ∈ behindWelcome left, frame.command ≠ .error)
    (right_apart : ∀ frame ∈ behindWelcome right, frame.command ≠ .error) :
    attend (turnHeard plan) hearing left .greeting =
      attend (turnHeard plan) hearing right .greeting := by
  rw [← attend_turns plan hearing left_apart, same, attend_turns plan hearing right_apart]

end Runs

/-- A receipt may share the message that accepts the session, or come in the next one. -/
theorem packing_makes_no_difference_to_receipt :
    let welcome := "CONNECTED\nheart-beat:0,5000\n\n\x00"
    let receipt := "RECEIPT\nreceipt-id:r\n\n\x00"
    let request : Option TransportError × Input := (none, .request (.subscribe ⟨"sub-0", .blocks⟩))
    let left := [(none, .message (.text (welcome ++ receipt))), request]
    let right := [(none, .message (.text welcome)), (none, .message (.text receipt)), request]
    left.flatMap arrivals = right.flatMap arrivals ∧
      (∀ frame ∈ behindWelcome left, frame.command ≠ .error) ∧
      (∀ frame ∈ behindWelcome right, frame.command ≠ .error) ∧
      attend (turnHeard ⟨"ws://node/ws", .ofParts 10 0⟩) (some 1) left .greeting =
        attend (turnHeard ⟨"ws://node/ws", .ofParts 10 0⟩) (some 1) right .greeting := by
  intro welcome receipt request left right
  have both : (Message.text (welcome ++ receipt)).frames =
      [⟨.connected, [⟨"heart-beat", "0,5000"⟩], ""⟩, ⟨.receipt, [⟨"receipt-id", "r"⟩], ""⟩] := by
    decide +kernel
  have first : (Message.text welcome).frames = [⟨.connected, [⟨"heart-beat", "0,5000"⟩], ""⟩] := by
    decide +kernel
  have second : (Message.text receipt).frames = [⟨.receipt, [⟨"receipt-id", "r"⟩], ""⟩] := by
    decide +kernel
  have same : left.flatMap arrivals = right.flatMap arrivals := by
    simp [left, right, arrivals, carrier?, both, first, second]
  have left_apart : ∀ frame ∈ behindWelcome left, frame.command ≠ .error := by
    simp [left, behindWelcome, framesRead, both]
  have right_apart : ∀ frame ∈ behindWelcome right, frame.command ≠ .error := by
    simp [right, behindWelcome, framesRead, first]
  exact ⟨same, left_apart, right_apart,
    packing_makes_no_difference ⟨"ws://node/ws", .ofParts 10 0⟩ (some 1) same left_apart
      right_apart⟩

/-- An error behind the frame that accepts the session is lost if it comes in the same message, so
that the session goes on serving; in a message of its own it ends the session. -/
theorem error_behind_welcome_is_lost :
    let welcome := "CONNECTED\n\n\x00"
    let fault := "ERROR\nmessage:boom\n\n\x00"
    let together : List (Option TransportError × Input) :=
      [(none, .message (.text (welcome ++ fault)))]
    let apart := [(none, .message (.text welcome)), (none, .message (.text fault))]
    together.flatMap arrivals = apart.flatMap arrivals ∧
      attend (turnHeard ⟨"ws://node/ws", .ofParts 10 0⟩) none together .greeting =
        (.serving [] none, [.report (.connected none)]) ∧
      attend (turnHeard ⟨"ws://node/ws", .ofParts 10 0⟩) none apart .greeting =
        (.over, [.report (.connected none), .report (.closed (some "server error: boom"))]) := by
  intro welcome fault together apart
  have both : (Message.text (welcome ++ fault)).frames =
      [⟨.connected, [], ""⟩, ⟨.error, [⟨"message", "boom"⟩], ""⟩] := by
    decide +kernel
  have first : (Message.text welcome).frames = [⟨.connected, [], ""⟩] := by decide +kernel
  have second : (Message.text fault).frames = [⟨.error, [⟨"message", "boom"⟩], ""⟩] := by
    decide +kernel
  refine ⟨?_, ?_, ?_⟩
  · simp [together, apart, arrivals, carrier?, both, first, second]
  · decide +kernel
  · decide +kernel

end LedgerBoard.Session
