import LedgerBoard.Session.Turn

/-!
# What a turn can do

`Turn` lists everything that a turn of a session can amount to, with the conditions under which it
does; `turn_spec` says that every turn is one of these. What holds after every turn is proved by
cases on `Turn`, without opening the turns of the single phases again.
-/

namespace LedgerBoard.Session

/-- The frames that a session reads in a turn. While it dials there is no transport to read from. -/
def framesRead : Input → Phase → List Frame
  | _, .dialling => []
  | _, .over => []
  | .message message, _ => message.frames
  | _, _ => []

@[simp]
theorem framesRead_dialling (input : Input) : framesRead input .dialling = [] := by
  cases input <;> rfl

@[simp]
theorem framesRead_over (input : Input) : framesRead input .over = [] := by
  cases input <;> rfl

/-- Everything that a turn can amount to: the phase it leads to, and what is done. -/
inductive Turn (plan : SessionPlan) (weather : Weather) :
    Phase → Input → Phase → List Output → Prop where
  /-- Nothing is done. Only a leaving session may have read frames then. -/
  | rest {phase : Phase} {input : Input} (unread : phase = .leaving ∨ framesRead input phase = []) :
      Turn plan weather phase input phase []
  | dial {input : Input} :
      Turn plan weather .dialling input .greeting
        [.send (.connect plan.host plan.heartbeat.millis)]
  | welcome {message : Message} {frame : Frame} {others : List Frame} {beat : Option Duration}
      (frames : message.frames = frame :: others) (accepted : frame.command = .connected) :
      Turn plan weather .greeting (.message message) (.serving [] beat)
        [.report (.connected (frame.header? "server"))]
  | subscribe {routes : Routes} {beat : Option Duration} (subscription : Subscription) :
      Turn plan weather (.serving routes beat) (.request (.subscribe subscription))
        (.serving
          (routes.filter (·.1 ≠ subscription.id) ++ [(subscription.id, subscription.topic)]) beat)
        [.send (.subscribe subscription.id subscription.topic.destination)]
  | unsubscribe {routes : Routes} {beat : Option Duration} {id : String}
      (held : (routes.lookup id).isSome = true) :
      Turn plan weather (.serving routes beat) (.request (.unsubscribe id))
        (.serving (routes.filter (·.1 ≠ id)) beat) [.send (.unsubscribe id)]
  | beat {routes : Routes} {period : Duration} :
      Turn plan weather (.serving routes (some period)) .beatDue (.serving routes (some period))
        [.beat]
  | serve {routes : Routes} {beat : Option Duration} {message : Message}
      {events : List SessionEvent}
      (routed : routeAll routes weather.hearing message.frames = (events, none)) :
      Turn plan weather (.serving routes beat) (.message message) (.serving routes beat)
        (events.map .report)
  | leave {routes : Routes} {beat : Option Duration} {input : Input}
      (asked : input = .request .disconnect ∨ input = .abandoned) :
      Turn plan weather (.serving routes beat) input .leaving [.send (.disconnect receipt)]
  /-- A frame ends the session after the events of the frames before it. -/
  | fail {routes : Routes} {beat : Option Duration} {message : Message} {events : List SessionEvent}
      {cause : SessionError} {heard : Bool}
      (routed : routeAll routes weather.hearing message.frames = (events, some cause)) :
      Turn plan weather (.serving routes beat) (.message message) .over
        (events.map .report ++ farewell heard (some cause))
  /-- Anything else ends the session; no frame is routed then. -/
  | finish {phase : Phase} {input : Input} {closing : List Output} {heard : Bool}
      {ending : Option SessionError} (open_before : phase ≠ .over)
      (closes : closing = [] ∨ closing = [.close])
      (unrouted : ∀ routes beat, phase = .serving routes beat → framesRead input phase = []) :
      Turn plan weather phase input .over (closing ++ farewell heard ending)

section Spec

variable (plan : SessionPlan) (weather : Weather) (input : Input)

/-- Sending either does what it is for or ends the session. -/
theorem turn_sending {phase next : Phase} {output : Output} (open_before : phase ≠ .over)
    (unrouted : ∀ routes beat, phase = .serving routes beat → framesRead input phase = [])
    (done : Turn plan weather phase input next [output]) :
    Turn plan weather phase input (sending weather output next).1
      (sending weather output next).2 := by
  rw [sending]
  split
  · exact .finish open_before (.inl rfl) unrouted
  · exact done

theorem turnDialling_spec :
    Turn plan weather .dialling input (turnDialling plan weather input).1
      (turnDialling plan weather input).2 := by
  have unrouted : ∀ routes beat, Phase.dialling = .serving routes beat →
      framesRead input .dialling = [] := nofun
  rw [turnDialling.eq_def]
  split
  · exact turn_sending plan weather _ (by simp) unrouted .dial
  · exact .finish (by simp) (.inl rfl) unrouted
  · exact .finish (by simp) (.inl rfl) unrouted
  · exact .finish (by simp) (.inl rfl) unrouted
  · exact .rest (.inr (framesRead_dialling _))

/-- The answer of the node accepts the session or ends it. -/
theorem welcome_spec {message : Message} {frame : Frame} {others : List Frame}
    (frames : message.frames = frame :: others) :
    Turn plan weather .greeting (.message message) (welcome plan weather frame).1
      (welcome plan weather frame).2 := by
  have unrouted : ∀ routes beat, Phase.greeting = .serving routes beat →
      framesRead (.message message) .greeting = [] := nofun
  rw [welcome]
  split
  · rename_i accepted
    split
    · exact .finish (by simp) (.inl rfl) unrouted
    · exact .welcome frames accepted
  · exact .finish (by simp) (.inl rfl) unrouted
  · exact .finish (by simp) (.inl rfl) unrouted

/-- What a session can do that waits for an answer. -/
theorem turnGreeting_spec :
    Turn plan weather .greeting input (turnGreeting plan weather input).1
      (turnGreeting plan weather input).2 := by
  have unrouted : ∀ routes beat, Phase.greeting = .serving routes beat →
      framesRead input .greeting = [] := nofun
  rw [turnGreeting.eq_def]
  split
  · exact .finish (by simp) (.inl rfl) unrouted
  · rename_i message _
    split
    · exact welcome_spec plan weather ‹_›
    · exact .rest (.inr ‹_›)
  · exact .finish (by simp) (.inl rfl) unrouted
  · exact .finish (by simp) (.inl rfl) unrouted
  · exact .finish (by simp) (.inr rfl) unrouted
  · exact .finish (by simp) (.inr rfl) unrouted
  · rename_i no_message _ _ _ _
    refine .rest (.inr ?_)
    cases input with
    | message message => exact absurd rfl (no_message message)
    | _ => rfl

/-- A message that is served brings news, or ends the session. -/
theorem serve_spec (routes : Routes) (beat : Option Duration) (message : Message) :
    Turn plan weather (.serving routes beat) (.message message)
      (serve weather routes beat message).1
      (serve weather routes beat message).2 := by
  rw [serve]
  rcases routed : routeAll routes weather.hearing message.frames with ⟨events, ending⟩
  cases ending with
  | none => exact .serve routed
  | some cause => exact .fail routed

/-- What a session can do that serves. -/
theorem turnServing_spec (routes : Routes) (beat : Option Duration) :
    Turn plan weather (.serving routes beat) input (turnServing weather routes beat input).1
      (turnServing weather routes beat input).2 := by
  cases input with
  | dialled outcome => exact .rest (.inr rfl)
  | request request =>
      have unrouted : ∀ routes' beat', Phase.serving routes beat = .serving routes' beat' →
          framesRead (.request request) (.serving routes beat) = [] := fun _ _ _ => rfl
      cases request with
      | subscribe subscription =>
          exact turn_sending plan weather _ (by simp) unrouted (.subscribe subscription)
      | unsubscribe id =>
          simp only [turnServing]
          split
          · rename_i held
            exact turn_sending plan weather _ (by simp) unrouted (.unsubscribe held)
          · exact .rest (.inr rfl)
      | disconnect => exact turn_sending plan weather _ (by simp) unrouted (.leave (.inl rfl))
  | abandoned => exact turn_sending plan weather _ (by simp) (fun _ _ _ => rfl) (.leave (.inr rfl))
  | message message =>
      cases message with
      | close reason => exact .finish (by simp) (.inl rfl) fun _ _ _ => rfl
      | text content => exact serve_spec plan weather routes beat _
      | binary octets => exact serve_spec plan weather routes beat _
      | ping => exact serve_spec plan weather routes beat _
      | pong => exact serve_spec plan weather routes beat _
  | failed cause => exact .finish (by simp) (.inl rfl) fun _ _ _ => rfl
  | ended => exact .finish (by simp) (.inl rfl) fun _ _ _ => rfl
  | beatDue =>
      cases beat with
      | none => exact .rest (.inr rfl)
      | some period => exact turn_sending plan weather _ (by simp) (fun _ _ _ => rfl) .beat
  | waitOver => exact .rest (.inr rfl)

theorem turnLeaving_spec :
    Turn plan weather .leaving input (turnLeaving weather input).1
      (turnLeaving weather input).2 := by
  have unrouted : ∀ routes beat, Phase.leaving = .serving routes beat →
      framesRead input .leaving = [] := nofun
  rw [turnLeaving.eq_def]
  split
  · exact .finish (by simp) (.inr rfl) unrouted
  · split
    · exact .finish (by simp) (.inr rfl) unrouted
    · exact .rest (.inl rfl)
  · exact .finish (by simp) (.inr rfl) unrouted
  · exact .finish (by simp) (.inr rfl) unrouted
  · exact .finish (by simp) (.inr rfl) unrouted
  · exact .rest (.inl rfl)

/-- Every turn is one of those that `Turn` lists. -/
theorem turn_spec (phase : Phase) :
    Turn plan weather phase input (turn plan weather input phase).1
      (turn plan weather input phase).2 := by
  cases phase with
  | dialling => exact turnDialling_spec plan weather input
  | greeting => exact turnGreeting_spec plan weather input
  | serving routes beat => exact turnServing_spec plan weather input routes beat
  | leaving => exact turnLeaving_spec plan weather input
  | «over» => exact .rest (.inr (framesRead_over input))

theorem turn_of_eq {phase next : Phase} {outputs : List Output}
    (made : turn plan weather input phase = (next, outputs)) :
    Turn plan weather phase input next outputs := by
  have spec := turn_spec plan weather input phase
  rwa [made] at spec

end Spec

section Runs

variable (plan : SessionPlan)

theorem run_cons (weather : Weather) (input : Input) (rest : List (Weather × Input))
    (phase : Phase) :
    run plan ((weather, input) :: rest) phase =
      ((run plan rest (turn plan weather input phase).1).1,
        (turn plan weather input phase).2 ++ (run plan rest (turn plan weather input phase).1).2) :=
  rfl

theorem run_append (front back : List (Weather × Input)) (phase : Phase) :
    run plan (front ++ back) phase =
      ((run plan back (run plan front phase).1).1,
        (run plan front phase).2 ++ (run plan back (run plan front phase).1).2) := by
  induction front generalizing phase with
  | nil => rfl
  | cons first rest ih =>
      rcases first with ⟨weather, input⟩
      simp [run_cons, ih]

end Runs

end LedgerBoard.Session
