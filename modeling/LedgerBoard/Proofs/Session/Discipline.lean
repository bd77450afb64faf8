import Mathlib.Data.List.Nodup
import LedgerBoard.Proofs.Session.Conduct
import LedgerBoard.Proofs.Session.Numbering
import LedgerBoard.Proofs.Session.Running
import LedgerBoard.Session.Owned

/-!
# The discipline of the wire

Whatever its owner and the node do, and in whatever order, a session keeps to the rules of the
protocol and to what its owner asked for. `Queued` ties the log to the queue between the session and
its owner, and `Kept` carries it, with the conduct of the session, over any moves.
-/

namespace LedgerBoard

namespace Session

/-- The id of the subscription that a request is for. -/
def newId? : Request → Option String
  | .subscribe subscription => some subscription.id
  | _ => none

/-- The ids of the subscriptions that the owner asked for. -/
def askedIds (log : List Deed) : List String :=
  (askedOf log).filterMap newId?

/-- The id that an item subscribes. -/
def Item.subscribedId? : Item → Option String
  | frame content => if content.command = .subscribe then content.header? "id" else none
  | beat => none

/-- What a session put on the wire keeps to the protocol, and to what its owner asked for. -/
structure Disciplined (plan : SessionPlan) (log : List Deed) : Prop where
  shaped : Shaped plan (wire log)
  lawful : Lawful plan log
  no_credentials : ∀ frame, .frame frame ∈ wire log →
    frame.header? "login" = none ∧ frame.header? "passcode" = none
  distinct : (askedIds log).length < 2 ^ 32 → ((wire log).filterMap Item.subscribedId?).Nodup
  in_order : ((wire log).filter Item.isCommand).Sublist ((takenLate log).filterMap itemOf?)
  taken : takenOf log <+: askedOf log

section Disciplined

variable {plan : SessionPlan} {log : List Deed}

theorem no_credentials_of_ordinary {frame : Frame} (ordinary : Item.IsOrdinary (.frame frame)) :
    frame.header? "login" = none ∧ frame.header? "passcode" = none := by
  cases ordinary with
  | subscribe subscription => simp [Frame.header?, Frame.subscribe]
  | unsubscribe id => simp [Frame.header?, Frame.unsubscribe]

/-- No frame on a wire of the right shape carries credentials. -/
theorem no_credentials_of_shaped {items : List Item} (shaped : Shaped plan items) {frame : Frame}
    (mem : .frame frame ∈ items) :
    frame.header? "login" = none ∧ frame.header? "passcode" = none := by
  have opens :
      (opening plan).header? "login" = none ∧ (opening plan).header? "passcode" = none := by
    simp [opening, Frame.header?, Frame.connect]
  cases shaped with
  | silent => cases mem
  | started ordinary =>
      rcases List.mem_cons.mp mem with first | later
      · cases first
        exact opens
      · exact no_credentials_of_ordinary (ordinary _ later)
  | ended ordinary =>
      rcases List.mem_cons.mp mem with first | later
      · cases first
        exact opens
      · rcases List.mem_append.mp later with between | last
        · exact no_credentials_of_ordinary (ordinary _ between)
        · cases List.mem_singleton.mp last
          simp [Frame.header?, Frame.disconnect]

/-- Every subscription on the wire is one that the owner asked for, in the same order. -/
theorem subscribed_sublist_asked
    (in_order : ((wire log).filter Item.isCommand).Sublist ((takenLate log).filterMap itemOf?))
    (taken : takenOf log <+: askedOf log) :
    ((wire log).filterMap Item.subscribedId?).Sublist (askedIds log) := by
  have commands_only : ((wire log).filter Item.isCommand).filterMap Item.subscribedId? =
      (wire log).filterMap Item.subscribedId? := by
    rw [List.filterMap_filter]
    refine congrArg (List.filterMap · (wire log)) (funext fun item => ?_)
    cases item with
    | frame content =>
        by_cases subscribes : content.command = .subscribe <;>
          simp [Item.isCommand, Item.subscribedId?, subscribes]
    | beat => rfl
  have of_requests : ((takenLate log).filterMap itemOf?).filterMap Item.subscribedId? =
      (takenLate log).filterMap newId? := by
    rw [List.filterMap_filterMap]
    refine congrArg (List.filterMap · (takenLate log)) (funext fun request => ?_)
    cases request <;> rfl
  have sent_of_late := in_order.filterMap Item.subscribedId?
  rw [commands_only, of_requests] at sent_of_late
  have late_of_taken := (takenLate_sublist_takenOf log).filterMap newId?
  exact sent_of_late.trans (late_of_taken.trans (taken.sublist.filterMap newId?))

/-- The ids that a handle asks for are numbered in turn. -/
def AreNumbered (ids : List String) : Prop :=
  ids = (List.range ids.length).map fun number => Handle.subscriptionId (.ofNat number)

theorem AreNumbered.concat {ids : List String} (numbered : AreNumbered ids) :
    AreNumbered (ids ++ [Handle.subscriptionId (.ofNat ids.length)]) := by
  rw [AreNumbered, List.length_append, List.length_singleton, List.range_succ, List.map_append]
  exact congrArg (· ++ [_]) numbered

/-- Numbered ids are all different, as long as a word can number them. -/
theorem AreNumbered.nodup {ids : List String} (numbered : AreNumbered ids)
    (fits : ids.length < 2 ^ 32) :
    ids.Nodup := by
  rw [numbered]
  refine List.Nodup.map_on ?_ List.nodup_range
  intro left left_mem right right_mem same
  have left_fits := (List.mem_range.mp left_mem).trans fits
  have right_fits := (List.mem_range.mp right_mem).trans fits
  exact Handle.subscriptionId_ofNat_injective left_fits right_fits same

end Disciplined

end Session

namespace Owned

open Session

/-- What a move adds to the log. -/
def deeds (owned : Owned) : Move → List Deed
  | .call call => (owned.handle.bind fun handle => (call.outcome handle).1).toList.map .asked
  | .take weather =>
      (owned.session.asked? owned.handle.isSome).elim [] fun input =>
        deedsOf input owned.session.phase (owned.step (.take weather)).2
  | .hear weather input =>
      if input.isForeign then
        deedsOf input owned.session.phase (owned.step (.hear weather input)).2
      else []

/-- The log of a run. -/
def log (owned : Owned) : List Move → List Deed
  | [] => []
  | move :: rest => owned.deeds move ++ (owned.step move).1.log rest

/-- The session takes what its owner asked for, in the same order, and the ids that it was asked for
are numbered in turn. -/
structure Queued (owned : Owned) (log : List Deed) : Prop where
  some_of : takenOf log ++ owned.session.waiting <+: askedOf log
  all_of : owned.session.phase ≠ .over → takenOf log ++ owned.session.waiting = askedOf log
  numbered : AreNumbered (askedIds log)
  next : ∀ handle, owned.handle = some handle → handle.next = .ofNat (askedIds log).length

/-- What always holds of a session and its log. -/
structure Kept (plan : SessionPlan) (owned : Owned) (log : List Deed) : Prop where
  plan_eq : owned.session.plan = plan
  conducted : Conducted plan owned.session.phase log
  queued : Queued owned log

section Kept

variable {plan : SessionPlan} {owned : Owned} {log : List Deed}

theorem kept_start (generation : Nat) (plan : SessionPlan) :
    Kept plan (start generation plan) [] where
  plan_eq := rfl
  conducted := ⟨lawful_nil, List.nil_sublist _, .dialling rfl rfl fun id => rfl⟩
  queued := {
    some_of := List.prefix_refl _
    all_of := fun _ => rfl
    numbered := rfl
    next := by
      intro handle held
      cases held
      rfl }

/-- A turn takes from the front of the queue what it is about. -/
theorem Queued.turn (queued : Queued owned log) {session : RunningSession} {input : Input}
    {outputs : List Output}
    (waits : owned.session.waiting = input.request?.toList ++ session.waiting)
    (open_before : session.phase ≠ .over → owned.session.phase ≠ .over) :
    Queued { owned with session } (log ++ deedsOf input owned.session.phase outputs) := by
  have same_taken : takenOf (log ++ deedsOf input owned.session.phase outputs) ++ session.waiting =
      takenOf log ++ owned.session.waiting := by
    rw [takenOf_append, takenOf_deedsOf, waits, List.append_assoc]
  have same_asked : askedOf (log ++ deedsOf input owned.session.phase outputs) = askedOf log := by
    rw [askedOf_append, askedOf_deedsOf, List.append_nil]
  refine ⟨?_, ?_, ?_, ?_⟩
  · rw [same_taken, same_asked]
    exact queued.some_of
  · intro still_open
    rw [same_taken, same_asked]
    exact queued.all_of (open_before still_open)
  · rw [askedIds, same_asked]
    exact queued.numbered
  · intro handle held
    rw [askedIds, same_asked]
    exact queued.next handle held

/-- A turn of the session keeps to what its owner asked for. -/
theorem Kept.turn (kept : Kept plan owned log) (weather : Weather) {input : Input}
    {waiting : List Request} (waits : owned.session.waiting = input.request?.toList ++ waiting)
    {session : RunningSession} {outputs : List Output}
    (made : RunningSession.turn weather input { owned.session with waiting } = (session, outputs)) :
    Kept plan { owned with session } (log ++ deedsOf input owned.session.phase outputs) := by
  cases made
  have conducted := conducted_turn kept.conducted weather input
  rw [← kept.plan_eq] at conducted ⊢
  refine ⟨rfl, conducted, kept.queued.turn waits ?_⟩
  intro still_open over_before
  apply still_open
  show (Session.turn owned.session.plan weather input owned.session.phase).1 = .over
  rw [over_before]
  rfl

/-- A request waits behind those before it. A session that is over does not get it. -/
theorem Queued.ask (queued : Queued owned log) (request : Request) {left : Option Handle}
    (numbered : AreNumbered (askedIds log ++ (newId? request).toList))
    (next : ∀ handle, left = some handle →
      handle.next = .ofNat (askedIds log ++ (newId? request).toList).length) :
    Queued ⟨left, owned.session.ask request⟩ (log ++ [.asked request]) := by
  have more_asked : askedOf (log ++ [.asked request]) = askedOf log ++ [request] := by
    rw [askedOf_append]
    rfl
  have more_ids : askedIds (log ++ [.asked request]) = askedIds log ++ (newId? request).toList := by
    rw [askedIds, more_asked, List.filterMap_append]
    cases request <;> rfl
  have same_taken : takenOf (log ++ [.asked request]) = takenOf log := by
    rw [takenOf_append]
    exact List.append_nil _
  have waits_last : owned.session.phase ≠ .over →
      takenOf log ++ (owned.session.ask request).waiting = askedOf log ++ [request] := by
    intro open_before
    rw [RunningSession.ask, if_neg (by simpa [RunningSession.isOver]), ← List.append_assoc,
      queued.all_of open_before]
  refine ⟨?_, ?_, ?_, ?_⟩
  · rw [same_taken, more_asked]
    by_cases over_before : owned.session.phase = .over
    · rw [RunningSession.ask, if_pos (by simp [RunningSession.isOver, over_before])]
      exact queued.some_of.trans (List.prefix_append ..)
    · exact ⟨[], (List.append_nil _).trans (waits_last over_before)⟩
  · intro still_open
    rw [same_taken, more_asked]
    apply waits_last
    rw [RunningSession.ask] at still_open
    split at still_open <;> exact still_open
  · rw [more_ids]
    exact numbered
  · rw [more_ids]
    exact next

/-- What the owner asks for goes to the end of the queue. -/
theorem Queued.call (queued : Queued owned log) {handle : Handle}
    (held : owned.handle = some handle) (call : Call) :
    Queued ⟨(call.outcome handle).2, (call.outcome handle).1.elim owned.session owned.session.ask⟩
      (log ++ (call.outcome handle).1.toList.map .asked) := by
  have number := queued.next handle held
  cases call with
  | subscribe topic =>
      apply queued.ask
      · simpa [newId?, Handle.subscribe, number] using queued.numbered.concat
      · intro left same
        cases same
        simp [newId?, number, UInt32.ofNat_add]
  | unsubscribe id =>
      apply queued.ask
      · simpa [newId?] using queued.numbered
      · intro left same
        cases same
        simpa [newId?] using number
  | disconnect =>
      apply queued.ask
      · simpa [newId?] using queued.numbered
      · intro left same
        cases same
  | drop =>
      rw [Call.outcome, Option.toList_none, List.map_nil, List.append_nil]
      exact ⟨queued.some_of, queued.all_of, queued.numbered, nofun⟩

/-- What the owner asks for is kept with all that was asked before. -/
theorem Kept.call (kept : Kept plan owned log) {handle : Handle} (held : owned.handle = some handle)
    (call : Call) :
    Kept plan ⟨(call.outcome handle).2,
      (call.outcome handle).1.elim owned.session owned.session.ask⟩
      (log ++ (call.outcome handle).1.toList.map .asked) := by
  have same_session : ∀ request : Option Request,
      (request.elim owned.session owned.session.ask).plan = owned.session.plan ∧
        (request.elim owned.session owned.session.ask).phase = owned.session.phase := by
    intro request
    cases request with
    | none => exact ⟨rfl, rfl⟩
    | some request =>
        rw [Option.elim_some, RunningSession.ask]
        split <;> exact ⟨rfl, rfl⟩
  refine ⟨?_, ?_, kept.queued.call held call⟩
  · rw [(same_session _).1]
    exact kept.plan_eq
  · rw [(same_session _).2]
    exact kept.conducted.asking _

/-- Every move keeps the log of a session and its owner. -/
theorem kept_step (kept : Kept plan owned log) (move : Move) :
    Kept plan (owned.step move).1 (log ++ owned.deeds move) := by
  cases move with
  | call call =>
      cases held : owned.handle with
      | none => simpa [step, deeds, held] using kept
      | some handle => simpa [step, deeds, held] using kept.call held call
  | take weather =>
      have taking := owned.session.taking owned.handle.isSome weather
      rw [deeds]
      simp only [step]
      generalize owned.session.take owned.handle.isSome weather = result at taking ⊢
      generalize owned.session.asked? owned.handle.isSome = input? at taking ⊢
      cases taking with
      | idle => simpa using kept
      | request waits => exact kept.turn weather waits rfl
      | abandoned empty => exact kept.turn weather rfl rfl
  | hear weather input =>
      rw [deeds]
      simp only [step, RunningSession.hear]
      split
      · rename_i foreign
        refine kept.turn weather ?_ rfl
        cases input <;> first | rfl | cases foreign
      · simpa using kept

theorem kept_run (kept : Kept plan owned log) (moves : List Move) :
    Kept plan (owned.run moves) (log ++ owned.log moves) := by
  induction moves generalizing owned log with
  | nil => simpa [run, Owned.log] using kept
  | cons move rest ih =>
      have later := ih (kept_step kept move)
      rw [List.append_assoc] at later
      exact later

end Kept

/-- Whatever the owner and the node do, what a session sends keeps to the protocol and to what its
owner asked for, and while it serves its routes are exactly what is subscribed on the wire. -/
theorem wire_is_disciplined (generation : Nat) (plan : SessionPlan) (moves : List Move) :
    Disciplined plan ((start generation plan).log moves) ∧
    ∀ routes beat, ((start generation plan).run moves).session.phase = .serving routes beat →
      Agrees (active (passed ((start generation plan).log moves))) routes := by
  have kept := kept_run (kept_start generation plan) moves
  rw [List.nil_append] at kept
  have lawful := kept.conducted.lawful
  have in_order := kept.conducted.in_order
  have taken := (List.prefix_append ..).trans kept.queued.some_of
  refine ⟨⟨shaped_of_lawful lawful, lawful, ?_, ?_, in_order, taken⟩, ?_⟩
  · intro frame mem
    exact no_credentials_of_shaped (shaped_of_lawful lawful) mem
  · intro fits
    exact (subscribed_sublist_asked in_order taken).nodup (kept.queued.numbered.nodup fits)
  · intro routes beat serving
    have standing := kept.conducted.standing
    rw [serving] at standing
    cases standing with
    | serving serves agreed agrees => exact agrees

/-- The first request is taken before the session is accepted, and lost. -/
example :
    let plan : SessionPlan := ⟨"ws://node/ws", .ofParts 10 0⟩
    wire ((start 1 plan).log
      [.hear {} (.dialled (.ok ())), .call (.subscribe .blocks), .take {},
        .hear {} (.message (.text "CONNECTED\nheart-beat:0,5000\n\n\x00")),
        .call (.subscribe .transactions), .take {}, .hear {} .beatDue, .call .disconnect,
        .take {}]) =
      [.frame (opening plan), .frame (.subscribe "sub-1" Topic.transactions.destination), .beat,
        .frame (.disconnect receipt)] := by
  decide +kernel

end Owned

end LedgerBoard
