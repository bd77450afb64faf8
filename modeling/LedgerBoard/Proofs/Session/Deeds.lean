import Mathlib.Data.List.Induction
import Mathlib.Data.List.TakeWhile
import LedgerBoard.Proofs.Session.Record
import LedgerBoard.Proofs.Session.Reports

/-!
# The log of a session and its owner

The log of a session holds what its owner asked for, what it took of that, what it read, and what it
sent, in order. `Permitted` says when the protocol allows a session to send something, in terms of
the log before it, and `Lawful` that nothing was sent otherwise. `shaped_of_lawful` says how the
wire looks then.
-/

namespace LedgerBoard.Session

/-- What a session puts on the wire. -/
inductive Item where
  | frame (frame : Frame)
  /-- A lone line feed. -/
  | beat
  deriving DecidableEq, Repr

/-- One line of the log. -/
inductive Deed where
  | asked (request : Request)
  | took (request : Request)
  | read (frame : Frame)
  | sent (item : Item)
  deriving DecidableEq, Repr

/-- Everything that was sent. -/
def wire (log : List Deed) : List Item :=
  log.filterMap fun
    | .sent item => some item
    | _ => none

/-- The frames that were read. -/
def heard (log : List Deed) : List Frame :=
  log.filterMap fun
    | .read frame => some frame
    | _ => none

/-- The requests that the owner made. -/
def askedOf (log : List Deed) : List Request :=
  log.filterMap fun
    | .asked request => some request
    | _ => none

/-- The requests that the session took. -/
def takenOf (log : List Deed) : List Request :=
  log.filterMap fun
    | .took request => some request
    | _ => none

/-- The frames that passed over the transport. -/
def passed (log : List Deed) : List Entry :=
  log.filterMap fun
    | .read frame => some (.read frame)
    | .sent (.frame frame) => some (.sent frame)
    | _ => none

def Deed.isRead : Deed → Bool
  | read _ => true
  | _ => false

/-- The requests that the session took after it had read its first frame. -/
def takenLate (log : List Deed) : List Request :=
  takenOf (log.dropWhile fun deed => !deed.isRead)

section Views

variable (front back : List Deed)

@[simp]
theorem wire_append : wire (front ++ back) = wire front ++ wire back := List.filterMap_append

@[simp]
theorem heard_append : heard (front ++ back) = heard front ++ heard back := List.filterMap_append

@[simp]
theorem askedOf_append : askedOf (front ++ back) = askedOf front ++ askedOf back :=
  List.filterMap_append

@[simp]
theorem takenOf_append : takenOf (front ++ back) = takenOf front ++ takenOf back :=
  List.filterMap_append

@[simp]
theorem passed_append : passed (front ++ back) = passed front ++ passed back :=
  List.filterMap_append

variable {front}

/-- What is taken after a welcome is taken late. -/
theorem takenLate_append (some_heard : heard front ≠ []) :
    takenLate (front ++ back) = takenLate front ++ takenOf back := by
  induction front with
  | nil => exact absurd rfl some_heard
  | cons deed rest ih =>
      cases deed with
      | read frame =>
          show takenOf (.read frame :: (rest ++ back)) =
            takenOf (.read frame :: rest) ++ takenOf back
          exact takenOf_append (.read frame :: rest) back
      | asked request => exact ih some_heard
      | took request => exact ih some_heard
      | sent item => exact ih some_heard

theorem takenLate_eq_nil (unheard : heard front = []) : takenLate front = [] := by
  have all_dropped : front.dropWhile (fun deed => !deed.isRead) = [] := by
    rw [List.dropWhile_eq_nil_iff]
    intro deed mem
    cases deed with
    | read frame =>
        have is_heard : frame ∈ heard front := List.mem_filterMap.mpr ⟨_, mem, rfl⟩
        rw [unheard] at is_heard
        cases is_heard
    | _ => rfl
  rw [takenLate, all_dropped]
  rfl

theorem takenLate_sublist_append (front back : List Deed) :
    (takenLate front).Sublist (takenLate (front ++ back)) := by
  by_cases unheard : heard front = []
  · rw [takenLate_eq_nil unheard]
    exact List.nil_sublist _
  · rw [takenLate_append back unheard]
    exact List.sublist_append_left ..

/-- What is taken late is among what is taken. -/
theorem takenLate_sublist_takenOf (log : List Deed) : (takenLate log).Sublist (takenOf log) :=
  (List.dropWhile_suffix _).sublist.filterMap _

end Views

/-- The frame that a session opens with. It carries no credentials. -/
def opening (plan : SessionPlan) : Frame := .connect plan.host plan.heartbeat.millis

/-- A session serves when it has opened, was welcomed by the first frame that it read, and has not
asked for the end. -/
structure Serves (log : List Deed) (welcome : Frame) : Prop where
  opened : wire log ≠ []
  first : (heard log).head? = some welcome
  accepted : welcome.command = .connected
  stays : .frame (.disconnect receipt) ∉ wire log

section Serves

variable {log more : List Deed} {welcome : Frame}

theorem Serves.heard_ne_nil (serves : Serves log welcome) : heard log ≠ [] := by
  intro unheard
  have first := serves.first
  rw [unheard] at first
  cases first

/-- A session serves on as long as it does not take its leave. -/
theorem Serves.append (serves : Serves log welcome)
    (stays : .frame (.disconnect receipt) ∉ wire more) : Serves (log ++ more) welcome where
  opened := by
    rw [wire_append]
    exact List.append_ne_nil_of_left_ne_nil serves.opened _
  first := by
    rw [heard_append, List.head?_append, serves.first]
    rfl
  accepted := serves.accepted
  stays := by
    rw [wire_append, List.mem_append]
    exact not_or.mpr ⟨serves.stays, stays⟩

end Serves

/-- What a session may send after a log. It subscribes and unsubscribes on request only, at once. -/
inductive Permitted (plan : SessionPlan) (log : List Deed) : Item → Prop where
  | opening (silent : wire log = []) : Permitted plan log (.frame (opening plan))
  | subscribe {welcome : Frame} (serves : Serves log welcome) {subscription : Subscription}
      (requested : log.getLast? = some (.took (.subscribe subscription))) :
      Permitted plan log (.frame (.subscribe subscription.id subscription.topic.destination))
  | unsubscribe {welcome : Frame} (serves : Serves log welcome) {id : String}
      (requested : log.getLast? = some (.took (.unsubscribe id)))
      (subscribed : (active (passed log) id).isSome = true) :
        Permitted plan log (.frame (.unsubscribe id))
  | beat {welcome : Frame} (serves : Serves log welcome) {period : Duration}
      (agreed : HeartBeat.interval? plan.heartbeat (welcome.header? "heart-beat") = some period) :
      Permitted plan log .beat
  | closing {welcome : Frame} (serves : Serves log welcome) :
      Permitted plan log (.frame (.disconnect receipt))

/-- Everything that was sent was permitted when it was sent. -/
def Lawful (plan : SessionPlan) (log : List Deed) : Prop :=
  ∀ before item after, log = before ++ .sent item :: after → Permitted plan before item

section Lawful

variable {plan : SessionPlan} {log : List Deed}

theorem lawful_nil : Lawful plan [] := by
  intro before item after split
  cases before <;> cases split

/-- A lawful log may go on with a deed, as long as what is sent is permitted after it. -/
theorem lawful_concat {deed : Deed} (lawful : Lawful plan log)
    (permitted : ∀ item, deed = .sent item → Permitted plan log item) :
    Lawful plan (log ++ [deed]) := by
  intro before item after split
  rcases List.eq_nil_or_concat after with rfl | ⟨others, last, rfl⟩
  · rcases List.append_inj' split rfl with ⟨rfl, same⟩
    exact permitted item (List.cons.inj same).1
  · rw [List.concat_eq_append, ← List.cons_append, ← List.append_assoc] at split
    exact lawful before item others (List.append_inj' split rfl).1

/-- The front of a lawful log is lawful. -/
theorem Lawful.of_append {more : List Deed} (lawful : Lawful plan (log ++ more)) :
    Lawful plan log := by
  intro before item after split
  apply lawful before item (after ++ more)
  rw [split, List.append_assoc, List.cons_append]

/-- A lawful log stays lawful while nothing is put on the wire. -/
theorem lawful_append_of_silent {more : List Deed} (lawful : Lawful plan log)
    (silent : wire more = []) :
    Lawful plan (log ++ more) := by
  induction more using List.reverseRecOn with
  | nil => rwa [List.append_nil]
  | append_singleton others last ih =>
      rw [wire_append, List.append_eq_nil_iff] at silent
      rw [← List.append_assoc]
      refine lawful_concat (ih silent.1) ?_
      rintro item rfl
      cases silent.2

end Lawful

/-- What may stand between the opening and the closing frame. -/
inductive Item.IsOrdinary : Item → Prop where
  | beat : IsOrdinary .beat
  | subscribe (subscription : Subscription) :
      IsOrdinary (.frame (.subscribe subscription.id subscription.topic.destination))
  | unsubscribe (id : String) : IsOrdinary (.frame (.unsubscribe id))

/-- Nothing, or the opening frame, then ordinary items, and then the closing frame at most. -/
inductive Shaped (plan : SessionPlan) : List Item → Prop where
  | silent : Shaped plan []
  | started {middle : List Item} (ordinary : ∀ item ∈ middle, item.IsOrdinary) :
      Shaped plan (.frame (opening plan) :: middle)
  | ended {middle : List Item} (ordinary : ∀ item ∈ middle, item.IsOrdinary) :
      Shaped plan (.frame (opening plan) :: (middle ++ [.frame (.disconnect receipt)]))

section Shaped

variable {plan : SessionPlan} {log : List Deed} {welcome : Frame}

/-- The wire of a session that serves has its opening, and then ordinary items only. -/
theorem Serves.exists_middle (serves : Serves log welcome) (shaped : Shaped plan (wire log)) :
    ∃ middle, wire log = .frame (opening plan) :: middle ∧ ∀ item ∈ middle, item.IsOrdinary := by
  have stays := serves.stays
  have opened := serves.opened
  generalize wire log = items at shaped stays opened ⊢
  cases shaped with
  | silent => exact absurd rfl opened
  | started ordinary => exact ⟨_, rfl, ordinary⟩
  | ended ordinary => simp at stays

theorem Serves.shaped_concat (serves : Serves log welcome) (shaped : Shaped plan (wire log))
    {item : Item} (ordinary : item.IsOrdinary) : Shaped plan (wire log ++ [item]) := by
  rcases serves.exists_middle shaped with ⟨middle, split, all_ordinary⟩
  rw [split]
  refine .started ?_
  intro other mem
  rcases List.mem_append.mp mem with earlier | last
  · exact all_ordinary other earlier
  · rw [List.mem_singleton.mp last]
    exact ordinary

/-- What is permitted keeps the shape of the wire. -/
theorem shaped_of_permitted {item : Item} (shaped : Shaped plan (wire log))
    (permitted : Permitted plan log item) : Shaped plan (wire log ++ [item]) := by
  cases permitted with
  | opening silent =>
      rw [silent]
      exact .started nofun
  | subscribe serves requested => exact serves.shaped_concat shaped (.subscribe _)
  | unsubscribe serves requested subscribed => exact serves.shaped_concat shaped (.unsubscribe _)
  | beat serves agreed => exact serves.shaped_concat shaped .beat
  | closing serves =>
      rcases serves.exists_middle shaped with ⟨middle, split, ordinary⟩
      rw [split]
      exact .ended ordinary

/-- Where the rules were kept, the wire has the shape of a session. -/
theorem shaped_of_lawful (lawful : Lawful plan log) : Shaped plan (wire log) := by
  induction log using List.reverseRecOn with
  | nil => exact .silent
  | append_singleton others last ih =>
      have shaped := ih lawful.of_append
      cases last with
      | sent item =>
          rw [wire_append]
          exact shaped_of_permitted shaped (lawful others item [] rfl)
      | asked request => simpa [wire] using shaped
      | took request => simpa [wire] using shaped
      | read frame => simpa [wire] using shaped

end Shaped

end LedgerBoard.Session
