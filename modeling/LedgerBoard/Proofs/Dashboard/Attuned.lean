import LedgerBoard.Proofs.Dashboard.Changes
import LedgerBoard.Proofs.Session.Endings
import LedgerBoard.Proofs.Session.Running

/-!
# Two accounts of what is subscribed

An application and the session that it holds both keep account of what is subscribed. What the
application asks for waits in a queue until the session takes it, and until then their accounts
differ by what waits there. `Attuned` says that they differ by nothing else; it is kept by all that
either side does.
-/

namespace LedgerBoard

namespace Session

variable {plan : SessionPlan} {weather : Weather} {routes : Routes}

/-- The routes of a session after it has taken a request. -/
def Routes.after (routes : Routes) : Request → Routes
  | .subscribe subscription =>
      routes.filter (·.1 ≠ subscription.id) ++ [(subscription.id, subscription.topic)]
  | .unsubscribe id => routes.filter (·.1 ≠ id)
  | .disconnect => routes

/-- Dropping an id that is not subscribed changes nothing. -/
theorem filter_of_lookup_none {id : String} (absent : routes.lookup id = none) :
    routes.filter (·.1 ≠ id) = routes := by
  rw [List.filter_eq_self]
  intro route mem
  have other := List.lookup_eq_none_iff.mp absent route mem
  simpa using (bne_iff_ne.mp other).symm

/-- A session that serves requests does with its routes what a request says, unless sending
fails. -/
theorem turn_request (plan : SessionPlan) (weather : Weather) (routes : Routes)
    (beat : Option Duration) {request : Request} (stays : request ≠ .disconnect) :
    (turn plan weather (.request request) (.serving routes beat)).1 = .over ∨
      (turn plan weather (.request request) (.serving routes beat)).1 =
        .serving (routes.after request) beat := by
  have phase_sending : ∀ output next, (sending weather output next).1 = .over ∨
      (sending weather output next).1 = next := by
    intro output next
    rw [sending]
    split
    · exact .inl rfl
    · exact .inr rfl
  cases request with
  | disconnect => exact absurd rfl stays
  | subscribe subscription => exact phase_sending _ _
  | unsubscribe id =>
      simp only [turn, turnServing]
      split
      · exact phase_sending _ _
      · rename_i absent
        right
        rw [Routes.after, filter_of_lookup_none (Option.not_isSome_iff_eq_none.mp absent)]

/-- Only requests change the routes of a session. -/
theorem routes?_of_foreign {phase next : Phase} {input : Input} {outputs : List Output}
    (foreign : input.isForeign = true) (made : Turn plan weather phase input next outputs)
    (found : next.routes? = some routes) : phase.routes? = some routes := by
  cases made with
  | subscribe subscription => cases foreign
  | unsubscribe held => cases foreign
  | leave asked => cases found
  | fail routed => cases found
  | finish open_before closes unrouted => cases found
  | _ => exact found

end Session

/-- What is asked of a session waits for it, in order, unless it is over. -/
theorem RunningSession.foldl_ask (requests : List Request) (session : RunningSession) :
    requests.foldl (fun session request => session.ask request) session =
      if session.isOver then session
        else { session with waiting := session.waiting ++ requests } := by
  induction requests generalizing session with
  | nil => simp
  | cons request rest ih =>
      rw [List.foldl_cons, ih, ask]
      cases is_over : session.isOver with
      | true => simp [is_over]
      | false =>
          have still_open :
              isOver { session with waiting := session.waiting ++ [request] } = false := is_over
          simp [still_open]

namespace Dashboard

@[simp]
theorem isConnected_showBlock (dashboard : Dashboard) (arrival : ClockTime) (block : Block) :
    (dashboard.showBlock arrival block).1.isConnected = dashboard.isConnected := by
  rw [showBlock]
  split <;> rfl

@[simp]
theorem isConnected_showTransaction (dashboard : Dashboard) (arrival : ClockTime)
    (transaction : Transaction) :
    (dashboard.showTransaction arrival transaction).1.isConnected = dashboard.isConnected := by
  rw [showTransaction]
  split <;> rfl

end Dashboard

namespace App

/-- The subscriptions on a session that the node accepted. -/
def bothTopics : List Subscription := [⟨"sub-0", .blocks⟩, ⟨"sub-1", .transactions⟩]

def routesOf (subscriptions : List Subscription) : Session.Routes :=
  subscriptions.map fun subscription => (subscription.id, subscription.topic)

/-- The subscription that a handle asks for when it has asked for others before. -/
def nextAsked (asked : List Subscription) (topic : Topic) : Subscription :=
  ⟨Handle.subscriptionId (.ofNat asked.length), topic⟩

/-- What an application has asked of the session that it holds, unless it is just asking. -/
def askedFor (app : App) : List Subscription :=
  if app.dashboard.isConnected then bothTopics else []

theorem connected_of_askedFor {app : App} (some_asked : app.askedFor ≠ []) :
    app.dashboard.isConnected = true := by
  rw [askedFor] at some_asked
  split at some_asked
  · assumption
  · exact absurd rfl some_asked

/-- An application and the session that it holds know the same, up to what waits for the session,
once the application has asked for some subscriptions. -/
structure Attuned (asked : List Subscription) (app : App) (handle : Handle)
    (session : RunningSession) : Prop where
  next : handle.next = .ofNat asked.length
  stays : .disconnect ∉ session.waiting
  fresh : asked = [] → session.waiting = []
  connected : asked ≠ [] → app.dashboard.isConnected = true
  agreed : ∀ routes, session.phase.routes? = some routes →
    app.subscriptions = asked ∧
      session.waiting.foldl Session.Routes.after routes = routesOf asked

section Attuned

variable {asked : List Subscription} {app next : App} {handle : Handle} {session : RunningSession}

/-- A session that starts has been asked for nothing. -/
theorem attuned_start (subscriptions : app.subscriptions = []) (generation : Nat)
    (plan : SessionPlan) : Attuned [] app (.ofGeneration generation) (.start plan) where
  next := rfl
  stays := List.not_mem_nil
  fresh _ := rfl
  connected some_asked := absurd rfl some_asked
  agreed routes found := by
    cases found
    exact ⟨subscriptions, rfl⟩

/-- An application that keeps its subscriptions stays attuned to its session. -/
theorem Attuned.of_same (attuned : Attuned asked app handle session)
    (connected : asked ≠ [] → next.dashboard.isConnected = true)
    (subscriptions : next.subscriptions = app.subscriptions) :
    Attuned asked next handle session := by
  refine ⟨attuned.next, attuned.stays, attuned.fresh, connected, ?_⟩
  rw [subscriptions]
  exact attuned.agreed

/-- A handle numbers what it asks for by how often it was asked before. -/
theorem Attuned.asks (attuned : Attuned asked app handle session) (topic : Topic) :
    (handle.subscribe topic).1 = nextAsked asked topic := by
  rw [nextAsked, ← attuned.next]
  rfl

theorem filter_routesOf {id : String} (new : ∀ held ∈ asked, held.id ≠ id) :
    (routesOf asked).filter (·.1 ≠ id) = routesOf asked := by
  rw [List.filter_eq_self]
  intro route mem
  rcases List.mem_map.mp mem with ⟨held, held_mem, rfl⟩
  exact decide_eq_true (new held held_mem)

/-- The application asks for a topic under an id that is new. A session that is not over hears
it. -/
theorem Attuned.subscribe (attuned : Attuned asked app handle session)
    (connected : app.dashboard.isConnected = true) (held : app.handle = some handle)
    {accepts : Bool} (reaches : session.isOver = false → accepts = true) (topic : Topic)
    (new : ∀ held ∈ asked, held.id ≠ (nextAsked asked topic).id) :
    Attuned (asked ++ [nextAsked asked topic]) (app.subscribe accepts topic).1
      (handle.subscribe topic).2 (session.ask (.subscribe (nextAsked asked topic))) := by
  have still_connected : (app.subscribe accepts topic).1.dashboard.isConnected = true := by
    simpa using connected
  have next : (handle.subscribe topic).2.next =
      .ofNat (asked ++ [nextAsked asked topic]).length := by
    show handle.next + 1 = _
    rw [attuned.next, List.length_append, List.length_singleton, UInt32.ofNat_add]
    rfl
  have some_asked : asked ++ [nextAsked asked topic] ≠ [] := by simp
  rw [RunningSession.ask]
  cases is_over : session.isOver with
  | true =>
      refine ⟨next, attuned.stays, fun none_asked => absurd none_asked some_asked,
        fun _ => still_connected, ?_⟩
      intro routes found
      simp only [if_pos] at found
      rw [beq_iff_eq.mp is_over] at found
      cases found
  | false =>
      refine ⟨next, ?_, fun none_asked => absurd none_asked some_asked,
        fun _ => still_connected, ?_⟩
      · simpa using attuned.stays
      · intro routes found
        have before := attuned.agreed routes found
        refine ⟨?_, ?_⟩
        · simp only [App.subscribe, held]
          rw [if_pos (reaches is_over), before.1, attuned.asks]
        · show (session.waiting ++ [_]).foldl Session.Routes.after routes = _
          rw [List.foldl_append, before.2, List.foldl_cons, List.foldl_nil, Session.Routes.after,
            filter_routesOf new, routesOf, routesOf, List.map_append]
          rfl

/-- What comes from the node or the clock leaves the routes alone. -/
theorem Attuned.hear (attuned : Attuned asked app handle session) (weather : Session.Weather)
    (input : Session.Input) : Attuned asked app handle (session.hear weather input).1 := by
  rw [RunningSession.hear]
  split
  · rename_i foreign
    refine ⟨attuned.next, attuned.stays, attuned.fresh, attuned.connected, ?_⟩
    intro routes found
    exact attuned.agreed routes
      (Session.routes?_of_foreign foreign (Session.turn_spec session.plan weather input _) found)
  · exact attuned

/-- A session whose handle is held takes requests only. -/
theorem asked?_of_held : session.asked? true ≠ some .abandoned := by
  rw [RunningSession.asked?]
  split
  · cases session.waiting with
    | nil => simp
    | cons request rest => simp
  · simp

/-- A request leaves the queue when the session does what it says. It is none that ends the
session. -/
theorem Attuned.take (attuned : Attuned asked app handle session)
    (greeted : app.dashboard.isConnected = true →
      ¬(session.phase = .dialling ∨ session.phase = .greeting))
    (weather : Session.Weather) :
    Attuned asked app handle (session.take true weather).1 ∧
      ∀ input, session.asked? true = some input → input.asksEnd = false := by
  have taking := session.taking true weather
  generalize asks : session.asked? true = input at taking
  generalize session.take true weather = result at taking
  cases taking with
  | idle => exact ⟨attuned, nofun⟩
  | abandoned empty => exact absurd asks asked?_of_held
  | request waits =>
      rename_i request rest
      have some_asked : asked ≠ [] := by
        intro none_asked
        have nothing_waits := attuned.fresh none_asked
        rw [waits] at nothing_waits
        cases nothing_waits
      have connected := attuned.connected some_asked
      have among : .disconnect ∉ request :: rest := waits ▸ attuned.stays
      have stays : request ≠ .disconnect := fun same => among (same ▸ List.mem_cons_self)
      refine ⟨⟨attuned.next, fun mem => among (List.mem_cons_of_mem _ mem),
        fun none_asked => absurd none_asked some_asked, attuned.connected, ?_⟩, ?_⟩
      · intro routes found
        simp only [RunningSession.turn] at found
        cases phase : session.phase with
        | dialling => exact absurd (.inl phase) (greeted connected)
        | greeting => exact absurd (.inr phase) (greeted connected)
        | leaving =>
            rw [phase] at found
            cases found
        | «over» =>
            rw [phase] at found
            cases found
        | serving before beat =>
            have agreed := attuned.agreed before (by rw [phase]; rfl)
            rw [waits, List.foldl_cons] at agreed
            rw [phase] at found
            rcases Session.turn_request session.plan weather before beat stays with ends | serves
            · rw [ends] at found
              cases found
            · rw [serves] at found
              cases found
              exact agreed
      · intro input same
        cases same
        cases request with
        | disconnect => exact absurd rfl stays
        | _ => rfl

end Attuned

end App

end LedgerBoard
