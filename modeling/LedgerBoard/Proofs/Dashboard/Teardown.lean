import LedgerBoard.Proofs.Dashboard.Applied
import LedgerBoard.Proofs.Dashboard.Invariant

/-!
# How sessions are let go

An application asks its session for both topics when it hears that the node accepted it, and asks it
to end before it gives the session up, unless the session has said itself that it is over. So what
reaches a session is always the front of one sequence of requests. Of all sessions that were started
only the one that is held can be running without having been asked to end.
-/

namespace LedgerBoard

/-- What an order asks of the session of a generation. -/
def Order.asks? (generation : Nat) : Order → Option Request
  | .start _ => none
  | .request asked wish => if asked = generation then some wish else none

/-- All that the session of a generation is asked by orders. -/
def requestsTo (generation : Nat) (orders : List Order) : List Request :=
  orders.filterMap (Order.asks? generation)

@[simp]
theorem requestsTo_append (generation : Nat) (front back : List Order) :
    requestsTo generation (front ++ back) =
      requestsTo generation front ++ requestsTo generation back :=
  List.filterMap_append

/-- Requests reach the session that they are made of. -/
theorem requestsTo_map_request (generation asked : Nat) (requests : List Request) :
    requestsTo generation (requests.map (Order.request asked)) =
      if asked = generation then requests else [] := by
  rw [requestsTo, List.filterMap_map]
  split
  · rename_i same
    simp [Order.asks?, same]
  · rename_i other
    simp [Function.comp_def, Order.asks?, other]

theorem issued_map_request (generation : Nat) (requests : List Request) :
    issued (requests.map (Order.request generation)) = [] :=
  issued_requests (fun _ => generation) id requests

namespace App

/-- The events that the application applies when it takes inputs in a row. -/
def applied : List (Nat × Input) → App → List Envelope
  | [], _ => []
  | (now, input) :: rest, app => (app.applied? input).toList ++ applied rest (app.step now input).1

theorem applied_concat (inputs : List (Nat × Input)) (timed : Nat × Input) (app : App) :
    applied (inputs ++ [timed]) app =
      applied inputs app ++ ((run inputs app).1.applied? timed.2).toList := by
  induction inputs generalizing app with
  | nil => simp [applied, run]
  | cons first rest ih => simp [applied, run, ih]

/-- Whether an input says that the node accepted the session of a generation. -/
def Input.welcomes (generation : Nat) : Input → Bool
  | .event ⟨sender, .connected _⟩ _ _ => sender == generation
  | _ => false

/-- How often inputs say that the node accepted the session of a generation. -/
def welcomesOf (generation : Nat) (inputs : List (Nat × Input)) : Nat :=
  inputs.countP fun timed => timed.2.welcomes generation

/-- What a session is asked that the node accepts and that the user ends. -/
def wholeCourse : List Request :=
  [.subscribe ⟨"sub-0", .blocks⟩, .subscribe ⟨"sub-1", .transactions⟩, .unsubscribe "sub-0",
    .unsubscribe "sub-1", .disconnect]

/-- When the application hears that its session was accepted, it learns truly for each topic whether
its session still takes the request for it. A session takes as many requests as `patience` says, and
then it is gone. -/
def Truthful (patience : Nat → Nat) (start : App) (inputs : List (Nat × Input)) : Prop :=
  ∀ front back now generation server arrival accepts,
    inputs = front ++ (now, .event ⟨generation, .connected server⟩ arrival accepts) :: back →
    (run front start).1.generation? = some generation →
    ∀ topic, accepts topic = true ↔
      (requestsTo generation (run front start).2).length + Topic.all.idxOf topic <
        patience generation

theorem nextSubscriptions_of_new {handle : Handle} (new : handle.next = 0) :
    nextSubscriptions handle = bothTopics := by
  rw [nextSubscriptions, new]
  decide +kernel

/-- Of the requests for both topics the first count, as many as the session takes. -/
theorem filter_bothTopics {accepts : Topic → Bool} {patience : Nat}
    (told : ∀ topic, accepts topic = true ↔ Topic.all.idxOf topic < patience) :
    bothTopics.filter (accepts ·.topic) = bothTopics.take patience := by
  have blocks : accepts .blocks = decide (0 < patience) := by
    rw [Bool.eq_iff_iff, told, decide_eq_true_iff]
    rfl
  have transactions : accepts .transactions = decide (1 < patience) := by
    rw [Bool.eq_iff_iff, told, decide_eq_true_iff]
    rfl
  match patience with
  | 0 => simp [bothTopics, blocks, transactions]
  | 1 => simp [bothTopics, blocks, transactions]
  | limit + 2 => simp [bothTopics, blocks, transactions]

/-- What the session that is held was asked so far: nothing at first, and both topics after the
welcome. -/
inductive Engaged (patience welcomes : Nat) (app : App) (handle : Handle) :
    List Request → Prop where
  | waiting (new : handle.next = 0) (none_held : app.subscriptions = []) :
      Engaged patience welcomes app handle []
  | welcomed (heard : 0 < welcomes) (connected : app.dashboard.isConnected = true)
      (kept : app.subscriptions = bothTopics.take patience) :
      Engaged patience welcomes app handle (bothTopics.map .subscribe)

/-- What a session was asked that was given up. -/
inductive Dismissed (patience : Nat) (closed : Prop) : List Request → Prop where
  | unaccepted : Dismissed patience closed [.disconnect]
  /-- The session was asked for both topics. Those are dropped that it still took the requests
  for. -/
  | accepted :
      Dismissed patience closed
        (bothTopics.map .subscribe ++
          ((bothTopics.take patience).map (fun (held : Subscription) => .unsubscribe held.id) ++
            [.disconnect]))
  | lost {requests : List Request} (said : closed)
      (front : requests <+: bothTopics.map .subscribe) :
      Dismissed patience closed requests

section Requests

variable {patience welcomes more_welcomes : Nat} {closed later_closed : Prop} {app next : App}
  {handle : Handle} {requests : List Request}

theorem Engaged.of_same (engaged : Engaged patience welcomes app handle requests)
    (heard : welcomes ≤ more_welcomes) (subscriptions : next.subscriptions = app.subscriptions)
    (connected : next.dashboard.isConnected = app.dashboard.isConnected) :
    Engaged patience more_welcomes next handle requests := by
  cases engaged with
  | waiting new none_held => exact .waiting new (subscriptions.trans none_held)
  | welcomed welcome was_connected kept =>
      refine .welcomed (Nat.lt_of_lt_of_le welcome heard) (connected.trans was_connected) ?_
      rwa [subscriptions]

/-- The session that is held was asked for both topics at most. -/
theorem Engaged.is_front (engaged : Engaged patience welcomes app handle requests) :
    requests <+: bothTopics.map .subscribe := by
  cases engaged with
  | waiting new none_held => exact List.nil_prefix
  | welcomed heard connected kept => exact List.prefix_refl _

/-- Without a connection nothing was asked of the session yet. -/
theorem Engaged.eq_nil (engaged : Engaged patience welcomes app handle requests)
    (not_connected : app.dashboard.isConnected = false) : requests = [] := by
  cases engaged with
  | waiting new none_held => rfl
  | welcomed heard connected kept =>
      rw [connected] at not_connected
      cases not_connected

/-- The user ends the session that is held. -/
theorem Engaged.dismissed (engaged : Engaged patience welcomes app handle requests) :
    Dismissed patience closed
      (requests ++
        (app.subscriptions.map (fun (held : Subscription) => Request.unsubscribe held.id) ++
        [.disconnect])) := by
  cases engaged with
  | waiting new none_held =>
      rw [none_held]
      exact .unaccepted
  | welcomed heard connected kept =>
      rw [kept]
      exact .accepted

theorem Dismissed.mono (dismissed : Dismissed patience closed requests)
    (later : closed → later_closed) :
    Dismissed patience later_closed requests := by
  cases dismissed with
  | unaccepted => exact .unaccepted
  | accepted => exact .accepted
  | lost said front => exact .lost (later said) front

theorem prefix_of_take {whole : List Request} (front : requests <+: whole) (limit : Nat) :
    requests.take limit <+: whole :=
  List.IsPrefix.trans ⟨requests.drop limit, List.take_append_drop limit requests⟩ front

theorem prefix_wholeCourse (front : requests <+: bothTopics.map .subscribe) :
    requests <+: wholeCourse :=
  front.trans ⟨[.unsubscribe "sub-0", .unsubscribe "sub-1", .disconnect], rfl⟩

theorem Engaged.prefix_take (engaged : Engaged patience welcomes app handle requests) :
    requests.take patience <+: wholeCourse :=
  prefix_of_take (prefix_wholeCourse engaged.is_front) patience

/-- What reaches a session is the front of the whole course, or that it shall end and nothing
else. -/
theorem Dismissed.prefix_take (dismissed : Dismissed patience closed requests) :
    requests.take patience <+: wholeCourse ∨ requests.take patience = [.disconnect] := by
  cases dismissed with
  | unaccepted =>
      cases patience with
      | zero => exact .inl List.nil_prefix
      | succ limit => exact .inr (List.take_succ_cons.trans (by rw [List.take_nil]))
  | accepted =>
      left
      rcases Nat.lt_or_ge patience bothTopics.length with gone | stays
      · have within : patience ≤ (bothTopics.map Request.subscribe).length := by
          rw [List.length_map]
          exact Nat.le_of_lt gone
        rw [List.take_append_of_le_length within]
        exact prefix_of_take (prefix_wholeCourse (List.prefix_refl _)) patience
      · rw [List.take_of_length_le stays]
        exact prefix_of_take (List.prefix_refl wholeCourse) patience
  | lost said front => exact .inl (prefix_of_take (prefix_wholeCourse front) patience)

/-- A session that was given up was asked to end, unless it has said that it is over. -/
theorem Dismissed.last (dismissed : Dismissed patience closed requests) :
    requests.getLast? = some .disconnect ∨ closed := by
  cases dismissed with
  | unaccepted => exact .inl rfl
  | accepted => exact .inl (by rw [← List.append_assoc, List.getLast?_concat])
  | lost said front => exact .inr said

end Requests

/-- What every session was asked, after orders and with what the application has applied. -/
structure LetGo (patience welcomes : Nat → Nat) (applied : List Envelope) (app : App)
    (orders : List Order) : Prop where
  held : ∀ handle, app.handle = some handle →
    Engaged (patience handle.generation) (welcomes handle.generation) app handle
      (requestsTo handle.generation orders)
  released : ∀ generation ∈ issued orders, app.generation? ≠ some generation →
    Dismissed (patience generation) (∃ reason, ⟨generation, .closed reason⟩ ∈ applied)
      (requestsTo generation orders)
  unborn : ∀ generation, app.started < generation → requestsTo generation orders = []

section Steps

variable {patience welcomes more_welcomes : Nat → Nat} {front back : List Envelope} {app next : App}
  {orders more : List Order}

theorem letGo_initial (plan : SessionPlan) (cap : Option Nat) :
    LetGo patience (fun _ => 0) [] (initial plan cap) [] where
  held handle held := by cases held
  released generation born := by cases born
  unborn generation _ := rfl

/-- The requests of sessions that were given up before stay what they are. -/
theorem LetGo.still_released (letGo : LetGo patience welcomes front app orders) {generation : Nat}
    (born : generation ∈ issued orders) (other : app.generation? ≠ some generation)
    (unasked : requestsTo generation more = []) :
    Dismissed (patience generation) (∃ reason, ⟨generation, .closed reason⟩ ∈ front ++ back)
      (requestsTo generation (orders ++ more)) := by
  rw [requestsTo_append, unasked, List.append_nil]
  apply (letGo.released generation born other).mono
  rintro ⟨reason, said⟩
  exact ⟨reason, List.mem_append_left _ said⟩

/-- What is asked of no session leaves all as they were. -/
theorem LetGo.of_same (letGo : LetGo patience welcomes front app orders)
    (heard : ∀ generation, welcomes generation ≤ more_welcomes generation)
    (held : next.handle = app.handle) (subscriptions : next.subscriptions = app.subscriptions)
    (connected : next.dashboard.isConnected = app.dashboard.isConnected)
    (started : next.started = app.started) :
    LetGo patience more_welcomes (front ++ back) next (orders ++ []) where
  held handle live := by
    rw [List.append_nil]
    exact (letGo.held handle (held ▸ live)).of_same (heard _) subscriptions connected
  released generation born other := by
    rw [List.append_nil] at born
    refine letGo.still_released born ?_ rfl
    rwa [generation?, ← held]
  unborn generation later := by
    rw [List.append_nil]
    exact letGo.unborn generation (started ▸ later)

/-- A session starts in place of one that the node has not accepted. -/
theorem LetGo.of_begun (letGo : LetGo patience welcomes front app orders)
    (newest : ∀ handle, app.handle = some handle → handle.generation = app.started)
    (free : app.dashboard.isConnected = false)
    (begun : next.handle = some (.ofGeneration (app.started + 1)))
    (subscriptions : next.subscriptions = []) (started : next.started = app.started + 1) :
    LetGo patience more_welcomes (front ++ back) next
      (orders ++ (app.generation?.toList.map (fun old => Order.request old .disconnect) ++
        [.start (app.started + 1)])) := by
  have warned : ∀ generation,
      requestsTo generation
        (app.generation?.toList.map (fun old => Order.request old .disconnect) ++
        [.start (app.started + 1)]) =
          if app.generation? = some generation then [.disconnect] else [] := by
    intro generation
    cases live : app.generation? with
    | none => simp [requestsTo, Order.asks?]
    | some old => by_cases same : old = generation <;> simp [requestsTo, Order.asks?, same]
  have given_out : ∀ generation, app.generation? = some generation → generation = app.started := by
    intro generation live
    rcases Option.map_eq_some_iff.mp live with ⟨handle, held, rfl⟩
    exact newest handle held
  have unwarned : ∀ generation, app.started < generation → app.generation? ≠ some generation := by
    intro generation later live
    have same := given_out generation live
    omega
  refine ⟨?_, ?_, ?_⟩
  · intro handle live
    cases begun.symm.trans live
    have born : app.started < (Handle.ofGeneration (app.started + 1)).generation :=
      Nat.lt_succ_self _
    rw [requestsTo_append, letGo.unborn _ born, warned, if_neg (unwarned _ born)]
    exact .waiting rfl subscriptions
  · intro generation born other
    rw [issued_append, issued_append, issued_requests (fun old : Nat => old) (fun _ => .disconnect),
      List.nil_append, List.mem_append] at born
    have known : generation ∈ issued orders := by
      refine born.resolve_right ?_
      intro new
      rw [List.mem_singleton.mp new] at other
      exact other (generation?_of_held begun)
    by_cases live : app.generation? = some generation
    · rcases Option.map_eq_some_iff.mp live with ⟨handle, held, rfl⟩
      rw [requestsTo_append, (letGo.held handle held).eq_nil free, warned, if_pos live]
      exact .unaccepted
    · exact letGo.still_released known live (by rw [warned, if_neg live])
  · intro generation later
    rw [started] at later
    have later_before : app.started < generation := by omega
    rw [requestsTo_append, letGo.unborn _ later_before, warned, if_neg (unwarned _ later_before)]
    rfl

/-- The user ends the session that is held, if there is one. -/
theorem LetGo.of_left (letGo : LetGo patience welcomes front app orders)
    (newest : ∀ handle, app.handle = some handle → handle.generation = app.started)
    (released : next.handle = none) (started : next.started = app.started) :
    LetGo patience more_welcomes (front ++ back) next
      (orders ++ app.handle.elim [] (farewells app.subscriptions)) := by
  cases held : app.handle with
  | none =>
      refine ⟨?_, ?_, ?_⟩
      · intro handle live
        cases released.symm.trans live
      · intro generation born other
        rw [Option.elim_none, List.append_nil] at born
        exact letGo.still_released born (by simp [generation?, held]) rfl
      · intro generation later
        rw [Option.elim_none, List.append_nil]
        exact letGo.unborn generation (started ▸ later)
  | some handle =>
      have parting := fun generation => requestsTo_map_request generation handle.generation
        (app.subscriptions.map (fun (held : Subscription) => Request.unsubscribe held.id) ++
          [.disconnect])
      rw [Option.elim_some]
      refine ⟨?_, ?_, ?_⟩
      · intro live same
        cases released.symm.trans same
      · intro generation born other
        rw [issued_append, farewells, issued_map_request, List.append_nil] at born
        by_cases same : handle.generation = generation
        · cases same
          rw [requestsTo_append, farewells, parting, if_pos rfl]
          exact (letGo.held handle held).dismissed
        · refine letGo.still_released born ?_ ?_
          · rw [generation?_of_held held]
            exact fun live => same (Option.some.inj live)
          · rw [farewells, parting, if_neg same]
      · intro generation later
        rw [started] at later
        have other : handle.generation ≠ generation := by
          have given_out := newest handle held
          omega
        rw [requestsTo_append, letGo.unborn generation later, farewells, parting, if_neg other]
        rfl

/-- The application hears for the first time that its session was accepted. -/
theorem LetGo.of_welcomed (letGo : LetGo patience welcomes front app orders) {handle : Handle}
    {accepts : Topic → Bool} (newest : handle.generation = app.started)
    (held : app.handle = some handle) (first : welcomes handle.generation = 0)
    (heard : 0 < more_welcomes handle.generation)
    (told : ∀ topic, accepts topic = true ↔
      (requestsTo handle.generation orders).length + Topic.all.idxOf topic <
        patience handle.generation)
    (notice : Option Notice) :
    LetGo patience more_welcomes (front ++ back)
      { app with
        dashboard := app.dashboard.markConnected
        handle := some { handle with next := handle.next + 1 + 1 }
        subscriptions := app.subscriptions ++ (nextSubscriptions handle).filter (accepts ·.topic)
        notice }
      (orders ++ (nextSubscriptions handle).map fun subscription =>
        .request handle.generation (.subscribe subscription)) := by
  have engaged := letGo.held handle held
  generalize before : requestsTo handle.generation orders = requests at engaged told
  cases engaged with
  | welcomed again connected kept => omega
  | waiting new none_held =>
      have requests : ((nextSubscriptions handle).map fun subscription =>
          Order.request handle.generation (.subscribe subscription)) =
          (bothTopics.map Request.subscribe).map (Order.request handle.generation) := by
        rw [nextSubscriptions_of_new new]
        rfl
      have asks := fun generation =>
        requestsTo_map_request generation handle.generation (bothTopics.map .subscribe)
      rw [requests]
      refine ⟨?_, ?_, ?_⟩
      · intro live same
        cases same
        rw [requestsTo_append, before, asks, if_pos rfl]
        refine .welcomed heard rfl ?_
        show app.subscriptions ++ (nextSubscriptions handle).filter (accepts ·.topic) = _
        rw [none_held, nextSubscriptions_of_new new, List.nil_append]
        exact filter_bothTopics fun topic => (told topic).trans (by simp)
      · intro generation born other
        rw [issued_append, issued_map_request, List.append_nil] at born
        have another : handle.generation ≠ generation := fun same => other (congrArg some same)
        refine letGo.still_released born ?_ ?_
        · rw [generation?_of_held held]
          exact fun live => another (Option.some.inj live)
        · rw [asks, if_neg another]
      · intro generation later
        have other : handle.generation ≠ generation := by
          simp only at later
          omega
        rw [requestsTo_append, letGo.unborn generation later, asks, if_neg other]
        rfl

/-- The session that is held says that it is over. -/
theorem LetGo.of_lost (letGo : LetGo patience welcomes front app orders) {handle : Handle}
    (held : app.handle = some handle)
    (told : ∃ reason, ⟨handle.generation, .closed reason⟩ ∈ back) (released : next.handle = none)
    (started : next.started = app.started) :
    LetGo patience more_welcomes (front ++ back) next (orders ++ []) where
  held live same := by cases released.symm.trans same
  released generation born other := by
    rw [List.append_nil] at born
    by_cases same : handle.generation = generation
    · cases same
      rw [List.append_nil]
      rcases told with ⟨reason, said⟩
      exact .lost ⟨reason, List.mem_append_right _ said⟩ (letGo.held handle held).is_front
    · refine letGo.still_released born ?_ rfl
      rw [generation?_of_held held]
      exact fun live => same (Option.some.inj live)
  unborn generation later := by
    rw [List.append_nil]
    exact letGo.unborn generation (started ▸ later)

/-- Every change lets sessions go in order. -/
theorem letGo_change (letGo : LetGo patience welcomes front app orders)
    (newest : ∀ handle, app.handle = some handle → handle.generation = app.started) {input : Input}
    (change : Change app input next more)
    (count : ∀ generation, more_welcomes generation =
      welcomes generation + if input.welcomes generation then 1 else 0)
    (once : ∀ generation, more_welcomes generation ≤ 1)
    (told : ∀ handle server arrival accepts, app.handle = some handle →
      input = .event ⟨handle.generation, .connected server⟩ arrival accepts →
      ∀ topic, accepts topic = true ↔
        (requestsTo handle.generation orders).length + Topic.all.idxOf topic <
          patience handle.generation) :
    LetGo patience more_welcomes (front ++ (app.applied? input).toList) next (orders ++ more) := by
  have heard : ∀ generation, welcomes generation ≤ more_welcomes generation := by
    intro generation
    rw [count]
    exact Nat.le_add_right _ _
  cases change with
  | idle notice ticks quits => exact letGo.of_same heard rfl rfl rfl rfl
  | begun notice free => exact letGo.of_begun newest free rfl rfl rfl
  | left notice => exact letGo.of_left newest rfl rfl
  | welcomed notice held =>
      rename_i handle server arrival accepts
      have one_more := count handle.generation
      have at_most_one := once handle.generation
      simp only [Input.welcomes, beq_self_eq_true, if_true] at one_more
      exact letGo.of_welcomed (newest handle held) held (by omega) (by omega)
        (told handle server arrival accepts held rfl) notice
  | block held => exact letGo.of_same heard rfl rfl (Dashboard.isConnected_showBlock ..) rfl
  | transaction held =>
      exact letGo.of_same heard rfl rfl (Dashboard.isConnected_showTransaction ..) rfl
  | lost notice held =>
      rename_i handle reason arrival accepts
      refine letGo.of_lost held ⟨reason, ?_⟩ rfl rfl
      rw [Option.mem_toList, applied?, if_pos (generation?_of_held held)]

end Steps

section Run

variable (plan : SessionPlan) (cap : Option Nat) {patience : Nat → Nat}
  {inputs : List (Nat × Input)}

theorem letGo_run (once : ∀ generation, welcomesOf generation inputs ≤ 1)
    (truthful : Truthful patience (initial plan cap) inputs) :
    LetGo patience (fun generation => welcomesOf generation inputs)
      (applied inputs (initial plan cap))
      ((initial plan cap).run inputs).1 ((initial plan cap).run inputs).2 := by
  induction inputs using List.reverseRecOn with
  | nil => exact letGo_initial plan cap
  | append_singleton front timed ih =>
      rcases timed with ⟨now, input⟩
      have count : ∀ generation, welcomesOf generation (front ++ [(now, input)]) =
          welcomesOf generation front + if input.welcomes generation then 1 else 0 := by
        intro generation
        rw [welcomesOf, List.countP_append, List.countP_singleton]
        rfl
      have before := ih
        (fun generation => Nat.le_trans (by rw [count]; exact Nat.le_add_right _ _)
          (once generation))
        (fun first rest now generation server arrival accepts split => truthful first
          (rest ++ [_]) now generation server arrival accepts
          (by rw [split, List.append_assoc, List.cons_append]))
      rw [run_concat, applied_concat]
      refine letGo_change before ?_ (change_step _ now input) count once ?_
      · exact (tallied_run plan cap front).newest
      · rintro handle server arrival accepts held rfl
        exact truthful front [] now handle.generation server arrival accepts rfl
          (generation?_of_held held)

/-- Whatever the user does and whichever events come, in whatever order, as long as no session is
said to be accepted twice: what reaches a session is the front of the whole course, or just that it
shall end. Every session that was started and is not held was asked to end, as the last thing that
it was asked, or has said that it is over and the application has applied that. So there is never
more than one session that nobody has asked to end and that has not said that it is over. -/
theorem sessions_are_let_go_in_order (once : ∀ generation, welcomesOf generation inputs ≤ 1)
    (truthful : Truthful patience (initial plan cap) inputs) :
    let app := ((initial plan cap).run inputs).1
    let orders := ((initial plan cap).run inputs).2
    let let_go := fun generation => (requestsTo generation orders).getLast? = some .disconnect ∨
      ∃ reason, ⟨generation, .closed reason⟩ ∈ applied inputs (initial plan cap)
    (∀ generation ∈ issued orders,
      let reached := (requestsTo generation orders).take (patience generation)
      reached <+: [.subscribe ⟨"sub-0", .blocks⟩, .subscribe ⟨"sub-1", .transactions⟩,
        .unsubscribe "sub-0", .unsubscribe "sub-1", .disconnect] ∨ reached = [.disconnect]) ∧
    (∀ generation ∈ issued orders, app.generation? ≠ some generation → let_go generation) ∧
    ∀ left ∈ issued orders, ∀ right ∈ issued orders, ¬let_go left → ¬let_go right →
    left = right := by
  intro app orders let_go
  have letGo := letGo_run plan cap once truthful
  have released : ∀ generation ∈ issued orders, app.generation? ≠ some generation →
      let_go generation :=
    fun generation born other => (letGo.released generation born other).last
  refine ⟨?_, released, ?_⟩
  · intro generation born
    by_cases live : app.generation? = some generation
    · rcases Option.map_eq_some_iff.mp live with ⟨handle, held, rfl⟩
      exact .inl (letGo.held handle held).prefix_take
    · exact (letGo.released generation born live).prefix_take
  · intro left left_born right right_born left_runs right_runs
    have left_held := Classical.not_not.mp (mt (released left left_born) left_runs)
    have right_held := Classical.not_not.mp (mt (released right right_born) right_runs)
    exact Option.some.inj (left_held.symm.trans right_held)

end Run

/-- One session gets the whole course, the next one is replaced before it is accepted, and the last
one fails. All are let go, and the second one had already gone when it was asked to end. -/
theorem sessions_are_let_go_in_order_of_three :
    let start := initial ⟨"ws://node/ws", .ofParts 10 0⟩ none
    let inputs : List (Nat × Input) :=
      [(0, .press ⟨.char 'c', false⟩), (1, .event ⟨1, .connected none⟩ ⟨1, 2, 3⟩ fun _ => true),
        (2, .press ⟨.char 'd', false⟩), (3, .act .connect), (4, .act .connect),
        (5, .event ⟨3, .closed (some "session has ended")⟩ ⟨1, 2, 4⟩ fun _ => false)]
    let patience := fun generation => if generation = 1 then 5 else 0
    let orders := (start.run inputs).2
    let let_go := fun generation => (requestsTo generation orders).getLast? = some .disconnect ∨
      ∃ reason, ⟨generation, .closed reason⟩ ∈ applied inputs start
    (∀ generation, welcomesOf generation inputs ≤ 1) ∧ Truthful patience start inputs ∧
      issued orders = [1, 2, 3] ∧ (start.run inputs).1.generation? = none ∧
      (requestsTo 1 orders).take (patience 1) = wholeCourse ∧ requestsTo 2 orders = [.disconnect] ∧
      (requestsTo 2 orders).take (patience 2) = [] ∧ requestsTo 3 orders = [] ∧
      let_go 1 ∧ let_go 2 ∧ let_go 3 := by
  intro start inputs patience orders let_go
  have once : ∀ generation, welcomesOf generation inputs ≤ 1 := by
    intro generation
    by_cases first : generation = 1
    · rw [first]
      decide
    · simp [welcomesOf, inputs, Input.welcomes, Ne.symm first]
  have truthful : Truthful patience start inputs := by
    intro front back now generation server arrival accepts split _
    rcases front with _ | ⟨first, _ | ⟨second, rest⟩⟩
    · simp [inputs] at split
    · simp only [inputs, List.cons_append, List.nil_append, List.cons.injEq, Prod.mk.injEq,
        Input.event.injEq, Envelope.mk.injEq, SessionEvent.connected.injEq] at split
      rcases split with ⟨rfl, ⟨rfl, ⟨rfl, rfl⟩, rfl, rfl⟩, -⟩
      intro topic
      cases topic <;> decide +kernel
    · have among :
          (now, Input.event ⟨generation, .connected server⟩ arrival accepts) ∈ inputs.drop 2 := by
        simp only [inputs, List.cons_append, List.cons.injEq] at split
        simp [inputs, split.2.2]
      simp [inputs] at among
  have issued_eq : issued orders = [1, 2, 3] := by decide
  have released : (start.run inputs).1.generation? = none := by decide
  have let_go_all := (sessions_are_let_go_in_order _ none once truthful).2.1
  refine ⟨once, truthful, issued_eq, released, by decide +kernel, by decide, by decide, by decide,
    ?_, ?_, ?_⟩
  · exact let_go_all 1 (by decide) (by decide)
  · exact let_go_all 2 (by decide) (by decide)
  · exact let_go_all 3 (by decide) (by decide)

end App

end LedgerBoard
