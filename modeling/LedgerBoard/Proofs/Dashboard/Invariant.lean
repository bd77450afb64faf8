import LedgerBoard.Proofs.Dashboard.Changes
import LedgerBoard.Proofs.Dashboard.Tables
import LedgerBoard.Proofs.Session.Numbering

/-!
# What always holds of an application

The dashboard, the session that is held, its subscriptions and the number of sessions started so far
are changed by many inputs, also by events that come twice, out of order, or from other sessions.
`Displayed` says what always holds of the first part and `Tallied` of the second, which is compared
with all that was ordered so far. Each is carried over one `Change` and from there over whole runs.
-/

namespace LedgerBoard

/-- Whether an order asks the session of a generation for a subscription. -/
def Order.subscribes (generation : Nat) : Order → Bool
  | .request asked (.subscribe _) => asked == generation
  | _ => false

/-- For how many subscriptions the session of a generation was asked. -/
def asksOf (generation : Nat) (orders : List Order) : Nat :=
  orders.countP (Order.subscribes generation)

@[simp]
theorem asksOf_append (generation : Nat) (front back : List Order) :
    asksOf generation (front ++ back) = asksOf generation front + asksOf generation back :=
  List.countP_append

/-- The topic of the subscription with a number, if a handle asks for both topics in turn. -/
def Topic.inTurn (number : Nat) : Topic :=
  if number % 2 = 0 then .blocks else .transactions

/-- The subscription with a number. -/
def Handle.numbered (number : Nat) : Subscription :=
  ⟨subscriptionId (.ofNat number), .inTurn number⟩

theorem Handle.numbered_eq {number : Nat} (fits : number < 2 ^ 32) :
    numbered number = ⟨"sub-" ++ toString number, .inTurn number⟩ := by
  rw [numbered, subscriptionId_ofNat fits]

namespace RowList

/-- A list has a cap, and no more rows than it allows. -/
structure Fits (cap : Option Nat) (list : RowList) : Prop where
  cap_eq : list.cap = cap.filter (0 < ·)
  length_le : ∀ limit, list.cap = some limit → list.rows.length ≤ limit

theorem fits_clear {cap : Option Nat} {list : RowList} (fits : list.Fits cap) :
    list.clear.Fits cap where
  cap_eq := fits.cap_eq
  length_le limit _ := Nat.zero_le limit

/-- A table does not outgrow its cap when a row is added. -/
theorem fits_push {cap : Option Nat} {list : RowList} (fits : list.Fits cap) (row : Row) :
    (list.push row).Fits cap where
  cap_eq := fits.cap_eq
  length_le limit capped := by
    have capped_before : list.cap = some limit := capped
    have positive : 0 < limit := by
      have filtered := fits.cap_eq.symm.trans capped_before
      simpa using Option.mem_filter_iff.mp (Option.mem_def.mpr filtered) |>.2
    simp only [push, capped_before, Option.elim_some, makeRoom_eq_drop, List.length_append,
      List.length_drop, List.length_singleton]
    omega

end RowList

namespace App

/-- What the dashboard of an application shows goes with the session that it holds. -/
structure Displayed (cap : Option Nat) (app : App) : Prop where
  held : app.dashboard.isConnected = true → app.handle.isSome = true
  subscribed : app.subscriptions ≠ [] → app.dashboard.isConnected = true
  empty : app.dashboard.isConnected = false → ∀ topic, (app.dashboard.table topic).rows = []
  fits : ∀ topic, (app.dashboard.table topic).Fits cap

section Displayed

variable {cap : Option Nat} {app next : App} {input : Input} {orders : List Order}

theorem displayed_initial (plan : SessionPlan) (cap : Option Nat) :
    Displayed cap (initial plan cap) where
  held connected := by cases connected
  subscribed some_held := absurd rfl some_held
  empty _ topic := by cases topic <;> rfl
  fits topic := by
    cases topic with
    | blocks => exact ⟨rfl, fun limit _ => Nat.zero_le limit⟩
    | transactions => exact ⟨rfl, fun limit _ => Nat.zero_le limit⟩

theorem fits_enter {dashboard : Dashboard} (fits : ∀ topic, (dashboard.table topic).Fits cap)
    (connection : Connection) (topic : Topic) :
    ((dashboard.enter connection).table topic).Fits cap := by
  cases topic with
  | blocks => exact RowList.fits_clear (fits .blocks)
  | transactions => exact RowList.fits_clear (fits .transactions)

/-- A dashboard without a session has empty tables, whatever it showed before. -/
theorem Displayed.of_released (displayed : Displayed cap app)
    (subscriptions : next.subscriptions = [])
    (dashboard : next.dashboard = app.dashboard.markDisconnected) : Displayed cap next where
  held connected := by
    rw [dashboard] at connected
    cases connected
  subscribed some_held := absurd subscriptions some_held
  empty _ topic := by
    rw [dashboard]
    cases topic <;> rfl
  fits topic := by
    rw [dashboard]
    exact fits_enter displayed.fits _ topic

/-- Rows may be added while there is a session. -/
theorem Displayed.of_more (displayed : Displayed cap app)
    (connected : app.dashboard.isConnected = true) {dashboard : Dashboard}
    (connection : dashboard.connection = app.dashboard.connection)
    (fits : ∀ topic, (dashboard.table topic).Fits cap) : Displayed cap { app with dashboard } := by
  have still : dashboard.isConnected = true := by rwa [Dashboard.isConnected, connection]
  refine ⟨fun _ => displayed.held connected, fun _ => still, ?_, fits⟩
  intro not_connected
  exact absurd still (Bool.eq_false_iff.mp not_connected)

/-- Every change keeps what the dashboard shows with the session that is held. -/
theorem displayed_change (displayed : Displayed cap app) (change : Change app input next orders) :
    Displayed cap next := by
  cases change with
  | idle notice ticks quits =>
      exact ⟨displayed.held, displayed.subscribed, displayed.empty, displayed.fits⟩
  | begun notice free =>
      exact ⟨fun _ => rfl, fun some_held => absurd rfl some_held, displayed.empty, displayed.fits⟩
  | left notice => exact displayed.of_released rfl rfl
  | welcomed notice held =>
      refine ⟨fun _ => rfl, fun _ => rfl, ?_, fits_enter displayed.fits .connected⟩
      intro not_connected
      cases not_connected
  | block held =>
      rename_i handle block arrival accepts
      cases connected : app.dashboard.isConnected with
      | false => simpa [Dashboard.showBlock, connected] using displayed
      | true =>
          simp only [Dashboard.showBlock, connected, if_true]
          refine displayed.of_more connected rfl ?_
          intro topic
          cases topic with
          | blocks => exact RowList.fits_push (displayed.fits .blocks) _
          | transactions => exact displayed.fits .transactions
  | transaction held =>
      rename_i handle transaction arrival accepts
      cases connected : app.dashboard.isConnected with
      | false => simpa [Dashboard.showTransaction, connected] using displayed
      | true =>
          simp only [Dashboard.showTransaction, connected, if_true]
          refine displayed.of_more connected rfl ?_
          intro topic
          cases topic with
          | blocks => exact displayed.fits .blocks
          | transactions => exact RowList.fits_push (displayed.fits .transactions) _
  | lost notice held => exact displayed.of_released rfl rfl

end Displayed

/-- The subscriptions of a handle go with all that was asked of its session, if that always took
requests. -/
structure Numbered (stays_open : Prop) (orders : List Order) (handle : Handle)
    (subscriptions : List Subscription) : Prop where
  next : handle.next = .ofNat (asksOf handle.generation orders)
  even : asksOf handle.generation orders % 2 = 0
  all : stays_open →
    subscriptions = (List.range (asksOf handle.generation orders)).map Handle.numbered

/-- The sessions of an application go with the orders so far. Of which sessions it is assumed that
they always took requests is left to `StayOpen`. -/
structure Tallied (StayOpen : Nat → Prop) (app : App) (orders : List Order) : Prop where
  count : app.started = (issued orders).length
  newest : ∀ handle, app.handle = some handle → handle.generation = app.started
  unborn : ∀ generation, app.started < generation → asksOf generation orders = 0
  numbered : ∀ handle, app.handle = some handle →
    Numbered (StayOpen handle.generation) orders handle app.subscriptions

section Tallied

variable {StayOpen Later : Nat → Prop} {app next : App} {orders more : List Order}

theorem tallied_initial (plan : SessionPlan) (cap : Option Nat) :
    Tallied StayOpen (initial plan cap) [] where
  count := rfl
  newest handle held := by cases held
  unborn generation _ := rfl
  numbered handle held := by cases held

/-- Nothing is subscribed when a session is left. -/
@[simp]
theorem asksOf_farewells (generation : Nat) (subscriptions : List Subscription) (handle : Handle) :
    asksOf generation (farewells subscriptions handle) = 0 := by
  rw [asksOf, List.countP_eq_zero]
  intro order mem
  rcases List.mem_map.mp mem with ⟨request, asked, rfl⟩
  rcases List.mem_append.mp asked with dropped | last
  · rcases List.mem_map.mp dropped with ⟨held, -, rfl⟩
    simp [Order.subscribes]
  · rw [List.mem_singleton.mp last]
    simp [Order.subscribes]

theorem asksOf_nextSubscriptions (generation : Nat) (handle : Handle) :
    asksOf generation ((nextSubscriptions handle).map fun subscription =>
      .request handle.generation (.subscribe subscription)) =
      if handle.generation = generation then 2 else 0 := by
  by_cases same : handle.generation = generation
  · simp [asksOf, nextSubscriptions, Order.subscribes, same]
  · simp [asksOf, nextSubscriptions, Order.subscribes, same]

/-- Nothing of this changes unless sessions start or are asked for something. -/
theorem Tallied.of_quiet (tallied : Tallied StayOpen app orders)
    (open_before : ∀ generation, Later generation → StayOpen generation)
    (started : next.started = app.started) (none_issued : issued more = [])
    (none_asked : ∀ generation, asksOf generation more = 0)
    (held : ∀ handle, next.handle = some handle →
      app.handle = some handle ∧ next.subscriptions = app.subscriptions) :
    Tallied Later next (orders ++ more) where
  count := by rw [started, tallied.count, issued_append, none_issued, List.append_nil]
  newest handle live := by rw [started, tallied.newest handle (held handle live).1]
  unborn generation later := by
    rw [asksOf_append, none_asked, Nat.add_zero]
    exact tallied.unborn generation (started ▸ later)
  numbered handle live := by
    have before := tallied.numbered handle (held handle live).1
    have same_asks :
        asksOf handle.generation (orders ++ more) = asksOf handle.generation orders := by
      rw [asksOf_append, none_asked, Nat.add_zero]
    refine ⟨?_, ?_, ?_⟩
    · rw [same_asks]
      exact before.next
    · rw [same_asks]
      exact before.even
    · intro stays_open
      rw [same_asks, (held handle live).2]
      exact before.all (open_before _ stays_open)

/-- Nothing was ever asked of a session that starts. -/
theorem Tallied.of_begun (tallied : Tallied StayOpen app orders)
    (held : next.handle = some (.ofGeneration (app.started + 1)))
    (subscriptions : next.subscriptions = []) (started : next.started = app.started + 1)
    (one_issued : issued more = [app.started + 1])
    (none_asked : ∀ generation, asksOf generation more = 0) :
    Tallied Later next (orders ++ more) where
  count := by
    rw [started, tallied.count, issued_append, one_issued, List.length_append,
      List.length_singleton]
  newest handle live := by
    cases held.symm.trans live
    exact started.symm
  unborn generation later := by
    rw [asksOf_append, none_asked, Nat.add_zero]
    exact tallied.unborn generation (by omega)
  numbered handle live := by
    cases held.symm.trans live
    have unasked : asksOf (app.started + 1) (orders ++ more) = 0 := by
      rw [asksOf_append, none_asked, Nat.add_zero]
      exact tallied.unborn _ (Nat.lt_succ_self _)
    refine ⟨?_, ?_, ?_⟩
    · rw [Handle.ofGeneration, unasked]
      rfl
    · rw [Handle.ofGeneration, unasked]
    · intro _
      rw [Handle.ofGeneration, unasked, subscriptions]
      rfl

theorem numbered_next {handle : Handle} {count : Nat} (next : handle.next = .ofNat count)
    (even : count % 2 = 0) :
    nextSubscriptions handle = [count, count + 1].map Handle.numbered := by
  have odd : (count + 1) % 2 ≠ 0 := by omega
  simp [nextSubscriptions, Handle.numbered, Topic.inTurn, next, even, odd]

theorem Tallied.of_welcomed (tallied : Tallied StayOpen app orders) {handle : Handle}
    {accepts : Topic → Bool} (dashboard : Dashboard) (notice : Option Notice)
    (held : app.handle = some handle)
    (open_before : ∀ generation, Later generation → StayOpen generation)
    (open_now : Later handle.generation → ∀ topic, accepts topic = true) :
    Tallied Later
      { app with
        dashboard
        handle := some { handle with next := handle.next + 1 + 1 }
        subscriptions :=
          app.subscriptions ++ (nextSubscriptions handle).filter (accepts ·.topic)
        notice }
      (orders ++ (nextSubscriptions handle).map fun subscription =>
        .request handle.generation (.subscribe subscription)) where
  count := by
    rw [issued_append, issued_requests (fun _ => handle.generation) Request.subscribe,
      List.append_nil]
    exact tallied.count
  newest live same := by
    cases same
    exact tallied.newest handle held
  unborn generation later := by
    have newest := tallied.newest handle held
    have other : handle.generation ≠ generation := by
      intro same
      simp only at later
      omega
    rw [asksOf_append, asksOf_nextSubscriptions, if_neg other]
    exact tallied.unborn generation later
  numbered live same := by
    cases same
    have before := tallied.numbered handle held
    have asks :
        asksOf handle.generation (orders ++ (nextSubscriptions handle).map fun subscription =>
        .request handle.generation (.subscribe subscription)) =
        asksOf handle.generation orders + 2 := by
      rw [asksOf_append, asksOf_nextSubscriptions, if_pos rfl]
    refine ⟨?_, ?_, ?_⟩
    · show handle.next + 1 + 1 = _
      rw [asks, before.next]
      simp [UInt32.add_assoc]
    · rw [asks]
      have even := before.even
      omega
    · intro stays_open
      have all_taken :
          (nextSubscriptions handle).filter (accepts ·.topic) = nextSubscriptions handle :=
        List.filter_eq_self.mpr fun subscription _ => open_now stays_open subscription.topic
      rw [asks, all_taken, before.all (open_before _ stays_open),
        numbered_next before.next before.even, List.range_succ, List.range_succ]
      simp

/-- Every change keeps the tally of sessions and subscriptions. -/
theorem tallied_change (tallied : Tallied StayOpen app orders) {input : Input}
    (change : Change app input next more)
    (open_before : ∀ generation, Later generation → StayOpen generation)
    (open_now : ∀ generation event arrival accepts,
      input = .event ⟨generation, event⟩ arrival accepts →
      app.generation? = some generation → Later generation → ∀ topic, accepts topic = true) :
    Tallied Later next (orders ++ more) := by
  cases change with
  | idle notice ticks quits =>
      exact tallied.of_quiet open_before rfl rfl (fun _ => rfl) fun handle held => ⟨held, rfl⟩
  | begun notice free =>
      refine tallied.of_begun rfl rfl rfl ?_ ?_
      · rw [issued_append, issued_requests (fun old : Nat => old) (fun _ => .disconnect)]
        rfl
      · intro generation
        cases app.generation? <;> rfl
  | left notice =>
      refine tallied.of_quiet open_before rfl ?_ ?_ fun handle held => by cases held
      · cases app.handle with
        | none => rfl
        | some handle => exact issued_requests (fun _ => handle.generation) id _
      · intro generation
        cases app.handle with
        | none => rfl
        | some handle => exact asksOf_farewells generation app.subscriptions handle
  | welcomed notice held =>
      rename_i handle server arrival accepts
      have live := generation?_of_held held
      exact tallied.of_welcomed _ notice held open_before (open_now _ _ _ _ rfl live)
  | block held =>
      exact tallied.of_quiet open_before rfl rfl (fun _ => rfl) fun handle held => ⟨held, rfl⟩
  | transaction held =>
      exact tallied.of_quiet open_before rfl rfl (fun _ => rfl) fun handle held => ⟨held, rfl⟩
  | lost notice held =>
      exact tallied.of_quiet open_before rfl rfl (fun _ => rfl) fun handle held => by cases held

end Tallied

section Run

variable (plan : SessionPlan) (cap : Option Nat) (inputs : List (Nat × Input))

theorem run_concat (timed : Nat × Input) (app : App) :
    run (inputs ++ [timed]) app =
      (((run inputs app).1.step timed.1 timed.2).1,
        (run inputs app).2 ++ ((run inputs app).1.step timed.1 timed.2).2) := by
  rw [run_append]
  simp [run]

theorem displayed_run : Displayed cap ((initial plan cap).run inputs).1 := by
  induction inputs using List.reverseRecOn with
  | nil => exact displayed_initial plan cap
  | append_singleton front timed ih =>
      rw [run_concat]
      exact displayed_change ih (change_step _ timed.1 timed.2)

/-- Whether a session took requests whenever the application listened to it. -/
def StaysOpen (start : App) (inputs : List (Nat × Input)) (generation : Nat) : Prop :=
  ∀ front back now event arrival accepts,
    inputs = front ++ (now, .event ⟨generation, event⟩ arrival accepts) :: back →
    (run front start).1.generation? = some generation → ∀ topic, accepts topic = true

theorem tallied_run :
    Tallied (StaysOpen (initial plan cap) inputs) ((initial plan cap).run inputs).1
      ((initial plan cap).run inputs).2 := by
  induction inputs using List.reverseRecOn with
  | nil => exact tallied_initial plan cap
  | append_singleton front timed ih =>
      rw [run_concat]
      apply tallied_change ih (change_step _ timed.1 timed.2)
      · intro generation stays_open before after now event arrival accepts split
        apply stays_open before (after ++ [timed]) now event arrival accepts
        rw [split, List.append_assoc, List.cons_append]
      · intro generation event arrival accepts last live stays_open
        refine stays_open front [] timed.1 event arrival accepts ?_ live
        rw [← last]

end Run

/-- The subscriptions with the first numbers have ids of their own, as many as a word can number. -/
theorem nodup_numbered {count : Nat} (few : count ≤ 2 ^ 32) :
    (((List.range count).map Handle.numbered).map (·.id)).Nodup := by
  rw [List.map_map, List.Nodup, List.pairwise_map]
  refine List.Pairwise.imp_of_mem ?_ List.nodup_range
  intro left right left_mem right_mem different same
  have left_lt := List.mem_range.mp left_mem
  have right_lt := List.mem_range.mp right_mem
  exact different (Handle.subscriptionId_ofNat_injective (by omega) (by omega) same)

/-- What holds after any inputs, whichever sessions the events among them come from. A connected
dashboard has a session, subscriptions are kept for a connected one only, and a disconnected one
shows no rows. The session that is held is the one that was started last. As long as it takes
requests and its ids do not run out, its subscriptions are numbered from zero and ask for both
topics in turn. No table outgrows its cap, and always one of the two controls can be used: the one
for disconnecting while the tables are shown. -/
theorem consistent_after_any_inputs (plan : SessionPlan) (cap : Option Nat)
    (inputs : List (Nat × Input)) :
    let app := ((initial plan cap).run inputs).1
    let orders := ((initial plan cap).run inputs).2
    (app.dashboard.isConnected = true → app.handle.isSome = true) ∧
    (app.subscriptions ≠ [] → app.dashboard.isConnected = true) ∧
    (app.dashboard.isConnected = false →
      app.dashboard.blocks.rows = [] ∧ app.dashboard.transactions.rows = []) ∧
    (∀ generation, app.generation? = some generation → generation = (issued orders).length ∧
      (StaysOpen (initial plan cap) inputs generation → asksOf generation orders < 2 ^ 32 →
        app.subscriptions = (List.range (asksOf generation orders)).map (fun number =>
          ⟨"sub-" ++ toString number, if number % 2 = 0 then .blocks else .transactions⟩) ∧
        (app.subscriptions.map (·.id)).Nodup)) ∧
    (∀ limit, cap = some limit → 0 < limit →
      app.dashboard.blocks.rows.length ≤ limit ∧ app.dashboard.transactions.rows.length ≤ limit) ∧
    (app.dashboard.controls.connect = !app.dashboard.controls.disconnect) ∧
    app.dashboard.showsTables = app.dashboard.controls.disconnect := by
  intro app orders
  have displayed : Displayed cap app := displayed_run plan cap inputs
  have tallied : Tallied (StaysOpen (initial plan cap) inputs) app orders :=
    tallied_run plan cap inputs
  refine ⟨displayed.held, displayed.subscribed, ?_, ?_, ?_, rfl, rfl⟩
  · intro not_connected
    exact ⟨displayed.empty not_connected .blocks, displayed.empty not_connected .transactions⟩
  · intro generation live
    rcases Option.map_eq_some_iff.mp live with ⟨handle, held, rfl⟩
    refine ⟨(tallied.newest handle held).trans tallied.count, ?_⟩
    intro stays_open few
    have numbered := (tallied.numbered handle held).all stays_open
    constructor
    · rw [numbered]
      apply List.map_congr_left
      intro number mem
      exact Handle.numbered_eq (Nat.lt_trans (List.mem_range.mp mem) few)
    · rw [numbered]
      exact nodup_numbered (Nat.le_of_lt few)
  · intro limit capped positive
    have cap_eq : cap.filter (0 < ·) = some limit := by simp [capped, positive]
    have within : ∀ topic, (app.dashboard.table topic).rows.length ≤ limit := by
      intro topic
      have fits := displayed.fits topic
      exact fits.length_le limit (fits.cap_eq.trans cap_eq)
    exact ⟨within .blocks, within .transactions⟩

/-- A node that accepts a session twice is asked for both topics twice. -/
theorem consistent_after_any_inputs_of_second_welcome :
    let start := initial ⟨"ws://node/ws", .ofParts 10 0⟩ (some 2)
    let inputs : List (Nat × Input) :=
      [(0, .press ⟨.char 'c', false⟩), (5, .event ⟨1, .connected none⟩ ⟨1, 2, 3⟩ fun _ => true),
        (6, .event ⟨2, .connected none⟩ ⟨1, 2, 4⟩ fun _ => false),
        (7, .event ⟨1, .connected none⟩ ⟨1, 2, 5⟩ fun _ => true)]
    (start.run inputs).1.generation? = some 1 ∧ StaysOpen start inputs 1 ∧
      asksOf 1 (start.run inputs).2 = 4 ∧
      (start.run inputs).1.subscriptions =
        [⟨"sub-0", .blocks⟩, ⟨"sub-1", .transactions⟩, ⟨"sub-2", .blocks⟩,
          ⟨"sub-3", .transactions⟩] := by
  intro start inputs
  have live : (start.run inputs).1.generation? = some 1 := by decide
  have asks : asksOf 1 (start.run inputs).2 = 4 := by decide
  have stays_open : StaysOpen start inputs 1 := by
    intro front back now event arrival accepts split _
    have mem : (now, Input.event ⟨1, event⟩ arrival accepts) ∈ inputs := by simp [split]
    simp only [inputs, List.mem_cons, Prod.mk.injEq, Input.event.injEq, Envelope.mk.injEq,
      List.not_mem_nil, or_false] at mem
    rcases mem with ⟨-, impossible⟩ | ⟨-, -, -, accepted⟩ | ⟨-, ⟨impossible, -⟩, -⟩
      | ⟨-, -, -, accepted⟩
    · cases impossible
    · exact congrFun accepted
    · cases impossible
    · exact congrFun accepted
  have consistent := consistent_after_any_inputs ⟨"ws://node/ws", .ofParts 10 0⟩ (some 2) inputs
  have numbered := (consistent.2.2.2.1 1 live).2 stays_open (by rw [asks]; decide)
  refine ⟨live, stays_open, asks, numbered.1.trans ?_⟩
  rw [asks]
  decide

end App

end LedgerBoard
