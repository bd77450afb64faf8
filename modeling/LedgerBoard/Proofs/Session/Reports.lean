import LedgerBoard.Proofs.Session.Stages

/-!
# What a session reports

The news of a topic that a session reports are, in order, what the node offered on the ids
subscribed to that topic. While the session takes requests nothing of that is missing, and after
that nothing is added. `Consistent` ties what a session has done to its phase and its record,
`consistent_turn` carries it over one turn, and `consistent_run` over all of them.
-/

namespace LedgerBoard

/-- The news of a topic among events. -/
def newsOf (topic : Topic) (events : List SessionEvent) : List SessionEvent :=
  events.filter fun event => event.topic? == some topic

@[simp]
theorem newsOf_append (topic : Topic) (front back : List SessionEvent) :
    newsOf topic (front ++ back) = newsOf topic front ++ newsOf topic back :=
  List.filter_append ..

@[simp]
theorem newsOf_nil (topic : Topic) : newsOf topic [] = [] := rfl

theorem newsOf_singleton_of_none {event : SessionEvent} (no_news : event.topic? = none)
    (topic : Topic) : newsOf topic [event] = [] := by
  simp [newsOf, no_news]

/-- The destination tells the topic. -/
theorem Topic.destination_injective {left right : Topic}
    (equal : left.destination = right.destination) :
    left = right := by
  cases left <;> cases right <;> first | rfl | exact absurd equal (by decide)

namespace Session

/-- A payload announces an event of its own topic. -/
theorem topic?_of_eventOf? {topic : Topic} {payload : String} {event : SessionEvent}
    (accepted : eventOf? topic payload = some event) : event.topic? = some topic := by
  cases topic with
  | blocks =>
      rcases Option.map_eq_some_iff.mp accepted with ⟨block, -, rfl⟩
      rfl
  | transactions =>
      rcases Option.map_eq_some_iff.mp accepted with ⟨transaction, -, rfl⟩
      rfl

/-- An event of a topic is announced on its destination only. -/
theorem filter_eventOf? (held topic : Topic) (payload : String) :
    ((eventOf? held payload).filter fun event => event.topic? == some topic) =
      if held = topic then eventOf? topic payload else none := by
  by_cases same : held = topic
  · subst same
    cases accepted : eventOf? held payload with
    | none => simp
    | some event => simp [Option.filter, topic?_of_eventOf? accepted]
  · cases accepted : eventOf? held payload with
    | none => simp [same]
    | some event => simp [Option.filter, topic?_of_eventOf? accepted, same]

/-- The routes of a session agree with what is subscribed on the wire. -/
def Agrees (active : Active) (routes : Routes) : Prop :=
  ∀ id, active id = (routes.lookup id).map Topic.destination

/-- A frame that does not end the session amounts to an event of a topic where it brings one. -/
theorem route_ok {active : Active} {routes : Routes} (agrees : Agrees active routes) {frame : Frame}
    {found : Option SessionEvent} (routed : route routes frame = .ok found) (topic : Topic) :
    offer? topic active frame = found.filter fun event => event.topic? == some topic := by
  have same_bind : (frame.header? "subscription").bind active =
      ((frame.header? "subscription").bind fun id => routes.lookup id).map Topic.destination := by
    cases frame.header? "subscription" with
    | none => rfl
    | some id => exact agrees id
  cases message : frame.command with
  | message =>
      simp only [route, message] at routed
      cases looked_up : (frame.header? "subscription").bind fun id => routes.lookup id with
      | none =>
          simp only [looked_up, Except.ok.injEq] at routed
          simp [offer?, payload?, same_bind, looked_up, ← routed]
      | some held =>
          simp only [looked_up, Except.ok.injEq] at routed
          rw [← routed, filter_eventOf?]
          by_cases same : held = topic
          · simp [offer?, payload?, message, same_bind, looked_up, same]
          · have different : held.destination ≠ topic.destination :=
              fun equal => same (Topic.destination_injective equal)
            simp [offer?, payload?, same_bind, looked_up, different, same]
  | error => simp [route, message] at routed
  | _ =>
      simp only [route, message, Except.ok.injEq] at routed
      simp [offer?, payload?, message, ← routed]

/-- What is routed is news. -/
theorem isSome_topic?_of_route {routes : Routes} {frame : Frame} {event : SessionEvent}
    (routed : route routes frame = .ok (some event)) : event.topic?.isSome = true := by
  rw [route] at routed
  split at routed
  · split at routed
    · rw [topic?_of_eventOf? (Except.ok.inj routed)]
      rfl
    · cases routed
  · cases routed
  · cases routed

theorem newsOf_cons (topic : Topic) (event : SessionEvent) (rest : List SessionEvent) :
    newsOf topic (event :: rest) =
      ((some event).filter fun event => event.topic? == some topic).toList ++
        newsOf topic rest := by
  by_cases on_topic : event.topic? = some topic
  · simp [newsOf, Option.filter, on_topic]
  · simp [newsOf, Option.filter, on_topic]

/-- The events that frames amount to are news, and those of a topic are what the frames bring, up to
the frame that ends the session. -/
theorem newsOf_routeAll {active : Active} {routes : Routes} (agrees : Agrees active routes)
    {frames : List Frame} {hearing : Option Nat} {events : List SessionEvent}
    {ending : Option SessionError} (routed : routeAll routes hearing frames = (events, ending)) :
    (∀ event ∈ events, event.topic?.isSome = true) ∧
    ∀ topic, newsOf topic events <+: frames.filterMap (offer? topic active) ∧
      (ending = none → newsOf topic events = frames.filterMap (offer? topic active)) := by
  induction frames generalizing hearing events with
  | nil =>
      cases routed
      simp
  | cons frame rest ih =>
      rw [routeAll] at routed
      cases route_found : route routes frame with
      | error cause =>
          simp only [route_found, Prod.mk.injEq] at routed
          rcases routed with ⟨rfl, rfl⟩
          simp
      | ok found =>
          have brought : ∀ topic, (frame :: rest).filterMap (offer? topic active) =
              (found.filter fun event => event.topic? == some topic).toList ++
                rest.filterMap (offer? topic active) := by
            intro topic
            rw [← route_ok agrees route_found topic, List.filterMap_cons]
            cases offer? topic active frame <;> rfl
          cases found with
          | none =>
              simp only [route_found] at routed
              rcases ih routed with ⟨only_news, news⟩
              refine ⟨only_news, ?_⟩
              intro topic
              rw [brought topic]
              exact news topic
          | some event =>
              simp only [route_found] at routed
              split at routed
              · rcases Prod.mk.inj routed with ⟨rfl, rfl⟩
                simp
              · rcases rest_routed : routeAll routes (hearing.map (· - 1)) rest with ⟨more, last⟩
                rw [rest_routed] at routed
                rcases Prod.mk.inj routed with ⟨rfl, rfl⟩
                rcases ih rest_routed with ⟨only_news, news⟩
                refine ⟨?_, ?_⟩
                · intro other mem
                  rcases List.mem_cons.mp mem with rfl | mem
                  · exact isSome_topic?_of_route route_found
                  · exact only_news other mem
                · intro topic
                  rw [brought topic, newsOf_cons]
                  refine ⟨(List.prefix_append_right_inj _).mpr (news topic).1, ?_⟩
                  intro complete
                  rw [(news topic).2 complete]

/-- The routes of a session that may still report news. -/
def Phase.routes? : Phase → Option Routes
  | .dialling | .greeting => some []
  | .serving routes _ => some routes
  | .leaving | .over => none

theorem Phase.exists_routes {phase : Phase} (serves : takesRequests phase = true) :
    ∃ routes, phase.routes? = some routes := by
  cases phase with
  | dialling => exact ⟨_, rfl⟩
  | greeting => exact ⟨_, rfl⟩
  | serving routes beat => exact ⟨_, rfl⟩
  | leaving => cases serves
  | «over» => cases serves

/-- What a session has done goes with its phase and with its record. -/
structure Consistent (phase : Phase) (outputs : List Output) (record : List Entry) : Prop where
  told : phase.Tells (stage? (reports outputs))
  no_more : ∀ topic, newsOf topic (reports outputs) <+: offered topic record
  no_less : ∀ routes, phase.routes? = some routes → Agrees (active record) routes ∧
    ∀ topic, newsOf topic (reports outputs) = offered topic record

theorem consistent_start : Consistent .dialling [] [] where
  told := rfl
  no_more topic := List.nil_prefix
  no_less routes found := by
    cases found
    exact ⟨fun id => rfl, fun topic => rfl⟩

theorem lookup_filter_ne (routes : Routes) (id other : String) :
    (routes.filter (·.1 ≠ id)).lookup other = if other = id then none else routes.lookup other := by
  induction routes with
  | nil => simp
  | cons entry rest ih =>
      rcases entry with ⟨held, topic⟩
      by_cases removed : held = id
      · rw [List.filter_cons_of_neg (by simp [removed]), ih]
        by_cases same : other = id
        · simp [same]
        · have different : (other == held) = false := by simpa [removed] using same
          simp [same, List.lookup_cons, different]
      · rw [List.filter_cons_of_pos (by simp [removed])]
        by_cases found : other = held
        · subst found
          simp [removed]
        · have different : (other == held) = false := by simpa using found
          simpa [List.lookup_cons, different] using ih

/-- Subscribing keeps the routes with what is active on the wire. -/
theorem agrees_subscribe {active : Active} {routes : Routes} (agrees : Agrees active routes)
    (id : String) (topic : Topic) :
    Agrees (follow active (.sent (.subscribe id topic.destination)))
      (routes.filter (·.1 ≠ id) ++ [(id, topic)]) := by
  intro other
  rw [follow_subscribe, List.lookup_append, lookup_filter_ne]
  by_cases same : other = id
  · simp [same]
  · have different : (other == id) = false := by simpa using same
    simp [same, List.lookup_cons, different, agrees other]

/-- Unsubscribing keeps the routes with what is active on the wire. -/
theorem agrees_unsubscribe {active : Active} {routes : Routes} (agrees : Agrees active routes)
    (id : String) :
    Agrees (follow active (.sent (.unsubscribe id))) (routes.filter (·.1 ≠ id)) := by
  intro other
  rw [follow_unsubscribe, lookup_filter_ne]
  by_cases same : other = id
  · simp [same]
  · simp [same, agrees other]

/-- Nothing is on offer before anything is subscribed. -/
theorem filterMap_offer?_of_unsubscribed {active : Active} (agrees : Agrees active [])
    (topic : Topic) (frames : List Frame) : frames.filterMap (offer? topic active) = [] := by
  rw [List.filterMap_eq_nil_iff]
  intro frame _
  have inactive : (frame.header? "subscription").bind active = none := by
    cases frame.header? "subscription" with
    | none => rfl
    | some id => exact agrees id
  simp [offer?, payload?, inactive]

section Turns

variable {plan : SessionPlan} {weather : Weather} {phase next : Phase} {input : Input}
  {outputs done : List Output} {record : List Entry}

/-- A turn in which nothing is read or reported only has to keep the routes right. -/
theorem Consistent.silently (consistent : Consistent phase outputs record) (sends : List Frame)
    (quiet : reports done = []) (told : next.Tells (stage? (reports outputs)))
    (agrees : ∀ routes, next.routes? = some routes → ∃ before, phase.routes? = some before ∧
      (Agrees (active record) before →
        Agrees ((sends.map Entry.sent).foldl follow (active record)) routes)) :
    Consistent next (outputs ++ done) (record ++ sends.map .sent) := by
  have same_reports : reports (outputs ++ done) = reports outputs := by
    rw [reports_append, quiet, List.append_nil]
  have same_offered :
      ∀ topic, offered topic (record ++ sends.map .sent) = offered topic record := by
    intro topic
    rw [offered_append, payloads_sents]
    exact List.append_nil _
  refine ⟨same_reports ▸ told, ?_, ?_⟩
  · intro topic
    rw [same_reports, same_offered]
    exact consistent.no_more topic
  · intro routes found
    rcases agrees routes found with ⟨before, found_before, kept⟩
    have in_step := consistent.no_less before found_before
    rw [same_reports, active_append]
    refine ⟨kept in_step.1, ?_⟩
    intro topic
    rw [same_offered]
    exact in_step.2 topic

/-- A turn that keeps the routes and reports exactly the news on offer. -/
theorem Consistent.reading (consistent : Consistent phase outputs record) {routes : Routes}
    (before : phase.routes? = some routes) (after : next.routes? = some routes)
    {frames : List Frame} (told : next.Tells (stage? (reports outputs ++ reports done)))
    (news : ∀ topic, newsOf topic (reports done) =
      frames.filterMap (offer? topic (active record))) :
    Consistent next (outputs ++ done) (record ++ (frames.map .read ++ [].map .sent)) := by
  have in_step := consistent.no_less routes before
  have same_news : ∀ topic, newsOf topic (reports (outputs ++ done)) =
      offered topic (record ++ (frames.map .read ++ [].map .sent)) := by
    intro topic
    rw [offered_append_entries, ← in_step.2 topic, ← news topic, reports_append, newsOf_append]
  refine ⟨?_, ?_, ?_⟩
  · rw [reports_append]
    exact told
  · intro topic
    simpa only [same_news topic] using List.prefix_refl _
  · intro others found
    have same_routes : routes = others := Option.some.inj (after.symm.trans found)
    refine ⟨?_, same_news⟩
    rw [← same_routes, active_append, List.foldl_append, foldl_follow_reads]
    exact in_step.1

/-- A turn that ends the session after some news that were on offer. -/
theorem consistent_over {heard : Bool} {ending : Option SessionError} {entries : List Entry}
    (told : stage? (reports (outputs ++ done)) = some .silent ∨
      stage? (reports (outputs ++ done)) = some .accepted)
    (no_more : ∀ topic, newsOf topic (reports (outputs ++ done)) <+:
      offered topic (record ++ entries)) :
    Consistent .over (outputs ++ (done ++ farewell heard ending)) (record ++ entries) := by
  rw [← List.append_assoc]
  refine ⟨?_, ?_, fun routes impossible => by cases impossible⟩
  · rw [reports_append]
    exact isSome_stage?_farewell heard ending told
  · intro topic
    have no_news : newsOf topic (reports (farewell heard ending)) = [] := by
      rcases reports_farewell heard ending with quiet | ⟨reason, told⟩
      · rw [quiet, newsOf_nil]
      · rw [told, newsOf_singleton_of_none rfl]
    rw [reports_append, newsOf_append, no_news, List.append_nil]
    exact no_more topic

/-- Every turn keeps what was reported with what the wire offered. -/
theorem consistent_turn (consistent : Consistent phase outputs record)
    (made : Turn plan weather phase input next done) :
    Consistent next (outputs ++ done)
      (record ++ ((framesRead input phase).map .read ++ (sent done).map .sent)) := by
  cases made with
  | rest unread =>
      rcases unread with rfl | nothing_read
      · refine ⟨by simpa using consistent.told, ?_, ?_⟩
        · intro topic
          rw [offered_append_entries]
          simpa using (consistent.no_more topic).trans (List.prefix_append ..)
        · intro routes impossible
          cases impossible
      · rw [nothing_read]
        exact consistent.silently [] rfl consistent.told
          fun routes found => ⟨routes, found, id⟩
  | dial =>
      rw [framesRead_dialling]
      refine consistent.silently [_] rfl consistent.told ?_
      intro routes found
      cases found
      exact ⟨[], rfl, id⟩
  | welcome frames accepted =>
      rename_i message frame others beat
      have in_step := consistent.no_less [] rfl
      have told : stage? (reports outputs) = some .silent := consistent.told
      apply consistent.reading rfl rfl
      · show stage? (reports outputs ++ [.connected (frame.header? "server")]) = some .accepted
        rw [stage?_concat, told]
        rfl
      · intro topic
        rw [filterMap_offer?_of_unsubscribed in_step.1]
        rfl
  | subscribe subscription =>
      refine consistent.silently [_] rfl consistent.told ?_
      intro routes found
      cases found
      exact ⟨_, rfl, fun agrees => agrees_subscribe agrees subscription.id subscription.topic⟩
  | unsubscribe held =>
      refine consistent.silently [_] rfl consistent.told ?_
      intro routes found
      cases found
      exact ⟨_, rfl, fun agrees => agrees_unsubscribe agrees _⟩
  | beat =>
      exact consistent.silently [] rfl consistent.told
        fun routes found => ⟨routes, found, id⟩
  | serve routed =>
      rename_i routes beat message events
      have in_step := consistent.no_less routes rfl
      have told : stage? (reports outputs) = some .accepted := consistent.told
      rcases newsOf_routeAll in_step.1 routed with ⟨only_news, news⟩
      rw [sent_reports]
      apply consistent.reading rfl rfl
      · show stage? (reports outputs ++ reports (events.map .report)) = some .accepted
        rw [reports_reports, stage?_append, told]
        exact foldlM_after?_news only_news
      · intro topic
        rw [reports_reports]
        exact (news topic).2 rfl
  | leave asked =>
      rename_i routes beat
      have unread : framesRead input (.serving routes beat) = [] := by
        rcases asked with rfl | rfl <;> rfl
      rw [unread]
      exact consistent.silently [_] rfl consistent.told fun routes impossible => by
        cases impossible
  | fail routed =>
      rename_i routes beat message events cause heard
      have in_step := consistent.no_less routes rfl
      have told : stage? (reports outputs) = some .accepted := consistent.told
      rcases newsOf_routeAll in_step.1 routed with ⟨only_news, news⟩
      refine consistent_over (.inr ?_) ?_
      · rw [reports_append, reports_reports, stage?_append, told]
        exact foldlM_after?_news only_news
      · intro topic
        rw [offered_append_entries, ← in_step.2 topic, reports_append, reports_reports,
          newsOf_append]
        exact (List.prefix_append_right_inj _).mpr (news topic).1
  | finish open_before closes unrouted =>
      rename_i closing heard ending
      have no_reports : reports (outputs ++ closing) = reports outputs := by
        rcases closes with rfl | rfl <;> simp [reports]
      apply consistent_over
      · rw [no_reports]
        exact consistent.told.of_open open_before
      · intro topic
        rw [no_reports, offered_append_entries]
        exact (consistent.no_more topic).trans (List.prefix_append ..)

end Turns

/-- A run goes on from whatever was done and recorded before it. -/
theorem Consistent.run {phase : Phase} {outputs : List Output} {past : List Entry}
    (consistent : Consistent phase outputs past) (plan : SessionPlan)
    (turns : List (Weather × Input)) :
    Consistent (run plan turns phase).1 (outputs ++ (run plan turns phase).2)
      (past ++ record plan turns phase) := by
  induction turns generalizing phase outputs past with
  | nil => simpa [Session.run, record] using consistent
  | cons first rest ih =>
      rcases first with ⟨weather, input⟩
      have next := ih (consistent_turn consistent (turn_spec plan weather input phase))
      rw [run_cons, record, ← List.append_assoc, ← List.append_assoc]
      exact next

/-- Whatever a session goes through, what it has reported goes with its record. -/
theorem consistent_run (plan : SessionPlan) (turns : List (Weather × Input)) :
    Consistent (run plan turns .dialling).1 (run plan turns .dialling).2
      (record plan turns .dialling) := by
  simpa using consistent_start.run plan turns

end Session

end LedgerBoard
