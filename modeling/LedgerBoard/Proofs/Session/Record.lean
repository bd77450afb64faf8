import LedgerBoard.Proofs.Session.Turns

/-!
# The record of a session

The record of a session holds every frame that it read or sent, in order. What it is subscribed to
can be told from the record alone: an id is active from the frame that subscribes it to the one that
unsubscribes it. So can what the node offered it: the payloads of the messages on an active id that
the topic of the destination accepts. Nothing here looks at the routes that the session keeps.
-/

namespace LedgerBoard.Session

/-- A frame that passes over the transport of a session. -/
inductive Entry where
  | read (frame : Frame)
  | sent (frame : Frame)
  deriving DecidableEq, Repr

/-- The destinations to which ids are subscribed. -/
abbrev Active := String → Option String

/-- What is subscribed after one more frame. -/
def follow (active : Active) : Entry → Active
  | .read _ => active
  | .sent frame =>
      match frame.command, frame.header? "id" with
      | .subscribe, some id => fun other =>
          if other = id then frame.header? "destination" else active other
      | .unsubscribe, some id => fun other => if other = id then none else active other
      | _, _ => active

/-- What is subscribed after a record. -/
def active (entries : List Entry) : Active :=
  entries.foldl follow fun _ => none

/-- The body of a message on an id that is subscribed to a destination. -/
def payload? (destination : String) (active : Active) (frame : Frame) : Option String :=
  if frame.command = .message ∧ (frame.header? "subscription").bind active = some destination then
    some frame.body
  else none

/-- The bodies of the messages in a record that are read on an id while it is subscribed to a
destination. -/
def payloads (destination : String) : Active → List Entry → List String
  | _, [] => []
  | active, .read frame :: rest =>
      (payload? destination active frame).toList ++ payloads destination active rest
  | active, .sent frame :: rest => payloads destination (follow active (.sent frame)) rest

/-- The events of a topic that the node offered: one for each payload that the topic accepts. -/
def offered (topic : Topic) (entries : List Entry) : List SessionEvent :=
  (payloads topic.destination (fun _ => none) entries).filterMap (eventOf? topic)

/-- The event of a topic that a frame brings. -/
def offer? (topic : Topic) (active : Active) (frame : Frame) : Option SessionEvent :=
  (payload? topic.destination active frame).bind (eventOf? topic)

/-- What a turn adds to the record. -/
def entries (plan : SessionPlan) (weather : Weather) (input : Input) (phase : Phase) : List Entry :=
  (framesRead input phase).map .read ++ (sent (turn plan weather input phase).2).map .sent

/-- The record of turns in a row. -/
def record (plan : SessionPlan) : List (Weather × Input) → Phase → List Entry
  | [], _ => []
  | (weather, input) :: rest, phase =>
      entries plan weather input phase ++ record plan rest (turn plan weather input phase).1

theorem active_append (front back : List Entry) :
    active (front ++ back) = back.foldl follow (active front) := by
  simp [active]

theorem foldl_follow_reads (active : Active) (frames : List Frame) :
    (frames.map Entry.read).foldl follow active = active := by
  induction frames with
  | nil => rfl
  | cons frame rest ih => simpa [follow] using ih

/-- The payloads of later entries depend on what was active after the earlier ones. -/
theorem payloads_append (destination : String) (active : Active) (front back : List Entry) :
    payloads destination active (front ++ back) =
      payloads destination active front ++
        payloads destination (front.foldl follow active) back := by
  induction front generalizing active with
  | nil => rfl
  | cons entry rest ih =>
      cases entry with
      | read frame => simp [payloads, follow, ih]
      | sent frame => simp [payloads, ih]

/-- Frames in a row bring their payloads one after the other. -/
theorem payloads_reads (destination : String) (active : Active) (frames : List Frame) :
    payloads destination active (frames.map .read) =
      frames.filterMap (payload? destination active) := by
  induction frames with
  | nil => rfl
  | cons frame rest ih =>
      cases found : payload? destination active frame with
      | none => simp [payloads, found, ih]
      | some body => simp [payloads, found, ih]

@[simp]
theorem payloads_sents (destination : String) (active : Active) (frames : List Frame) :
    payloads destination active (frames.map .sent) = [] := by
  induction frames generalizing active with
  | nil => rfl
  | cons frame rest ih => simpa [payloads] using ih _

/-- What later entries offer depends on what was active after the earlier ones. -/
theorem offered_append (topic : Topic) (front back : List Entry) :
    offered topic (front ++ back) =
      offered topic front ++
        (payloads topic.destination (active front) back).filterMap (eventOf? topic) := by
  simp [offered, payloads_append, active]

/-- What is read adds the events that its frames bring, and what is sent adds nothing. -/
theorem offered_append_entries (topic : Topic) (record : List Entry) (read sent : List Frame) :
    offered topic (record ++ (read.map .read ++ sent.map .sent)) =
      offered topic record ++ read.filterMap (offer? topic (active record)) := by
  have brought : (read.filterMap (payload? topic.destination (active record))).filterMap
      (eventOf? topic) = read.filterMap (offer? topic (active record)) := by
    rw [List.filterMap_filterMap]
    rfl
  rw [offered_append, payloads_append, payloads_reads, payloads_sents, List.append_nil, brought]

@[simp]
theorem sent_append (front back : List Output) : sent (front ++ back) = sent front ++ sent back :=
  List.filterMap_append

@[simp]
theorem reports_append (front back : List Output) :
    reports (front ++ back) = reports front ++ reports back :=
  List.filterMap_append

@[simp]
theorem sent_reports (events : List SessionEvent) : sent (events.map .report) = [] := by
  simp [sent, List.filterMap_map]

@[simp]
theorem reports_reports (events : List SessionEvent) : reports (events.map .report) = events := by
  rw [reports, List.filterMap_map]
  exact List.filterMap_some

/-- The last report, if there is one, is that the session is over. -/
theorem reports_farewell (heard : Bool) (ending : Option SessionError) :
    reports (farewell heard ending) = [] ∨
      ∃ reason, reports (farewell heard ending) = [.closed reason] := by
  rw [farewell]
  split
  · exact .inr ⟨_, rfl⟩
  · exact .inl rfl

theorem follow_subscribe (active : Active) (id destination : String) :
    follow active (.sent (.subscribe id destination)) =
      fun other => if other = id then some destination else active other := rfl

theorem follow_unsubscribe (active : Active) (id : String) :
    follow active (.sent (.unsubscribe id)) =
      fun other => if other = id then none else active other := rfl

end LedgerBoard.Session
