import LedgerBoard.Proofs.Watch.History

/-!
# What was written

What a watch has written is one line for each block and each transaction that it has heard, up to
where writing failed. A line ends at a line feed, and the node may put line feeds into what it
announces: cut at line feeds, the output gives the lines back as long as no name contains one, and
only then.
-/

namespace LedgerBoard

/-- The lines of what was written, with what stands behind the last line feed as the last one. -/
def cutAtBreaks (written : List UInt8) : List (List UInt8) :=
  written.splitOn 10

/-- What a line says, told from its start. -/
def namedIn? (line : List UInt8) : Option (Topic × String) :=
  Topic.all.findSome? fun topic =>
    (topic.lineStart.toUTF8.toList.isPrefixOf? line).bind fun name =>
      (Text.decode? name).map fun name => (topic, String.ofList name)

/-- What the lines of what was written say, in order. -/
def readBack (written : List UInt8) : List (Topic × String) :=
  (cutAtBreaks written).filterMap namedIn?

/-- No event names something that goes over the end of a line. -/
def Unbroken (events : List SessionEvent) : Prop :=
  ∀ named ∈ events.filterMap SessionEvent.named?, '\n' ∉ named.2.toList

section Lines

/-- Only a hash brings a line feed into the line of an event. -/
theorem break_mem_lineFor (named : Topic × String) :
    '\n' ∈ (lineFor named).toList ↔ '\n' ∈ named.2.toList := by
  have no_break : '\n' ∉ named.1.lineStart.toList := by cases named.1 <;> decide
  rw [lineFor, String.toList_append, List.mem_append, or_iff_right no_break]

/-- The line for an event says what the event names. -/
theorem namedIn?_lineFor (named : Topic × String) :
    namedIn? (lineFor named).toUTF8.toList = some named := by
  rcases named with ⟨topic, name⟩
  have block_start : Topic.blocks.lineStart.toUTF8.toList = [98, 108, 111, 99, 107, 32] := by
    decide +kernel
  have transaction_start : Topic.transactions.lineStart.toUTF8.toList = [116, 120, 32] := by
    decide +kernel
  have decoded := Text.decode?_toUTF8 name
  rw [lineFor, Text.toUTF8_append]
  generalize name.toUTF8.toList = octets at decoded
  simp only [namedIn?, Topic.all, List.findSome?_cons, block_start, transaction_start]
  cases topic with
  | blocks =>
      rw [block_start]
      simp [List.isPrefixOf?, decoded]
  | transactions =>
      rw [transaction_start]
      simp [List.isPrefixOf?, decoded]

/-- The octets of a line and of its end. -/
theorem toUTF8_line (line : String) :
    (line ++ "\n").toUTF8.toList = line.toUTF8.toList ++ [10] := by
  rw [Text.toUTF8_append, Text.toUTF8_feed]

/-- What is written of a line before its end is a beginning of the line. -/
theorem begun_of_unfinished {line : String} {part rest : List UInt8}
    (split : part ++ rest = (line ++ "\n").toUTF8.toList) (unfinished : rest ≠ []) :
    part <+: line.toUTF8.toList := by
  rw [toUTF8_line] at split
  have some_left := List.length_pos_iff.mpr unfinished
  have lengths := congrArg List.length split
  simp only [List.length_append, List.length_singleton] at lengths
  refine List.prefix_of_prefix_length_le (split ▸ List.prefix_append part rest)
    (List.prefix_append _ [10]) ?_
  omega

/-- No piece that is left between line feeds contains one. -/
theorem not_mem_of_mem_splitOn {written piece : List UInt8} (mem : piece ∈ written.splitOn 10) :
    10 ∉ piece := by
  induction written generalizing piece with
  | nil =>
      cases List.mem_singleton.mp mem
      exact List.not_mem_nil
  | cons octet rest ih =>
      rw [List.splitOn_cons_eq_if_modifyHead] at mem
      split at mem
      · rcases List.mem_cons.mp mem with rfl | mem
        · exact List.not_mem_nil
        · exact ih mem
      · rename_i no_break
        rcases List.exists_cons_of_ne_nil (List.splitOn_ne_nil 10 rest) with ⟨first, others, split⟩
        rw [split] at mem ih
        rcases List.mem_cons.mp mem with rfl | mem
        · intro among
          rcases List.mem_cons.mp among with rfl | among
          · exact no_break (beq_self_eq_true _)
          · exact ih List.mem_cons_self among
        · exact ih (List.mem_cons_of_mem first mem)

/-- Written lines without line feeds in them are cut as they were written. -/
theorem splitOn_writtenLines {lines : List String} (unbroken : ∀ line ∈ lines, '\n' ∉ line.toList)
    (part : List UInt8) :
    ((writtenLines lines).toUTF8.toList ++ part).splitOn 10 =
      lines.map (·.toUTF8.toList) ++ part.splitOn 10 := by
  induction lines with
  | nil => rw [writtenLines, List.map_nil, String.join_nil, Text.toUTF8_empty]; rfl
  | cons line rest ih =>
      have first : (writtenLines (line :: rest)).toUTF8.toList ++ part =
          line.toUTF8.toList ++ 10 :: ((writtenLines rest).toUTF8.toList ++ part) := by
        rw [← List.singleton_append, writtenLines_append, writtenLines_singleton,
          Text.toUTF8_append, toUTF8_line]
        simp only [List.append_assoc, List.cons_append, List.nil_append]
      have no_break : 10 ∉ line.toUTF8.toList :=
        Text.feed_mem_toUTF8.not.mpr (unbroken line List.mem_cons_self)
      rw [first, List.splitOn_append_cons_self_of_not_mem no_break,
        ih fun other mem => unbroken other (List.mem_cons_of_mem line mem)]
      rfl

variable {events : List SessionEvent}

theorem unbroken_iff : Unbroken events ↔ ∀ line ∈ linesOf events, '\n' ∉ line.toList := by
  rw [Unbroken, linesOf, List.forall_mem_map]
  exact forall₂_congr fun named _ => not_congr (break_mem_lineFor named).symm

theorem Unbroken.of_append {front back : List SessionEvent} (unbroken : Unbroken (front ++ back)) :
    Unbroken front ∧ Unbroken back := by
  rw [Unbroken, List.filterMap_append] at unbroken
  exact ⟨fun named mem => unbroken named (List.mem_append_left _ mem),
    fun named mem => unbroken named (List.mem_append_right _ mem)⟩

/-- The lines of events are what is left between the line feeds of the output, if no name contains
one, and only then. -/
theorem cutAtBreaks_writtenLines :
    cutAtBreaks (writtenLines (linesOf events)).toUTF8.toList =
      (linesOf events).map (·.toUTF8.toList) ++ [[]] ↔ Unbroken events := by
  rw [unbroken_iff]
  constructor
  · intro same line mem
    have among : line.toUTF8.toList ∈ cutAtBreaks (writtenLines (linesOf events)).toUTF8.toList :=
      same ▸ List.mem_append_left _ (List.mem_map_of_mem mem)
    exact Text.feed_mem_toUTF8.not.mp (not_mem_of_mem_splitOn among)
  · intro unbroken
    have cut := splitOn_writtenLines unbroken []
    rw [List.append_nil] at cut
    exact cut

/-- Lines that are cut at line feeds give back the events that they were written for. -/
theorem readBack_writtenLines (unbroken : Unbroken events) :
    readBack (writtenLines (linesOf events)).toUTF8.toList =
      events.filterMap SessionEvent.named? := by
  have last : [([] : List UInt8)].filterMap namedIn? = [] := by decide +kernel
  have each : namedIn? ∘ ((·.toUTF8.toList) ∘ lineFor) = some := funext namedIn?_lineFor
  rw [readBack, cutAtBreaks_writtenLines.mpr unbroken, List.filterMap_append, last, List.append_nil,
    linesOf, List.map_map, List.filterMap_map, each, List.filterMap_some]

/-- One more event that names something adds its line. -/
theorem toUTF8_writtenLines_concat {event : SessionEvent} {named : Topic × String}
    (names : event.named? = some named) :
    (writtenLines (linesOf (events ++ [event]))).toUTF8.toList =
      (writtenLines (linesOf events)).toUTF8.toList ++ (lineFor named ++ "\n").toUTF8.toList := by
  rw [linesOf_append, linesOf_singleton, names, writtenLines_append, Text.toUTF8_append,
    Option.map_some, Option.toList_some, writtenLines_singleton]

end Lines

namespace Watch

/-- What a watch has written tells what it has heard. -/
structure Told (watch : Watch) (heard : List SessionEvent) : Prop where
  whole : ¬watch.Broken → watch.written = (writtenLines (linesOf heard)).toUTF8.toList
  /-- The line for the last event was begun, and got out up to where writing failed. -/
  cut : watch.Broken → ∃ front event named part rest, heard = front ++ [event] ∧
    event.named? = some named ∧
    watch.written = (writtenLines (linesOf front)).toUTF8.toList ++ part ∧
    part ++ rest = (lineFor named ++ "\n").toUTF8.toList

section Told

variable {watch : Watch} {heard : List SessionEvent}

/-- A watch that has written all its lines has told what it heard. -/
theorem told_of_whole (not_broken : ¬watch.Broken)
    (whole : watch.written = (writtenLines (linesOf heard)).toUTF8.toList) : Told watch heard :=
  ⟨fun _ => whole, fun broken => absurd broken not_broken⟩

theorem told_start : Told start [] :=
  told_of_whole (not_broken_of_running rfl) Text.toUTF8_empty.symm

/-- In each turn the line for the event that is heard is written, if it has one and no write
fails. -/
theorem told_turn (told : Told watch heard) (input : Input) :
    Told (watch.turn input).1 (heard ++ watch.heardIn input) := by
  have turned := watch.turned input
  generalize watch.turn input = result at turned
  rcases result with ⟨next, requests⟩
  have whole (running : watch.state = .running) :
      watch.written = (writtenLines (linesOf heard)).toUTF8.toList :=
    told.whole (not_broken_of_running running)
  have unchanged (running : watch.state = .running) (no_line : linesOf (watch.heardIn input) = []) :
      watch.written = (writtenLines (linesOf (heard ++ watch.heardIn input))).toUTF8.toList := by
    rw [linesOf_append, no_line, List.append_nil]
    exact whole running
  cases turned with
  | ended ended =>
      rw [heardIn_of_ended ended, List.append_nil]
      exact told
  | again running shut =>
      exact told_of_whole (not_broken_of_running running) (unchanged running rfl)
  | shut running first =>
      exact told_of_whole (not_broken_of_running running) (unchanged running rfl)
  | welcomed running held =>
      exact told_of_whole (not_broken_of_running running)
        (unchanged running (by rw [heardIn_event running]; rfl))
  | late running free =>
      exact told_of_whole (not_broken_of_running running)
        (unchanged running (by rw [heardIn_event running]; rfl))
  | closed running =>
      rename_i reason outlet
      refine told_of_whole ?_ (unchanged running (by rw [heardIn_event running]; rfl))
      rintro ⟨cause, failed⟩
      cases reason <;> cases failed
  | silenced running => exact told_of_whole nofun (unchanged running rfl)
  | wrote running names =>
      refine told_of_whole (not_broken_of_running running) ?_
      rw [heardIn_event running]
      exact (congrArg (· ++ _) (whole running)).trans (toUTF8_writtenLines_concat names).symm
  | broke running names fails split =>
      refine ⟨fun not_broken => absurd ⟨_, rfl⟩ not_broken, fun _ => ?_⟩
      rw [heardIn_event running]
      exact ⟨heard, _, _, _, _, rfl, names, congrArg (· ++ _) (whole running), split⟩

/-- In every run the octets that got out tell what was heard. -/
theorem told_run (told : Told watch heard) (inputs : List Input) :
    Told (run inputs watch).1 (heard ++ Watch.heard inputs watch) := by
  induction inputs generalizing watch heard with
  | nil =>
      rw [Watch.heard, List.append_nil]
      exact told
  | cons input rest ih =>
      rw [Watch.heard, ← List.append_assoc]
      exact ih (told_turn told input)

end Told

end Watch

namespace WatchRun

theorem told_received (plan : SessionPlan) (moves : List Move) :
    (run moves (start plan)).watch.Told (received moves (start plan)) := by
  rw [watch_run]
  exact Watch.told_run Watch.told_start _

/-- However a watch, its session and the node interleave, and whatever becomes of the lines: unless
writing fails, what is written is one line for each block and each transaction that was received, in
order. Cut at line feeds it is just these lines if no name that was received contains a line feed,
and only then; and then the topics and the names can be read back from it. If writing fails, all
that may be wrong is that the last line, which is the one for the last event, is cut off. -/
theorem lines_are_read_back (plan : SessionPlan) (moves : List Move) :
    let watch := (run moves (start plan)).watch
    let events := received moves (start plan)
    let whole := watch.written = (writtenLines (linesOf events)).toUTF8.toList ∧
      (cutAtBreaks watch.written = (linesOf events).map (·.toUTF8.toList) ++ [[]] ↔
        Unbroken events) ∧
      (Unbroken events → readBack watch.written = events.filterMap SessionEvent.named?)
    (¬watch.Broken → whole) ∧
    (watch.Broken → whole ∨ ∃ front event named part,
      events = front ++ [event] ∧ event.named? = some named ∧
      part <+: (lineFor named).toUTF8.toList ∧
      (Unbroken events →
        cutAtBreaks watch.written = (linesOf front).map (·.toUTF8.toList) ++ [part])) := by
  intro watch events whole
  have told : watch.Told events := told_received plan moves
  have whole_of (written : watch.written = (writtenLines (linesOf events)).toUTF8.toList) :
      whole := by
    refine ⟨written, ?_⟩
    rw [written]
    exact ⟨cutAtBreaks_writtenLines, readBack_writtenLines⟩
  refine ⟨fun not_broken => whole_of (told.whole not_broken), ?_⟩
  intro broken
  rcases told.cut broken with ⟨front, event, named, part, rest, split, names, written, line⟩
  by_cases finished : rest = []
  · left
    apply whole_of
    rw [finished, List.append_nil] at line
    rw [written, line, split, toUTF8_writtenLines_concat names]
  · right
    have begun := begun_of_unfinished line finished
    refine ⟨front, event, named, part, split, names, begun, ?_⟩
    intro unbroken
    rw [split] at unbroken
    have lines := unbroken_iff.mp unbroken.of_append.1
    have last : '\n' ∉ (lineFor named).toList := by
      apply unbroken_iff.mp unbroken.of_append.2
      rw [linesOf_singleton, names]
      exact List.mem_singleton_self _
    have part_unbroken : 10 ∉ part := fun among =>
      Text.feed_mem_toUTF8.not.mpr last (begun.subset among)
    rw [cutAtBreaks, written, splitOn_writtenLines lines, List.splitOn_eq_singleton part_unbroken]

/-- What comes after a shutdown was asked for is written, too. -/
theorem lines_are_read_back_of_late_block :
    let moves : List Move :=
      [.hear none (.dialled (.ok ())), .hear none (.message (.text "CONNECTED\n\n\x00")),
        .deliver {}, .take none, .take none,
        .hear none
          (.message (.text "MESSAGE\nsubscription:sub-1\n\n\x7b\"txHash\":\"aa\"\x7d\x00")),
        .shutdown, .deliver {},
        .hear none
          (.message (.text "MESSAGE\nsubscription:sub-0\n\n\x7b\"hash\":\"tx b\"\x7d\x00")),
        .take none, .deliver {}]
    let begun := start ⟨"ws://node/ws", .ofParts 10 0⟩
    let watch := (run moves begun).watch
    ¬watch.Broken ∧ watch.written = "tx aa\nblock tx b\n".toUTF8.toList ∧
      readBack watch.written = [(.transactions, "aa"), (.blocks, "tx b")] := by
  intro moves begun watch
  have running : watch.state = .running := by decide +kernel
  have heard : received moves begun =
      [.connected none, .transaction ⟨"aa", none, none, none, none⟩,
        .block ⟨"tx b", none, none, none, none, none⟩] := by decide +kernel
  have unbroken : Unbroken (received moves begun) := by
    rw [heard]
    unfold Unbroken
    decide +kernel
  have not_broken := Watch.not_broken_of_running running
  have lines := (lines_are_read_back ⟨"ws://node/ws", .ofParts 10 0⟩ moves).1 not_broken
  refine ⟨not_broken, lines.1.trans ?_, (lines.2.2 unbroken).trans ?_⟩
  · rw [heard]
    decide +kernel
  · rw [heard]
    rfl

/-- A hash may contain a line feed, and then one block makes two lines. What they say is what no
event says. -/
theorem line_feed_in_hash_makes_a_line :
    let moves : List Move :=
      [.hear none (.dialled (.ok ())), .hear none (.message (.text "CONNECTED\n\n\x00")),
        .deliver {}, .take none, .take none,
        .hear none
          (.message (.text "MESSAGE\nsubscription:sub-0\n\n\x7b\"hash\":\"a\\nblock b\"\x7d\x00")),
        .deliver {}]
    let begun := start ⟨"ws://node/ws", .ofParts 10 0⟩
    let watch := (run moves begun).watch
    watch.state = .running ∧
      received moves begun =
        [.connected none, .block ⟨"a\nblock b", none, none, none, none, none⟩] ∧
      cutAtBreaks watch.written =
        ["block a".toUTF8.toList, "block b".toUTF8.toList, []] ∧
      cutAtBreaks watch.written ≠
        (linesOf (received moves begun)).map (·.toUTF8.toList) ++ [[]] ∧
      readBack watch.written = [(.blocks, "a"), (.blocks, "b")] := by
  decide +kernel

end WatchRun

end LedgerBoard
