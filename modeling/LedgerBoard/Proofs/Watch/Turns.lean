import LedgerBoard.Proofs.Text.Decoding
import LedgerBoard.Watch.Basic

/-!
# What a turn of watching can do

`Turned` lists everything that one input can do to a watch, with what is asked of the session, and
`turned` says that every turn is one of these. What was written is told by the lines of the events
that were heard, as long as no write fails.
-/

namespace LedgerBoard

/-- The topic of which an event is news, and the identifier that it names. -/
def SessionEvent.named? : SessionEvent → Option (Topic × String)
  | .block announced => some (.blocks, announced.hash)
  | .transaction announced => some (.transactions, announced.txHash)
  | .connected _ | .closed _ => none

/-- With what the lines of a topic begin. -/
def Topic.lineStart : Topic → String
  | .blocks => "block "
  | .transactions => "tx "

/-- The line for an event that names something, without its end. -/
def lineFor (named : Topic × String) : String :=
  named.1.lineStart ++ named.2

/-- Lines in a row, each with its end. -/
def writtenLines (lines : List String) : String :=
  String.join (lines.map (· ++ "\n"))

/-- The lines for events in a row. -/
def linesOf (events : List SessionEvent) : List String :=
  (events.filterMap SessionEvent.named?).map lineFor

@[simp]
theorem writtenLines_append (front back : List String) :
    writtenLines (front ++ back) = writtenLines front ++ writtenLines back := by
  rw [writtenLines, List.map_append, String.join_append]
  rfl

@[simp]
theorem linesOf_append (front back : List SessionEvent) :
    linesOf (front ++ back) = linesOf front ++ linesOf back := by
  rw [linesOf, List.filterMap_append, List.map_append]
  rfl

theorem linesOf_singleton (event : SessionEvent) :
    linesOf [event] = (event.named?.map lineFor).toList := by
  cases event <;> rfl

theorem writtenLines_singleton (line : String) : writtenLines [line] = line ++ "\n" := by
  simp [writtenLines]

namespace Outlet

/-- Whether a write or the flush may fail for a cause. -/
def FailsFor (outlet : Outlet) (cause : String) : Prop :=
  (∃ octets, some ⟨octets, cause⟩ ∈ outlet.writes) ∨ outlet.flush = some cause

variable {fault : Option WriteFault} {octets : List UInt8}

/-- A write puts out all of its octets, or it meets a fault before. -/
theorem meet_cases (fault : Option WriteFault) (octets : List UInt8) :
    WriteFault.meet fault octets = (octets, none) ∨
      ∃ found part rest, fault = some found ∧
        WriteFault.meet fault octets = (part, some found.cause) ∧
        part ++ rest = octets ∧ rest ≠ [] := by
  cases fault with
  | none => exact .inl rfl
  | some found =>
      by_cases early : found.after < octets.length
      · refine .inr ⟨found, octets.take found.after, octets.drop found.after, rfl, ?_, ?_, ?_⟩
        · exact if_pos early
        · exact List.take_append_drop ..
        · rwa [ne_eq, List.drop_eq_nil_iff, Nat.not_le]
      · exact .inl (if_neg early)

/-- Pieces are written up to the first write that fails. -/
theorem writeAll_cases (faults : List (Option WriteFault)) (pieces : List String) :
    writeAll faults pieces = ((String.join pieces).toUTF8.toList, none) ∨
      ∃ fault part rest, some fault ∈ faults ∧ writeAll faults pieces = (part, some fault.cause) ∧
        part ++ rest = (String.join pieces).toUTF8.toList ∧ rest ≠ [] := by
  induction pieces generalizing faults with
  | nil => exact .inl (by simp [writeAll])
  | cons piece pieces ih =>
      have joined : (String.join (piece :: pieces)).toUTF8.toList =
          piece.toUTF8.toList ++ (String.join pieces).toUTF8.toList := by
        rw [String.join_cons, Text.toUTF8_append]
      rw [writeAll, joined]
      rcases meet_cases faults.head?.join piece.toUTF8.toList with
        whole | ⟨fault, part, rest, met, cut, split, unfinished⟩
      · rw [whole]
        rcases ih faults.tail with all | ⟨fault, part, rest, listed, cut, split, unfinished⟩
        · exact .inl (by simp only [all])
        · refine .inr ⟨fault, piece.toUTF8.toList ++ part, rest, List.mem_of_mem_tail listed, ?_,
            ?_, unfinished⟩
          · simp only [cut]
          · rw [List.append_assoc, split]
      · have listed : some fault ∈ faults := by
          rw [Option.join_eq_some_iff] at met
          exact List.mem_of_mem_head? met
        rw [cut]
        refine .inr ⟨fault, part, rest ++ (String.join pieces).toUTF8.toList, listed, rfl, ?_, ?_⟩
        · rw [← List.append_assoc, split]
        · exact List.append_ne_nil_of_left_ne_nil unfinished _

end Outlet

namespace Watch

/-- The pieces that are written make up the line. -/
theorem join_pieces (named : Topic × String) :
    String.join [named.1.lineStart, named.2, "\n"] = lineFor named ++ "\n" := by
  simp [lineFor, String.append_assoc]

/-- How watching stands when the session says that it is over. -/
def afterClosed : Option String → WatchState
  | none => .done
  | some reason => .failed (.sessionLost reason)

/-- Watching has ended because writing failed. -/
def Broken (watch : Watch) : Prop :=
  ∃ cause, watch.state = .failed (.output cause)

theorem not_broken_of_running {watch : Watch} (running : watch.state = .running) :
    ¬watch.Broken := by
  rintro ⟨cause, failed⟩
  cases running.symm.trans failed

/-- Everything that an input can do to a watch, and what is asked of the session then. -/
inductive Turned (watch : Watch) : Input → Watch → List Request → Prop where
  | ended {input : Input} (ended : watch.state ≠ .running) : Turned watch input watch []
  /-- A shutdown was asked for before. -/
  | again (running : watch.state = .running) (shut : watch.shuttingDown = true) :
      Turned watch .shutdown watch []
  | shut (running : watch.state = .running) (first : watch.shuttingDown = false) :
      Turned watch .shutdown { watch with handle := none, shuttingDown := true }
        (if watch.handle.isSome then [.disconnect] else [])
  | welcomed {handle : Handle} {server : Option String} {outlet : Outlet}
      (running : watch.state = .running) (held : watch.handle = some handle) :
      Turned watch (.event (.connected server) outlet)
        { watch with handle := some (afterSubscriptions handle) }
        ((subscriptions handle).map .subscribe)
  /-- The session says that it was accepted after it was asked to end. -/
  | late {server : Option String} {outlet : Outlet} (running : watch.state = .running)
      (free : watch.handle = none) : Turned watch (.event (.connected server) outlet) watch []
  | wrote {event : SessionEvent} {outlet : Outlet} {named : Topic × String}
      (running : watch.state = .running) (names : event.named? = some named) :
      Turned watch (.event event outlet)
        { watch with written := watch.written ++ (lineFor named ++ "\n").toUTF8.toList } []
  /-- A write of the line fails, or the flush behind it. -/
  | broke {event : SessionEvent} {outlet : Outlet} {named : Topic × String} {cause : String}
      {part rest : List UInt8} (running : watch.state = .running)
      (names : event.named? = some named) (fails : outlet.FailsFor cause)
      (split : part ++ rest = (lineFor named ++ "\n").toUTF8.toList) :
      Turned watch (.event event outlet)
        { watch with
          handle := none
          written := watch.written ++ part
          state := .failed (.output cause) } []
  | closed {reason : Option String} {outlet : Outlet} (running : watch.state = .running) :
      Turned watch (.event (.closed reason) outlet)
        { watch with handle := none, state := afterClosed reason } []
  | silenced (running : watch.state = .running) :
      Turned watch .silence { watch with handle := none, state := .done } []

/-- A line gets out in whole, or the watch ends with the front of it. -/
theorem turned_writeLine (watch : Watch) (running : watch.state = .running) {event : SessionEvent}
    {named : Topic × String} (names : event.named? = some named) (outlet : Outlet) :
    Turned watch (.event event outlet)
      (watch.writeLine outlet [named.1.lineStart, named.2, "\n"]) [] := by
  rw [writeLine, Outlet.writeLine]
  rcases Outlet.writeAll_cases outlet.writes [named.1.lineStart, named.2, "\n"] with
    whole | ⟨fault, part, rest, listed, cut, split, unfinished⟩
  · rw [whole, join_pieces]
    cases flushed : outlet.flush with
    | none => exact .wrote running names
    | some cause => exact .broke running names (.inr flushed) (List.append_nil _)
  · rw [cut]
    rw [join_pieces] at split
    exact .broke running names (.inl ⟨fault.after, listed⟩) split

/-- Every event is taken as its kind says. -/
theorem turned_take (watch : Watch) (running : watch.state = .running) (outlet : Outlet)
    (event : SessionEvent) :
    Turned watch (.event event outlet) (watch.take outlet event).1 (watch.take outlet event).2 := by
  cases event with
  | connected server =>
      rw [take.eq_def]
      cases held : watch.handle with
      | some handle => exact .welcomed running held
      | none => exact .late running held
  | block block =>
      have names : (SessionEvent.block block).named? = some (.blocks, block.hash) := rfl
      exact turned_writeLine watch running names outlet
  | transaction transaction =>
      have names : (SessionEvent.transaction transaction).named? =
          some (.transactions, transaction.txHash) := rfl
      exact turned_writeLine watch running names outlet
  | closed reason => cases reason <;> exact .closed running

/-- Every turn is one of those that `Turned` lists. -/
theorem turned (watch : Watch) (input : Input) :
    Turned watch input (watch.turn input).1 (watch.turn input).2 := by
  by_cases running : watch.state = .running
  · rcases watch with ⟨handle, shuttingDown, written, state⟩
    cases running
    cases input with
    | shutdown =>
        cases shuttingDown with
        | false => exact .shut rfl rfl
        | true => exact .again rfl rfl
    | event event outlet => exact turned_take _ rfl outlet event
    | silence => exact .silenced rfl
  · rw [turn.eq_def]
    split
    · exact absurd ‹_› running
    · exact absurd ‹_› running
    · exact absurd ‹_› running
    · exact .ended running

end Watch

end LedgerBoard
