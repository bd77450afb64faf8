import LedgerBoard.Proofs.Outcome
import LedgerBoard.Proofs.Text.Position
import LedgerBoard.Proofs.Toml.Places
import LedgerBoard.Settings.Document

/-!
# Where settings are at fault

The line and the column of a fault lead back to the place at which reading found it: the lines
before that line, each with its line feed, and the octets before that column are what stands in
front of the place.
-/

namespace LedgerBoard

open Toml

variable {whole : List Char}

theorem Toml.Node.LiesIn.place?_in {node : Node} (lies : node.LiesIn whole) :
    ∀ start ∈ node.place?, start <:+ whole := by
  cases lies with
  | scalar place_in => simpa [Node.place?] using place_in
  | array place_in items_in => simpa [Node.place?] using place_in
  | table place_in keys_in nodes_in => exact place_in
  | @elements tables tables_in =>
      cases tables with
      | nil => exact nofun
      | cons first others =>
          cases tables_in first List.mem_cons_self with
          | table place_in keys_in nodes_in => exact place_in
          | _ => exact nofun

theorem Toml.Node.LiesIn.getD_place? {node : Node} (lies : node.LiesIn whole) {place : Place}
    (place_in : place <:+ whole) : node.place?.getD place <:+ whole := by
  cases own : node.place? with
  | none => exact place_in
  | some start => exact lies.place?_in start own

namespace SettingKey

variable {α β : Type} {keys : List (SettingKey α)}

/-- A setting whose faults are found where it is written. -/
def FaultsWithin (whole : List Char) (setting : SettingKey α) : Prop :=
  ∀ start place node misfit, place <:+ whole → node.LiesIn whole →
    setting.set start place node = .error misfit →
    misfit.place <:+ whole

theorem ofText_faultsWithin (name : String) (set : α → String → α) :
    (ofText name set).FaultsWithin whole := by
  intro start place node misfit place_in node_in failed
  simp only [ofText] at failed
  split at failed
  · cases failed
  · cases failed
    exact place_in

theorem ofCount_faultsWithin (name : String) (set : α → Nat → α) :
    (ofCount name set).FaultsWithin whole := by
  intro start place node misfit place_in node_in failed
  simp only [ofCount] at failed
  split at failed
  · split at failed
    · cases failed
    · cases failed
      exact place_in
  · cases failed
    exact place_in

/-- What is wrong with the entries of a table lies within the document. -/
theorem readEntries_faultsWithin (keys_within : ∀ setting ∈ keys, setting.FaultsWithin whole)
    {start : α} {entries : Entries} (entries_in : entries.LieIn whole) {misfit : Misfit}
    (failed : readEntries keys start entries = .error misfit) : misfit.place <:+ whole := by
  obtain ⟨⟨key, node⟩, mem, between, step⟩ := Outcome.exists_step_of_foldlM_error failed
  obtain ⟨key_in, node_in⟩ := entries_in _ mem
  simp only at step
  split at step
  · rename_i setting known
    exact keys_within setting (List.mem_of_find?_eq_some known) _ _ _ _ (node_in.getD_place? key_in)
      node_in step
  · cases step

theorem readItems_faultsWithin (keys_within : ∀ setting ∈ keys, setting.FaultsWithin whole)
    {start : α} {place : Place} (place_in : place <:+ whole) {items : List Node}
    (items_in : ∀ item ∈ items, item.LiesIn whole) {misfit : Misfit}
    (failed : readItems keys start place items = .error misfit) : misfit.place <:+ whole := by
  obtain ⟨⟨setting, node⟩, mem, between, step⟩ := Outcome.exists_step_of_foldlM_error failed
  obtain ⟨setting_mem, node_mem⟩ := List.of_mem_zip mem
  have node_in := items_in node node_mem
  exact keys_within setting setting_mem _ _ _ _ (node_in.getD_place? place_in) node_in step

/-- What is wrong with a section lies within the document. -/
theorem ofSection_faultsWithin (name title : String)
    (keys_within : ∀ setting ∈ keys, setting.FaultsWithin whole) (start : α) (set : β → α → β) :
    (ofSection name title keys start set).FaultsWithin whole := by
  intro before place node misfit place_in node_in failed
  have inner_failed := Outcome.map_eq_error_iff.mp failed
  split at inner_failed
  · exact readEntries_faultsWithin keys_within (Entries.LieIn.of_table node_in).2 inner_failed
  · cases node_in with
    | array array_in items_in =>
        exact readItems_faultsWithin keys_within place_in items_in inner_failed
  · cases node_in with
    | elements tables_in => exact readItems_faultsWithin keys_within place_in tables_in inner_failed
  · cases inner_failed
  · cases inner_failed
    exact place_in

end SettingKey

theorem LogLevel.ofName_faultsWithin {place : Place} {name : String} {misfit : Misfit}
    (place_in : place <:+ whole) (failed : LogLevel.ofName place name = .error misfit) :
    misfit.place <:+ whole := by
  rw [LogLevel.ofName] at failed
  split at failed
  · cases failed
  · cases failed
    exact place_in

theorem checkEmptyChoice_faultsWithin {place : Place} {node : Node} {misfit : Misfit}
    (place_in : place <:+ whole) (node_in : node.LiesIn whole)
    (failed : checkEmptyChoice place node = .error misfit) : misfit.place <:+ whole := by
  have here_in := node_in.getD_place? place_in
  simp only [checkEmptyChoice] at failed
  split at failed
  all_goals cases failed
  all_goals exact here_in

theorem LogLevel.ofNode_faultsWithin {place : Place} {node : Node} {misfit : Misfit}
    (place_in : place <:+ whole) (node_in : node.LiesIn whole)
    (failed : LogLevel.ofNode place node = .error misfit) : misfit.place <:+ whole := by
  rw [LogLevel.ofNode.eq_def] at failed
  split at failed
  · exact ofName_faultsWithin place_in failed
  · cases failed
    exact place_in
  · rename_i key inner
    obtain ⟨key_in, inner_in⟩ := (Entries.LieIn.of_table node_in).2 (key, inner) List.mem_cons_self
    rcases Outcome.bind_eq_error_iff.mp failed with failed | ⟨level, -, failed⟩
    · exact ofName_faultsWithin key_in failed
    · rcases Outcome.bind_eq_error_iff.mp failed with failed | ⟨checked, -, impossible⟩
      · exact checkEmptyChoice_faultsWithin place_in inner_in failed
      · cases impossible
  · cases failed
    exact place_in
  · cases failed
    exact place_in

theorem LogSettings.level_faultsWithin : SettingKey.FaultsWithin whole
    { name := "level"
      set := fun (log : LogSettings) place node =>
        (LogLevel.ofNode place node).map fun level => { log with level } } := by
  intro start place node misfit place_in node_in failed
  exact LogLevel.ofNode_faultsWithin place_in node_in (Outcome.map_eq_error_iff.mp failed)

theorem Settings.keys_faultWithin : ∀ setting ∈ Settings.keys, setting.FaultsWithin whole := by
  have server : ∀ setting ∈ ServerSettings.keys, setting.FaultsWithin whole := by
    simp only [ServerSettings.keys, List.forall_mem_cons]
    exact ⟨SettingKey.ofText_faultsWithin _ _, SettingKey.ofText_faultsWithin _ _, nofun⟩
  have display : ∀ setting ∈ DisplaySettings.keys, setting.FaultsWithin whole := by
    simp only [DisplaySettings.keys, List.forall_mem_cons]
    exact ⟨SettingKey.ofText_faultsWithin _ _, SettingKey.ofCount_faultsWithin _ _, nofun⟩
  have log : ∀ setting ∈ LogSettings.keys, setting.FaultsWithin whole := by
    simp only [LogSettings.keys, List.forall_mem_cons]
    exact ⟨LogSettings.level_faultsWithin, SettingKey.ofText_faultsWithin _ _, nofun⟩
  simp only [Settings.keys, List.forall_mem_cons]
  exact ⟨SettingKey.ofSection_faultsWithin _ _ server _ _,
    SettingKey.ofSection_faultsWithin _ _ display _ _,
    SettingKey.ofSection_faultsWithin _ _ log _ _, nofun⟩

/-- The line and the column that a fault names. -/
def DocumentFault.position : DocumentFault → Nat × Nat
  | malformed line column => (line, column)
  | mismatch line column _ => (line, column)

/-- A place at which reading settings from a text stops. -/
inductive Settings.StopsAt (text : List Char) : Place → Prop where
  | malformed {place : Place} (failed : readDocument text = .error place) : StopsAt text place
  | misfit {entries : Entries} {misfit : Misfit} (read : readDocument text = .ok entries)
      (failed : SettingKey.readEntries Settings.keys {} entries = .error misfit) :
        StopsAt text misfit.place

/-- Reading stops at a place in the text. -/
theorem Settings.StopsAt.suffix {text : List Char} {place : Place}
    (stops : Settings.StopsAt text place) :
    place <:+ text := by
  cases stops with
  | malformed failed => exact (readDocument_staysIn text).2 _ failed
  | misfit read failed =>
      have entries_in := (readDocument_staysIn text).1 _ read
      exact SettingKey.readEntries_faultsWithin Settings.keys_faultWithin entries_in failed

/-- A fault of a document has a place, and its position is the position of that place. -/
theorem Settings.exists_stopsAt_of_ofDocument {text : List Char} {fault : DocumentFault}
    (failed : Settings.ofDocument text = .error fault) :
    ∃ place, Settings.StopsAt text place ∧ fault.position = positionOf text place := by
  rw [Settings.ofDocument] at failed
  split at failed
  · rename_i place document_failed
    cases failed
    exact ⟨place, .malformed document_failed, rfl⟩
  · rename_i entries read
    split at failed
    · cases failed
    · rename_i misfit entries_failed
      cases failed
      exact ⟨misfit.place, .misfit read entries_failed, rfl⟩

section Positions

variable {text before place : List Char} {offset : Nat}

/-- The position of a place points at it. -/
theorem positionOf_pointsAt (cut : Text.splitOctets? offset text = some (before, place)) :
    Text.PointsAt text offset (positionOf text place).1 (positionOf text place).2 := by
  obtain ⟨rfl, rfl⟩ := Text.splitOctets?_eq_some_iff.mp cut
  exact Text.pointsAt_positionBefore before place

/-- The column is told by the distance from the start of the line, which lies in front of the
place. -/
theorem positionOf_eq (cut : Text.splitOctets? offset text = some (before, place)) :
    positionOf text place = (Text.lineFeeds before + 1, offset - Text.lineStart before + 1) := by
  obtain ⟨rfl, rfl⟩ := Text.splitOctets?_eq_some_iff.mp cut
  have distance : Text.octets (Text.lastLine before) = Text.octets before - Text.lineStart before :=
    Nat.eq_sub_of_add_eq' (Text.lineStart_add_lastLine before)
  rw [positionOf, Text.positionBefore, Text.readBefore_append, Text.endPosition, distance]

/-- Wherever a text can be cut, the line and the column of the cut lead back to its offset: the
lines before that line, each with its line feed, and the octets before that column, among which is
no line feed, are what stands in front of the cut. The start of the line, told by the last line feed
alone, is never behind the cut, and no two cuts have the same position. A fault in settings is
reported with the position of a cut, the one at which reading stopped. -/
theorem Settings.positions_lead_back_to_faults (text : List Char) :
    (∀ offset before place, Text.splitOctets? offset text = some (before, place) →
      Text.PointsAt text offset (positionOf text place).1 (positionOf text place).2 ∧
      Text.lineStart before ≤ offset ∧
      positionOf text place = (Text.lineFeeds before + 1, offset - Text.lineStart before + 1)) ∧
    (∀ first before place second before' place',
      Text.splitOctets? first text = some (before, place) →
      Text.splitOctets? second text = some (before', place') → first ≠ second →
      positionOf text place ≠ positionOf text place') ∧
    (∀ fault, Settings.ofDocument text = .error fault →
      ∃ offset before place, Text.splitOctets? offset text = some (before, place) ∧
        Settings.StopsAt text place ∧ fault.position = positionOf text place) := by
  refine ⟨?_, ?_, ?_⟩
  · intro offset before place cut
    refine ⟨positionOf_pointsAt cut, ?_, positionOf_eq cut⟩
    rw [← (Text.splitOctets?_eq_some_iff.mp cut).2]
    exact Text.lineStart_le before
  · intro first before place second before' place' cut other_cut differ same
    have points := positionOf_pointsAt cut
    rw [same] at points
    exact differ (points.unique (positionOf_pointsAt other_cut))
  · intro fault failed
    obtain ⟨place, stops, position_eq⟩ := Settings.exists_stopsAt_of_ofDocument failed
    obtain ⟨before, split⟩ := stops.suffix
    exact ⟨_, before, place, Text.splitOctets?_eq_some_iff.mpr ⟨split.symm, rfl⟩, stops,
      position_eq⟩

/-- A number stands for a text on the second line, behind a character of two octets. -/
theorem Settings.positions_lead_back_to_faults_on_second_line :
    ∃ text before place, text = "\r\nlog=\x7b\"é\"=0,file=1\x7d".toList ∧
      Settings.ofDocument text = .error (.mismatch 2 18 (.wrongType (.integer 1) "a string")) ∧
      Text.splitOctets? 19 text = some (before, place) ∧ Settings.StopsAt text place ∧
      Text.PointsAt text 19 2 18 ∧ Text.lineStart before ≤ 19 ∧
      positionOf text place ≠ positionOf text text := by
  obtain ⟨text, text_eq⟩ : ∃ text, text = "\r\nlog=\x7b\"é\"=0,file=1\x7d".toList := ⟨_, rfl⟩
  have failed :
      Settings.ofDocument text = .error (.mismatch 2 18 (.wrongType (.integer 1) "a string")) := by
    rw [text_eq]
    decide +kernel
  obtain ⟨leads, distinct, reported⟩ := Settings.positions_lead_back_to_faults text
  obtain ⟨offset, before, place, cut, stops, same⟩ := reported _ failed
  obtain ⟨points, start, -⟩ := leads offset before place cut
  rw [← same] at points
  have offset_eq : offset = 19 := by
    rw [points.offset_eq, text_eq]
    decide +kernel
  subst offset_eq
  have start_cut : Text.splitOctets? 0 text = some ([], text) :=
    Text.splitOctets?_eq_some_iff.mpr ⟨rfl, rfl⟩
  have apart := distinct 19 before place 0 [] text cut start_cut (by decide)
  exact ⟨text, before, place, text_eq, failed, cut, stops, points, start, apart⟩

end Positions

end LedgerBoard
