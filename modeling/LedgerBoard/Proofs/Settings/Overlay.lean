import Mathlib.Logic.Function.Basic
import LedgerBoard.Files.Tree
import LedgerBoard.Proofs.Text.Decoding
import LedgerBoard.Proofs.Toml.Document
import LedgerBoard.Proofs.Toml.Holdings
import LedgerBoard.Settings.Store

/-!
# Settings lie over their defaults

A settings document that chooses some of the settings gives exactly these values, and the default of
every other setting, however the document is written and whatever else it says.
-/

namespace LedgerBoard

open Toml

namespace SettingKey

variable {α β : Type} {keys : List (SettingKey α)} {entries : Entries}

/-- What is read from entries is built from the values that their names stand for. The order of the
entries does not matter, because no name comes twice. -/
theorem readEntries_eq (build : (String → β) → α) (given : String → β)
    (distinct : (entries.map fun entry => entry.1.name).Nodup)
    (names_only : ∀ first second, (∀ setting ∈ keys, first setting.name = second setting.name) →
      build first = build second)
    (sets : ∀ setting ∈ keys, ∀ node, entries.node? setting.name = some node → ∀ known here,
      setting.set (build known) here node =
        .ok (build (Function.update known setting.name (given setting.name))))
    (known : String → β) :
    readEntries keys (build known) entries =
      .ok (build fun name => if (entries.node? name).isSome then given name else known name) := by
  induction entries generalizing known with
  | nil => rfl
  | cons entry entries ih =>
      rw [List.map_cons, List.nodup_cons] at distinct
      rcases distinct with ⟨fresh, distinct⟩
      have missing : Entries.node? entries entry.1.name = none := by
        rw [Entries.node?_eq_none_iff]
        intro other mem same
        exact fresh (List.mem_map.mpr ⟨other, mem, same⟩)
      have others : ∀ known, readEntries keys (build known) entries =
          .ok
            (build fun name => if (Entries.node? entries name).isSome then given name
              else known name) := by
        apply ih distinct
        intro setting mem node found
        apply sets setting mem node
        rw [Entries.node?_cons, if_neg, found]
        intro same
        rw [← same, missing] at found
        cases found
      cases found : keys.find? fun setting : SettingKey α => setting.name == entry.1.name with
      | none =>
          simp only [readEntries, List.foldlM_cons, found]
          refine (others known).trans (congrArg Except.ok (names_only _ _ ?_))
          intro setting mem
          have unnamed := List.find?_eq_none.mp found setting mem
          have other : ¬entry.1.name = setting.name :=
            fun same => unnamed (beq_iff_eq.mpr same.symm)
          rw [Entries.node?_cons, if_neg other]
      | some setting =>
          have named : setting.name = entry.1.name := by simpa using List.find?_some found
          have listed := List.mem_of_find?_eq_some found
          have set :=
            sets setting listed entry.2 (by rw [Entries.node?_cons, if_pos named.symm]) known
            (entry.2.place?.getD entry.1.place)
          simp only [readEntries, List.foldlM_cons, found, set]
          refine (others _).trans (congrArg Except.ok (names_only _ _ ?_))
          intro other mem
          rw [Entries.node?_cons, named]
          by_cases same : entry.1.name = other.name
          · rw [if_pos same, ← same, missing, Function.update_self]
            rfl
          · rw [if_neg same, Function.update_of_ne (Ne.symm same)]

end SettingKey

/-- Which settings are chosen, and as what. -/
structure Choice where
  url : Option String := none
  heartbeat : Option String := none
  tickRate : Option String := none
  maxRows : Option Nat := none
  level : Option LogLevel := none
  file : Option String := none

namespace Choice

/-- The chosen settings over the defaults. -/
def settings (choice : Choice) : Settings :=
  let defaults : Settings := {}
  { server :=
      { url := choice.url.getD defaults.server.url
        heartbeat := choice.heartbeat.getD defaults.server.heartbeat }
    display :=
      { tickRate := choice.tickRate.getD defaults.display.tickRate
        maxRows := choice.maxRows.getD defaults.display.maxRows }
    log :=
      { level := choice.level.getD defaults.log.level
        file := choice.file.getD defaults.log.file } }

def sections : List String := ["server", "tui", "log"]

/-- Every setting by its section and key, with the scalar that it is chosen as. -/
def entries (choice : Choice) : List ((String × String) × Option Scalar) :=
  [(("server", "url"), choice.url.map .text), (("server", "heartbeat"), choice.heartbeat.map .text),
    (("tui", "tick_rate"), choice.tickRate.map .text),
    (("tui", "max_rows"), choice.maxRows.map fun count => .integer (.ofNat count)),
    (("log", "level"), choice.level.map fun level => .text level.name),
    (("log", "file"), choice.file.map .text)]

/-- The statements set exactly the chosen settings. They mention no section as anything but a table,
and at or below a setting nothing but the scalar that it is chosen as. -/
structure SetExactly (choice : Choice) (statements : List Statement) : Prop where
  tables : ∀ name ∈ sections, ∀ mention ∈ mentions statements, mention.1 = [name] →
    mention.2 = .table
  nothing_else : ∀ entry ∈ choice.entries, ∀ mention ∈ mentions statements,
    [entry.1.1, entry.1.2] <+: mention.1 → mention.1 = [entry.1.1, entry.1.2] ∧
      ∃ scalar ∈ entry.2, mention.2 = .scalar scalar
  all_set : ∀ entry ∈ choice.entries, ∀ scalar ∈ entry.2,
    ([entry.1.1, entry.1.2], .scalar scalar) ∈ mentions statements

end Choice

/-- The entries of the table of a name, or none. -/
def tableOf (entries : Entries) (name : String) : Entries :=
  match entries.node? name with
  | some (.table _ _ inner) => inner
  | _ => []

/-- A name stands for a scalar or for nothing. -/
def Gives (entries : Entries) (name : String) : Option Scalar → Prop
  | none => entries.node? name = none
  | some scalar => ∃ place, entries.node? name = some (.scalar place scalar)

namespace Choice.SetExactly

variable {choice : Choice} {statements : List Statement} {tree : Entries}
  {entry : (String × String) × Option Scalar} {node : Node}

/-- A section of the tree is a table. -/
theorem section_table (exactly : choice.SetExactly statements)
    (stem : Entries.Stem (mentions statements) [] tree) {name : String} (listed : name ∈ sections)
    (found : tree.node? name = some node) :
    ∃ place origin inner, node = .table place origin inner ∧
    Entries.Stem (mentions statements) [name] inner := by
  have stems := stem.node_at found
  cases stems with
  | scalar mentioned => cases exactly.tables name listed _ mentioned rfl
  | array mentioned => cases exactly.tables name listed _ mentioned rfl
  | elements mentioned => cases exactly.tables name listed _ mentioned rfl
  | table mentioned distinct inner => exact ⟨_, _, _, rfl, distinct, inner⟩

/-- The entries of a section stem from what was said of it. -/
theorem tableOf_stem (exactly : choice.SetExactly statements)
    (stem : Entries.Stem (mentions statements) [] tree) {name : String} (listed : name ∈ sections) :
    Entries.Stem (mentions statements) [name] (tableOf tree name) := by
  cases found : tree.node? name with
  | none =>
      rw [tableOf, found]
      exact .nil
  | some node =>
      obtain ⟨place, origin, inner, rfl, inner_stem⟩ := exactly.section_table stem listed found
      rw [tableOf, found]
      exact inner_stem

/-- What stems from mentions at a setting is the scalar that the setting is chosen as. -/
theorem scalar_of_stems (exactly : choice.SetExactly statements) (listed : entry ∈ choice.entries)
    (stems : node.Stems (mentions statements) [entry.1.1, entry.1.2]) :
    ∃ place scalar, node = .scalar place scalar ∧ entry.2 = some scalar := by
  have nothing_else := exactly.nothing_else entry listed
  cases stems with
  | scalar mentioned =>
      obtain ⟨-, scalar, chosen, ⟨rfl⟩⟩ := nothing_else _ mentioned List.prefix_rfl
      exact ⟨_, _, rfl, chosen⟩
  | array mentioned =>
      obtain ⟨-, scalar, -, same⟩ := nothing_else _ mentioned List.prefix_rfl
      cases same
  | elements mentioned =>
      obtain ⟨-, scalar, -, same⟩ := nothing_else _ mentioned List.prefix_rfl
      cases same
  | table mentioned =>
      obtain ⟨mention, mem, below, only_table⟩ := mentioned
      obtain ⟨at_path, scalar, -, same⟩ := nothing_else _ mem below
      cases (only_table at_path).symm.trans same

/-- A setting stands in its section for what it is chosen as. -/
theorem gives (exactly : choice.SetExactly statements) (made : tree? statements = some tree)
    (listed : entry ∈ choice.entries) : Gives (tableOf tree entry.1.1) entry.1.2 entry.2 := by
  have stem := tree_stems made
  have known : entry.1.1 ∈ sections := by
    simp only [Choice.entries, List.mem_cons, List.not_mem_nil, or_false] at listed
    rcases listed with rfl | rfl | rfl | rfl | rfl | rfl <;> simp [sections]
  have section_stem := exactly.tableOf_stem stem known
  have only_scalar : ∀ node, (tableOf tree entry.1.1).node? entry.1.2 = some node →
      ∃ place scalar, node = .scalar place scalar ∧ entry.2 = some scalar :=
    fun node found => exactly.scalar_of_stems listed (section_stem.node_at found)
  cases chosen : entry.2 with
  | none =>
      rw [Gives, Option.eq_none_iff_forall_not_mem]
      intro node found
      obtain ⟨place, scalar, -, set⟩ := only_scalar node found
      cases chosen.symm.trans set
  | some scalar =>
      obtain ⟨name, rest, node, ⟨rfl, rfl⟩, found, holds⟩ :=
        tree_holds made (exactly.all_set entry listed scalar chosen)
      obtain ⟨place, origin, inner, rfl, -⟩ := exactly.section_table stem known found
      obtain ⟨key, rest, setting, ⟨rfl, rfl⟩, at_key, setting_holds⟩ :=
        Entries.holds_table_iff.mp holds
      have same_table : tableOf tree entry.1.1 = inner := by rw [tableOf, found]
      obtain ⟨place, other, rfl, set⟩ := only_scalar setting (by rw [same_table, at_key])
      cases chosen.symm.trans set
      exact ⟨place, by rw [same_table, at_key]⟩

end Choice.SetExactly

theorem tableOf_unplaced (entries : Entries) (name : String) :
    tableOf (Entries.unplaced entries) name = Entries.unplaced (tableOf entries name) := by
  rw [tableOf, Entries.node?_unplaced, tableOf]
  cases entries.node? name with
  | none => rfl
  | some node => cases node <;> rfl

theorem Gives.of_unplaced {entries : Entries} {name : String} {chosen : Option Scalar}
    (gives : Gives (Entries.unplaced entries) name chosen) : Gives entries name chosen := by
  cases chosen with
  | none => simpa [Gives, Entries.node?_unplaced] using gives
  | some scalar =>
      obtain ⟨place, found⟩ := gives
      rw [Entries.node?_unplaced] at found
      obtain ⟨node, at_name, same⟩ := Option.map_eq_some_iff.mp found
      cases node with
      | scalar place value =>
          cases same
          exact ⟨place, at_name⟩
      | _ => cases same

theorem Gives.scalar {entries : Entries} {name : String} {chosen : Option Scalar} {node : Node}
    (gives : Gives entries name chosen) (found : entries.node? name = some node) :
    ∃ place scalar, node = .scalar place scalar ∧ chosen = some scalar := by
  cases chosen with
  | none => cases gives.symm.trans found
  | some scalar =>
      obtain ⟨place, at_name⟩ := gives
      cases at_name.symm.trans found
      exact ⟨place, scalar, rfl, rfl⟩

theorem Gives.found {entries : Entries} {name : String} {chosen : Option Scalar}
    (gives : Gives entries name chosen) :
    (if (entries.node? name).isSome then chosen else none) = chosen := by
  cases chosen with
  | none => exact ite_self none
  | some scalar =>
      obtain ⟨place, at_name⟩ := gives
      rw [at_name]
      rfl

/-- A section with two settings is built from what they are chosen as. -/
theorem SettingKey.readEntries_pair {α : Type} {first second : SettingKey α}
    {build : Option Scalar → Option Scalar → α} {one other : Option Scalar} {entries : Entries}
    (apart : second.name ≠ first.name) (distinct : (entries.map fun entry => entry.1.name).Nodup)
    (first_given : Gives entries first.name one) (second_given : Gives entries second.name other)
    (sets_first : ∀ scalar ∈ one, ∀ known beside here place,
      first.set (build known beside) here (.scalar place scalar) = .ok (build (some scalar) beside))
    (sets_second : ∀ scalar ∈ other, ∀ beside known here place,
      second.set (build beside known) here (.scalar place scalar) =
        .ok (build beside (some scalar))) :
    readEntries [first, second] (build none none) entries = .ok (build one other) := by
  let whole (known : String → Option Scalar) : α := build (known first.name) (known second.name)
  let given (name : String) : Option Scalar := if name = first.name then one else other
  have names_only : ∀ known beside : String → Option Scalar,
      (∀ setting ∈ [first, second], known setting.name = beside setting.name) →
      whole known = whole beside := by
    intro known beside same
    simp only [whole, same first (by simp), same second (by simp)]
  have sets : ∀ setting ∈ [first, second], ∀ node, entries.node? setting.name = some node →
      ∀ known here,
      setting.set (whole known) here node =
        .ok (whole (Function.update known setting.name (given setting.name))) := by
    simp only [List.forall_mem_cons]
    refine ⟨?_, ?_, nofun⟩
    · intro node found known here
      obtain ⟨place, scalar, rfl, rfl⟩ := first_given.scalar found
      simp [whole, given, sets_first scalar rfl, Function.update_of_ne apart]
    · intro node found known here
      obtain ⟨place, scalar, rfl, rfl⟩ := second_given.scalar found
      simp [whole, given, sets_second scalar rfl, apart, Function.update_of_ne (Ne.symm apart)]
  have read : readEntries [first, second] (whole fun _ => none) entries =
      .ok (whole fun name => if (entries.node? name).isSome then given name else none) :=
    readEntries_eq whole given distinct names_only sets fun _ => none
  refine read.trans (congrArg Except.ok ?_)
  simp only [whole, given, if_true, apart, if_false, first_given.found, second_given.found]

def textOr (default : String) : Option Scalar → String
  | some (.text value) => value
  | _ => default

def countOr (default : Nat) : Option Scalar → Nat
  | some (.integer value) => value.toNat
  | _ => default

def levelOr (default : LogLevel) : Option Scalar → LogLevel
  | some (.text name) => (LogLevel.ofName? name).getD default
  | _ => default

namespace Choice

variable {choice : Choice} {entries : Entries}

theorem textOr_map (chosen : Option String) (default : String) :
    textOr default (chosen.map .text) = chosen.getD default := by
  cases chosen <;> rfl

theorem countOr_map (chosen : Option Nat) (default : Nat) :
    countOr default (chosen.map fun count => .integer (.ofNat count)) = chosen.getD default := by
  cases chosen <;> rfl

theorem levelOr_map (chosen : Option LogLevel) (default : LogLevel) :
    levelOr default (chosen.map fun level => .text level.name) = chosen.getD default := by
  cases chosen with
  | none => rfl
  | some level => cases level <;> rfl

theorem read_server (distinct : (entries.map fun entry => entry.1.name).Nodup)
    (url : Gives entries "url" (choice.url.map .text))
    (heartbeat : Gives entries "heartbeat" (choice.heartbeat.map .text)) :
    SettingKey.readEntries ServerSettings.keys {} entries = .ok choice.settings.server := by
  let build (url heartbeat : Option Scalar) : ServerSettings :=
    { url := textOr "ws://127.0.0.1:8080" url, heartbeat := textOr "10s" heartbeat }
  have read : SettingKey.readEntries ServerSettings.keys (build none none) entries =
      .ok (build (choice.url.map .text) (choice.heartbeat.map .text)) := by
    refine SettingKey.readEntries_pair ?_ distinct url heartbeat ?_ ?_
    · decide
    · intro scalar set known beside here place
      obtain ⟨value, -, rfl⟩ := Option.map_eq_some_iff.mp set
      rfl
    · intro scalar set known beside here place
      obtain ⟨value, -, rfl⟩ := Option.map_eq_some_iff.mp set
      rfl
  exact read.trans (by simp only [build, textOr_map]; rfl)

theorem read_display (distinct : (entries.map fun entry => entry.1.name).Nodup)
    (tick_rate : Gives entries "tick_rate" (choice.tickRate.map .text))
    (max_rows : Gives entries "max_rows"
      (choice.maxRows.map fun count => .integer (.ofNat count))) :
    SettingKey.readEntries DisplaySettings.keys {} entries = .ok choice.settings.display := by
  let build (tickRate maxRows : Option Scalar) : DisplaySettings :=
    { tickRate := textOr "250ms" tickRate, maxRows := countOr 0 maxRows }
  have read : SettingKey.readEntries DisplaySettings.keys (build none none) entries =
      .ok
        (build (choice.tickRate.map .text)
          (choice.maxRows.map fun count => .integer (.ofNat count))) := by
    refine SettingKey.readEntries_pair ?_ distinct tick_rate max_rows ?_ ?_
    · decide
    · intro scalar set known beside here place
      obtain ⟨value, -, rfl⟩ := Option.map_eq_some_iff.mp set
      rfl
    · intro scalar set beside known here place
      obtain ⟨count, -, rfl⟩ := Option.map_eq_some_iff.mp set
      simp [SettingKey.ofCount, build, countOr]
  exact read.trans (by simp only [build, textOr_map, countOr_map]; rfl)

theorem read_log (distinct : (entries.map fun entry => entry.1.name).Nodup)
    (level : Gives entries "level" (choice.level.map fun level => .text level.name))
    (file : Gives entries "file" (choice.file.map .text)) :
    SettingKey.readEntries LogSettings.keys {} entries = .ok choice.settings.log := by
  let build (level file : Option Scalar) : LogSettings :=
    { level := levelOr .info level, file := textOr "" file }
  have read : SettingKey.readEntries LogSettings.keys (build none none) entries =
      .ok (build (choice.level.map fun level => .text level.name) (choice.file.map .text)) := by
    refine SettingKey.readEntries_pair ?_ distinct level file ?_ ?_
    · decide
    · intro scalar set known beside here place
      obtain ⟨level, -, rfl⟩ := Option.map_eq_some_iff.mp set
      cases level <;> rfl
    · intro scalar set known beside here place
      obtain ⟨value, -, rfl⟩ := Option.map_eq_some_iff.mp set
      rfl
  exact read.trans (by simp only [build, textOr_map, levelOr_map]; rfl)

/-- The entries of a document that set what is chosen, and nothing else that is a setting. -/
structure Fits (choice : Choice) (entries : Entries) : Prop where
  distinct : (entries.map fun entry => entry.1.name).Nodup
  tables : ∀ name ∈ sections, ∀ node, entries.node? name = some node →
    ∃ place origin, node = .table place origin (tableOf entries name)
  inner_distinct : ∀ name ∈ sections, ((tableOf entries name).map fun entry => entry.1.name).Nodup
  gives : ∀ entry ∈ choice.entries, Gives (tableOf entries entry.1.1) entry.1.2 entry.2

theorem names_unplaced (entries : Entries) :
    (Entries.unplaced entries).map (fun entry => entry.1.name) =
      entries.map fun entry => entry.1.name := by
  rw [Entries.unplaced_eq_map, List.map_map]
  rfl

/-- Entries that are the tree of a document, up to places, fit what the document sets. -/
theorem fits_of_tree {statements : List Statement} (exactly : choice.SetExactly statements)
    (made : tree? statements = some (Entries.unplaced entries)) : choice.Fits entries := by
  have stem := tree_stems made
  constructor
  · have distinct := stem.distinct
    rwa [names_unplaced] at distinct
  · intro name listed node found
    have at_name := Entries.node?_unplaced entries name
    rw [found] at at_name
    obtain ⟨place, origin, inner, same, -⟩ := exactly.section_table stem listed at_name
    cases node with
    | table place origin inner =>
        refine ⟨place, origin, ?_⟩
        rw [tableOf, found]
    | _ => cases same
  · intro name listed
    have distinct := (exactly.tableOf_stem stem listed).distinct
    rwa [tableOf_unplaced, names_unplaced] at distinct
  · intro entry listed
    have gives := exactly.gives made listed
    rw [tableOf_unplaced] at gives
    exact gives.of_unplaced

/-- The section on the server is read as chosen. -/
theorem Fits.server (fits : choice.Fits entries) :
    SettingKey.readEntries ServerSettings.keys {} (tableOf entries "server") =
      .ok choice.settings.server := by
  apply read_server
  · exact fits.inner_distinct _ (by simp [sections])
  · exact fits.gives (("server", "url"), choice.url.map .text) (by simp [Choice.entries])
  · exact fits.gives (("server", "heartbeat"), choice.heartbeat.map .text)
      (by simp [Choice.entries])

/-- The section on the display is read as chosen. -/
theorem Fits.display (fits : choice.Fits entries) :
    SettingKey.readEntries DisplaySettings.keys {} (tableOf entries "tui") =
      .ok choice.settings.display := by
  apply read_display
  · exact fits.inner_distinct _ (by simp [sections])
  · exact fits.gives (("tui", "tick_rate"), choice.tickRate.map .text) (by simp [Choice.entries])
  · exact fits.gives (("tui", "max_rows"), choice.maxRows.map fun count => .integer (.ofNat count))
      (by simp [Choice.entries])

/-- The section on the log is read as chosen. -/
theorem Fits.log (fits : choice.Fits entries) :
    SettingKey.readEntries LogSettings.keys {} (tableOf entries "log") =
      .ok choice.settings.log := by
  apply read_log
  · exact fits.inner_distinct _ (by simp [sections])
  · exact fits.gives (("log", "level"), choice.level.map fun level => .text level.name)
      (by simp [Choice.entries])
  · exact fits.gives (("log", "file"), choice.file.map .text) (by simp [Choice.entries])

/-- A section that is read from the entries of its table has their value. It has its start as its
value when the table is missing, because that is what no entries are read as. -/
theorem section_value {α : Type} {keys : List (SettingKey α)} {start value : α} {name : String}
    (read : SettingKey.readEntries keys start (tableOf entries name) = .ok value) :
    (if (entries.node? name).isSome then value else start) = value := by
  cases found : entries.node? name with
  | some node => rfl
  | none =>
      rw [tableOf, found] at read
      cases read
      exact ite_self _

/-- Fitting entries are read as the chosen settings over the defaults. -/
theorem Fits.read (fits : choice.Fits entries) :
    SettingKey.readEntries Settings.keys {} entries = .ok choice.settings := by
  let build (known : String → Bool) : Settings :=
    { server := if known "server" then choice.settings.server else {}
      display := if known "tui" then choice.settings.display else {}
      log := if known "log" then choice.settings.log else {} }
  have names_only : ∀ first second : String → Bool,
      (∀ setting ∈ Settings.keys, first setting.name = second setting.name) →
      build first = build second := by
    intro first second same
    simp only [Settings.keys, List.forall_mem_cons, SettingKey.ofSection] at same
    obtain ⟨server, display, log, -⟩ := same
    simp only [build, server, display, log]
  have sets : ∀ setting ∈ Settings.keys, ∀ node, entries.node? setting.name = some node →
      ∀ known here,
      setting.set (build known) here node =
        .ok (build (Function.update known setting.name true)) := by
    simp only [Settings.keys, List.forall_mem_cons]
    refine ⟨?server, ?display, ?log, nofun⟩
    all_goals
      intro node found known here
      obtain ⟨place, origin, rfl⟩ :=
        fits.tables _ (by simp [sections, SettingKey.ofSection]) node found
    case server => simp [SettingKey.ofSection, fits.server, Except.map, build]
    case display => simp [SettingKey.ofSection, fits.display, Except.map, build]
    case log => simp [SettingKey.ofSection, fits.log, Except.map, build]
  have read : SettingKey.readEntries Settings.keys (build fun _ => false) entries =
      .ok (build fun name => if (entries.node? name).isSome then true else false) :=
    SettingKey.readEntries_eq build (fun _ => true) fits.distinct names_only sets fun _ => false
  refine read.trans (congrArg Except.ok ?_)
  simp only [build, Bool.if_false_right, Bool.and_true, Bool.decide_eq_true]
  rw [section_value fits.server, section_value fits.display, section_value fits.log]

end Choice

/-- A document that sets exactly the chosen settings is read as these over the defaults. -/
theorem Choice.SetExactly.ofOctets {choice : Choice} {statements : List Statement} {tree : Entries}
    {text : String} (exactly : choice.SetExactly statements)
    (document : DocumentText statements text.toList) (made : tree? statements = some tree)
    (path : Path) :
    Settings.ofOctets path text.toUTF8.toList = .ok choice.settings := by
  obtain ⟨entries, read, rfl⟩ := document.read made
  have fits := Choice.fits_of_tree exactly made
  simp only [Settings.ofOctets, Text.decode?_toUTF8, Settings.ofDocument, read, fits.read]

/-- Loading reads the file and changes nothing. -/
theorem Settings.run_loadFile {world : World} {path : Path} {octets : List UInt8}
    (file : world.read path = .ok octets) :
    (Settings.loadFile World.disk path).run world = (ofOctets path octets, world) := by
  simp [Settings.loadFile, World.disk, file]
  rfl

theorem World.read_lone_file (octets : List UInt8) :
    World.read ⟨.directory 0 [("c", .file 0 octets)], []⟩ ⟨"c"⟩ = .ok octets := by
  have steps : World.steps ⟨"c"⟩ = ["c"] := by decide
  have sound : World.isSound ⟨"c"⟩ = true := by decide
  simp [World.read, World.status, World.locate, sound, steps]
  rfl

/-- A file whose document sets exactly some of the settings is loaded as these over the defaults. -/
theorem Settings.loadFile_overlays_defaults (world : World) (path : Path) (text : String)
    (statements : List Statement) (choice : Choice)
    (file : world.read path = .ok text.toUTF8.toList)
    (document : DocumentText statements text.toList) (consistent : (tree? statements).isSome)
    (exactly : choice.SetExactly statements) :
    (Settings.loadFile World.disk path).run world = (.ok choice.settings, world) := by
  obtain ⟨tree, made⟩ := Option.isSome_iff_exists.mp consistent
  rw [run_loadFile file, exactly.ofOctets document made]

/-- Neither how a document is written nor what it says of other names matters. -/
theorem Settings.loadFile_overlays_defaults_with_two :
    let text := "tui.max_rows = 0x1F # rows\n[log]\n\"level\" = 'debug'\n[extra]\nurl = []"
    let world : World := ⟨.directory 0 [("c", .file 0 text.toUTF8.toList)], []⟩
    (Settings.loadFile World.disk ⟨"c"⟩).run world =
      (.ok { display := { maxRows := 31 }, log := { level := .debug } }, world) := by
  intro text world
  let statements : List Statement :=
    [.assignment ["tui", "max_rows"] (.scalar (.integer 31)), .header ["log"],
      .assignment ["level"] (.scalar (.text "debug")), .header ["extra"],
      .assignment ["url"] (.array [])]
  let choice : Choice := { maxRows := some 31, level := some .debug }
  have blank : Gap [' '] := by simp [Gap]
  have no_comment : Comment [] := .inl rfl
  have bare {name : String} (some_name : name ≠ "") (all_bare : ∀ c ∈ name.toList, Bare c)
      {after : List Char} (gap_after : Gap after) : KeyText [name] ([] ++ (name.toList ++ after)) :=
    .last .nil (.bare some_name all_bare) gap_after
  have rows : LineText [.assignment ["tui", "max_rows"] (.scalar (.integer 31))]
      "tui.max_rows = 0x1F # rows".toList := by
    have key : KeyText ["tui", "max_rows"] "tui.max_rows ".toList :=
      .more .nil (.bare (by decide) (by simp [Bare])) .nil (bare (by decide) (by simp [Bare]) blank)
    have run : DigitRun 16 [1, 15] "1F".toList :=
      .next (by decide) (by decide) (.one (by decide) (by decide))
    have value : IntegerText 31 ('0' :: 'x' :: "1F".toList) := .based (by simp) run (by decide)
    have comment : Comment ('#' :: " rows".toList) := .inr ⟨_, rfl, by simp [Plain]⟩
    exact .statement .nil (.assignment key (by decide) blank (.scalar (.integer value))) blank
      comment
  have log : LineText [.header ["log"]] "[log]".toList :=
    .statement .nil (.header (bare (by decide) (by simp [Bare]) .nil) (by decide)) .nil no_comment
  have level :
      LineText [.assignment ["level"] (.scalar (.text "debug"))] "\"level\" = 'debug'".toList := by
    have key : KeyPart "level" ('"' :: ("level".toList ++ ['"'])) :=
      .quoted .basic (.of_plain (by simp [StandsForItself, Plain, Quote.mark]))
    have value : TextSpelling "debug".toList ('\'' :: ("debug".toList ++ ['\''])) :=
      .short .literal (.of_plain (by simp [StandsForItself, Plain, Quote.mark]))
    exact .statement .nil
      (.assignment (.last .nil key blank) (by decide) blank (.scalar (.text value))) .nil no_comment
  have extra : LineText [.header ["extra"]] "[extra]".toList :=
    .statement .nil (.header (bare (by decide) (by simp [Bare]) .nil) (by decide)) .nil no_comment
  have url : LineText [.assignment ["url"] (.array [])] "url = []".toList :=
    .statement .nil
      (.assignment (bare (by decide) (by simp [Bare]) blank) (by decide) blank (.noItems .done))
        .nil no_comment
  have document : DocumentText statements text.toList := by
    have lines := LinesText.more rows (.inl rfl) <| .more log (.inl rfl) <|
      .more level (.inl rfl) <|
      .more extra (.inl rfl) <| .last url
    exact .inl (by simpa [text, statements] using lines)
  have exactly : choice.SetExactly statements := by
    constructor <;> decide
  exact Settings.loadFile_overlays_defaults world ⟨"c"⟩ text statements choice
    (World.read_lone_file _) document (by decide) exactly

end LedgerBoard
