import LedgerBoard.Settings.Basic
import LedgerBoard.Shape.Mismatch
import LedgerBoard.Text.Position
import LedgerBoard.Text.Quoted
import LedgerBoard.Toml.Document

/-!
# Settings in a document

A document sets some of the settings; the others keep their defaults, and unknown keys do not count.
A section is a table, or an array of its settings in order. Keys are met in document order, and the
first misfit counts.
-/

namespace LedgerBoard

open Toml

/-- A mismatch and where it was found. -/
structure Misfit where
  place : Place
  cause : Mismatch

/-- What a node is when something else was wanted. -/
def Toml.Node.found : Node → Found
  | .scalar _ (.text value) => .text (Text.quoted value)
  | .scalar _ (.integer value) => .integer value
  | .scalar _ (.fraction written) => .fraction written
  | .scalar _ (.boolean value) => .boolean value
  | .scalar _ .moment => .map
  | .array _ _ => .sequence
  | .elements _ => .sequence
  | .table _ _ _ => .map

/-- A setting of a section: its key, and how its value changes the section. The place is that of the
value, or of the key where the value has none. -/
structure SettingKey (α : Type) where
  name : String
  set : α → Place → Node → Except Misfit α

namespace SettingKey

def ofText {α : Type} (name : String) (set : α → String → α) : SettingKey α where
  name
  set section_ place
    | .scalar _ (.text value) => .ok (set section_ value)
    | node => .error ⟨place, .wrongType node.found "a string"⟩

def ofCount {α : Type} (name : String) (set : α → Nat → α) : SettingKey α where
  name
  set section_ place
    | .scalar _ (.integer value) =>
        if 0 ≤ value then .ok (set section_ value.toNat)
        else .error ⟨place, .wrongValue value "usize"⟩
    | node => .error ⟨place, .wrongType node.found "usize"⟩

def readEntries {α : Type} (keys : List (SettingKey α)) (start : α) (entries : Entries) :
    Except Misfit α :=
  entries.foldlM (fun section_ (key, node) =>
    match keys.find? fun setting => setting.name == key.name with
    | some setting => setting.set section_ (node.place?.getD key.place) node
    | none => .ok section_) start

/-- Sets the settings of a section in order, as long as there are items. -/
def readItems {α : Type} (keys : List (SettingKey α)) (start : α) (place : Place)
    (items : List Node) : Except Misfit α :=
  (keys.zip items).foldlM (fun section_ (setting, node) =>
    setting.set section_ (node.place?.getD place) node) start

/-- A section of settings with the given defaults. A moment sets nothing. -/
def ofSection {α β : Type} (name title : String) (keys : List (SettingKey β)) (start : β)
    (set : α → β → α) : SettingKey α where
  name
  set whole place node :=
    (match node with
    | .table _ _ entries => readEntries keys start entries
    | .array _ items => readItems keys start place items
    | .elements tables => readItems keys start place tables
    | .scalar _ .moment => .ok start
    | _ => .error ⟨place, .wrongType node.found ("struct " ++ title)⟩).map (set whole)

end SettingKey

def LogLevel.ofName (place : Place) (name : String) : Except Misfit LogLevel :=
  match ofName? name with
  | some level => .ok level
  | none => .error ⟨place, .unknownChoice name (all.map (·.name))⟩

/-- Checks that what stands beside the name of a choice is empty. -/
def checkEmptyChoice (place : Place) (node : Node) : Except Misfit Unit :=
  let here := node.place?.getD place
  match node with
  | .table _ _ [] => .ok ()
  | .table _ _ _ => .error ⟨here, .choiceTableFilled⟩
  | .array _ [] => .ok ()
  | .elements [] => .ok ()
  | .array _ _ => .error ⟨here, .choiceArrayFilled⟩
  | .elements _ => .error ⟨here, .choiceArrayFilled⟩
  | .scalar _ (.text _) => .error ⟨here, .choiceNotTable "string"⟩
  | .scalar _ (.integer _) => .error ⟨here, .choiceNotTable "integer"⟩
  | .scalar _ (.fraction _) => .error ⟨here, .choiceNotTable "float"⟩
  | .scalar _ (.boolean _) => .error ⟨here, .choiceNotTable "boolean"⟩
  | .scalar _ .moment => .error ⟨here, .choiceNotTable "datetime"⟩

/-- Reads a level: its name, or a table with its name as the only key. -/
def LogLevel.ofNode (place : Place) : Node → Except Misfit LogLevel
  | .scalar _ (.text name) => ofName place name
  | .table _ _ [] => .error ⟨place, .choiceOfNone⟩
  | .table _ _ [(key, node)] => do
      let level ← ofName key.place key.name
      checkEmptyChoice place node
      return level
  | .table _ _ _ => .error ⟨place, .choiceOfMany⟩
  | _ => .error ⟨place, .choiceNotNamed⟩

def ServerSettings.keys : List (SettingKey ServerSettings) :=
  [.ofText "url" fun server url => { server with url },
    .ofText "heartbeat" fun server heartbeat => { server with heartbeat }]

def DisplaySettings.keys : List (SettingKey DisplaySettings) :=
  [.ofText "tick_rate" fun display tickRate => { display with tickRate },
    .ofCount "max_rows" fun display maxRows => { display with maxRows }]

def LogSettings.keys : List (SettingKey LogSettings) :=
  [{ name := "level"
     set := fun log place node => (LogLevel.ofNode place node).map fun level =>
       { log with level } },
    .ofText "file" fun log file => { log with file }]

def Settings.keys : List (SettingKey Settings) :=
  [.ofSection "server" "ServerConfig" ServerSettings.keys {} fun settings server =>
      { settings with server },
    .ofSection "tui" "TuiConfig" DisplaySettings.keys {} fun settings display =>
      { settings with display },
    .ofSection "log" "LogConfig" LogSettings.keys {} fun settings log => { settings with log }]

/-- Why a text is not a document with settings. -/
inductive DocumentFault where
  /-- The text is no document, from a place on. -/
  | malformed (line column : Nat)
  | mismatch (line column : Nat) (cause : Mismatch)
  deriving DecidableEq, Repr

/-- The line and the column of a place, both counted from one; columns are octets. -/
def positionOf (text : List Char) (place : Place) : Nat × Nat :=
  let (line, before) := Text.positionBefore text place
  (line, before + 1)

def Settings.ofDocument (text : List Char) : Except DocumentFault Settings :=
  match Toml.readDocument text with
  | .error place =>
      let (line, column) := positionOf text place
      .error (.malformed line column)
  | .ok entries =>
      match SettingKey.readEntries Settings.keys {} entries with
      | .ok settings => .ok settings
      | .error misfit =>
          let (line, column) := positionOf text misfit.place
          .error (.mismatch line column misfit.cause)

end LedgerBoard
