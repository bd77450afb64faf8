/-!
# Settings

What a user can choose: the node to talk to, how the dashboard is drawn, and what is logged where.
Durations are kept as they are written; `Settings.Check` reads them.
-/

namespace LedgerBoard

/-- How much is logged. -/
inductive LogLevel where
  | error
  | warn
  | info
  | debug
  | trace
  deriving DecidableEq, Repr

namespace LogLevel

/-- Every level, the quietest first. -/
def all : List LogLevel := [error, warn, info, debug, trace]

/-- The spelling of a level, in settings and in log filters. -/
def name : LogLevel → String
  | error => "error"
  | warn => "warn"
  | info => "info"
  | debug => "debug"
  | trace => "trace"

def ofName? (text : String) : Option LogLevel :=
  all.find? fun level => level.name == text

end LogLevel

/-- The node to talk to. -/
structure ServerSettings where
  /-- The base address of the node. -/
  url : String := "ws://127.0.0.1:8080"
  /-- The interval of heart-beats that is offered, as a written duration. Zero offers none. -/
  heartbeat : String := "10s"
  deriving DecidableEq, Repr

/-- How the dashboard is drawn. -/
structure DisplaySettings where
  /-- The time between two drawings, as a written duration. -/
  tickRate : String := "250ms"
  /-- The largest number of rows kept in a table; zero keeps every row. -/
  maxRows : Nat := 0
  deriving DecidableEq, Repr

/-- The largest number of rows kept in a table, if there is one. -/
def DisplaySettings.rowCap (display : DisplaySettings) : Option Nat :=
  if display.maxRows = 0 then none else some display.maxRows

/-- What is logged where. -/
structure LogSettings where
  level : LogLevel := .info
  /-- The log file of the dashboard; an empty text means the usual place. -/
  file : String := ""
  deriving DecidableEq, Repr

/-- All settings. -/
structure Settings where
  server : ServerSettings := {}
  display : DisplaySettings := {}
  log : LogSettings := {}
  deriving DecidableEq, Repr

end LedgerBoard
