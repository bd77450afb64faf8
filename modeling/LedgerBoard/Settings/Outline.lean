import LedgerBoard.Settings.Basic
import LedgerBoard.Number.Decimal
import LedgerBoard.Text.Quoted

/-!
# The outline of settings

Settings are shown as nested records, one field a line, each level four columns further in.
-/

namespace LedgerBoard

/-- A value in an outline. -/
inductive Outline where
  | leaf (text : String)
  | record (title : String) (fields : List (String × Outline))

namespace Outline

/-- The lines of an outline in front of which a field name may stand. -/
def lines : Outline → List String
  | leaf text => [text]
  | record title fields =>
      (title ++ " \x7b") :: fieldLines fields ++ ["\x7d"]
where
  /-- The lines of the fields of a record. -/
  fieldLines : List (String × Outline) → List String
    | [] => []
    | (name, value) :: fields =>
        let shown := match lines value with
          | [] => [name ++ ": "]
          | first :: rest => (name ++ ": " ++ first) :: rest
        let closed := shown.dropLast ++ [shown.getLast?.getD "" ++ ","]
        closed.map ("    " ++ ·) ++ fieldLines fields

end Outline

def LogLevel.outlineName : LogLevel → String
  | error => "Error"
  | warn => "Warn"
  | info => "Info"
  | debug => "Debug"
  | trace => "Trace"

def Settings.outline (settings : Settings) : Outline :=
  let text (value : String) : Outline := .leaf (Text.quoted value)
  .record "Config"
    [("server", .record "ServerConfig"
        [("url", text settings.server.url), ("heartbeat", text settings.server.heartbeat)]),
      ("tui", .record "TuiConfig"
        [("tick_rate", text settings.display.tickRate),
          ("max_rows", .leaf (String.ofList (Number.decimal settings.display.maxRows)))]),
      ("log", .record "LogConfig"
        [("level", .leaf settings.log.level.outlineName), ("file", text settings.log.file)])]

def Settings.describe (settings : Settings) : String :=
  String.intercalate "\n" settings.outline.lines

end LedgerBoard
