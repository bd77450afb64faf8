import LedgerBoard.CommandLine.Invocation
import LedgerBoard.Settings.Effective
import LedgerBoard.Settings.Outline
import LedgerBoard.Settings.Store
import LedgerBoard.Watch.Basic

/-!
# Jobs

What a command line comes to. Commands on the settings are done at once; the other two are prepared
here, up to where they need a terminal or a node. Preparing is written against a `Disk`.
-/

namespace LedgerBoard

/-- What a command that is over leaves behind. -/
structure Report where
  /-- Zero if all went well. -/
  exit : Nat
  out : String
  err : String
  deriving DecidableEq, Repr

namespace Report

def success (out : String) : Report := ⟨0, out, ""⟩

def failure (out reason : String) : Report := ⟨1, out, reason ++ "\n"⟩

def ofSettingsError (cause : SettingsError) : Report :=
  failure "" ("Config error: " ++ cause.message)

/-- The end of the dashboard. It fails if there is no terminal to show it on. -/
def ofBoard : Option String → Report
  | none => success ""
  | some cause => failure "" ("TUI error: " ++ cause)

/-- The end of watching, and what was written on the way. -/
def ofWatch (out : String) : Option WatchError → Report
  | none => success out
  | some cause => failure out ("Error: " ++ cause.message)

/-- What the user is told about the command line. -/
def ofUsage : Usage → Report
  | .version => success (Invocation.program ++ " " ++ Invocation.version ++ "\n")
  | .help => success usageText
  | .fault => ⟨2, "", "error: the command line is not understood\n\n" ++ usageText⟩
where
  usageText : String :=
    "Usage: bdash <COMMAND>\n\n" ++
    "Commands:\n" ++
    "  tui [--url <URL>] [--config <FILE>]    show the dashboard\n" ++
    "  watch [--url <URL>] [--config <FILE>]  write one line for every block and transaction\n" ++
    "  config init [--force]                  create the settings file\n" ++
    "  config path                            show where the settings file is\n" ++
    "  config validate [--config <FILE>]      check the settings file\n" ++
    "  help                                   show this text\n"

end Report

/-- What a command line comes to. -/
inductive Job where
  | done (report : Report)
  | watch (plan : SessionPlan)
  /-- The dashboard, with the most rows of a table and the time between two drawings. -/
  | board (plan : SessionPlan) (cap : Option Nat) (interval : Duration)
  deriving DecidableEq, Repr

namespace Job

variable {m : Type → Type} [Monad m] (disk : Disk m) (environment : Environment)

/-- Goes on with settings that could be used. -/
def withSettings {α : Type} (found : Except SettingsError α) (next : α → m Job) : m Job :=
  match found with
  | .ok value => next value
  | .error cause => return .done (.ofSettingsError cause)

/-- The settings that a command which talks to a node works with. -/
def effective (options : NodeOptions) : m (Except SettingsError EffectiveSettings) := do
  let loaded ← Settings.load disk environment options.settings
  return loaded.bind fun settings => EffectiveSettings.of (settings.withUrl options.url)

/-- Makes the log file and the directories on the way to it. -/
def openLog (path : Path) : m (Except FileError Unit) := do
  match ← disk.makeParents path with
  | .error cause => return .error cause
  | .ok _ => disk.touch path

def prepareBoard (options : NodeOptions) : m Job := do
  withSettings (← effective disk environment options) fun found => do
    let log := environment.logPath found.settings.log
    match ← openLog disk log with
    | .error _ => return .done (.failure "" ("Error: failed to open log file " ++ log.text))
    | .ok _ =>
        withSettings found.settings.display.interval fun interval =>
          return .board found.plan found.settings.display.rowCap interval

def prepareWatch (options : NodeOptions) : m Job := do
  withSettings (← effective disk environment options) fun found => return .watch found.plan

def createSettings (force : Bool) : m Job := do
  let path := environment.settingsPath
  withSettings (← Settings.create disk path force) fun _ =>
    return .done (.success ("Created configuration at " ++ path.text ++ "\n"))

def checkSettings (path : Option Path) : m Job := do
  let loaded ← Settings.load disk environment path
  let checked := loaded.bind fun settings => settings.check.map fun _ => settings
  withSettings checked fun settings =>
    return .done (.success ("Configuration is valid\n" ++ settings.describe ++ "\n"))

def prepare : Invocation → m Job
  | .board options => prepareBoard disk environment options
  | .watch options => prepareWatch disk environment options
  | .createSettings force => createSettings disk environment force
  | .showSettingsPath => return .done (.success (environment.settingsPath.text ++ "\n"))
  | .checkSettings path => checkSettings disk environment path

/-- Prepares what the words of a command line ask for. -/
def ofWords (words : List String) : m Job :=
  match Invocation.read words with
  | .ok invocation => prepare disk environment invocation
  | .error usage => return .done (.ofUsage usage)

end Job

end LedgerBoard
