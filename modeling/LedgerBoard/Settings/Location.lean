import LedgerBoard.Files.Path
import LedgerBoard.Settings.Basic
import LedgerBoard.Text.Blank

/-!
# Places of files

Where the settings and the log file are, as the variables of the environment say.
-/

namespace LedgerBoard

/-- The variables of the environment, and the home directory of the account that runs the
program. -/
structure Environment where
  assignments : List (String × String)
  accountHome : Option String

namespace Environment

def find? (environment : Environment) (name : String) : Option String :=
  environment.assignments.lookup name

/-- The home directory. An empty variable does not name one. -/
def home? (environment : Environment) : Option Path :=
  match (environment.find? "HOME").filter (· ≠ "") with
  | some home => some ⟨home⟩
  | none => environment.accountHome.map Path.mk

/-- The name of everything that the program keeps. -/
def programName : String := "block-dashboard"

def settingsDirectory (environment : Environment) : Path :=
  let base : Path :=
    match environment.find? "XDG_CONFIG_HOME", environment.home? with
    | some base, _ => ⟨base⟩
    | none, some home => home.join ".config"
    | none, none => ⟨"."⟩
  base.join programName

def settingsPath (environment : Environment) : Path :=
  environment.settingsDirectory.join "config.toml"

/-- The directory of files that do not outlive the session of the user. -/
def runtimeDirectory (environment : Environment) : Path :=
  ⟨(environment.find? "XDG_RUNTIME_DIR").getD "/tmp"⟩

/-- The log file, where the settings name none. -/
def usualLogPath (environment : Environment) : Path :=
  environment.runtimeDirectory.join (programName ++ ".log")

/-- The path of a text in which a tilde at the start stands for the home directory. -/
def expandTilde (environment : Environment) (text : String) : Path :=
  match environment.home?, text.toList with
  | some home, ['~'] => home
  | some home, '~' :: '/' :: rest => home.join (String.ofList rest)
  | _, _ => ⟨text⟩

def logPath (environment : Environment) (log : LogSettings) : Path :=
  let file := Text.trimmed log.file
  if file.isEmpty then environment.usualLogPath else environment.expandTilde file

end Environment

end LedgerBoard
