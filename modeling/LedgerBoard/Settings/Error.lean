import LedgerBoard.Files.Path
import LedgerBoard.Shape.Mismatch

/-!
# Settings errors

The reasons for which settings cannot be loaded, used or written.
-/

namespace LedgerBoard

/-- Why settings are refused. -/
inductive SettingsError where
  | unreadable (path : Path)
  | missing (path : Path)
  /-- The file is no settings document from a line on. -/
  | malformed (path : Path) (line column : Nat)
  /-- The file is a settings document of another shape, as found at a line and a column. -/
  | mismatch (path : Path) (line column : Nat) (cause : Mismatch)
  | alreadyThere (path : Path)
  | unwritable (path : Path)
  /-- A setting of the right type that cannot be used. -/
  | invalid (key : String) (reason : String)
  deriving DecidableEq, Repr

def SettingsError.message : SettingsError → String
  | unreadable path => s!"Failed to read configuration file: {path.text}"
  | missing path => s!"Configuration file not found: {path.text}"
  | malformed path line column =>
      s!"Invalid configuration at {path.text}:{line}:{column}: not a settings document"
  | mismatch path line column cause =>
      s!"Invalid configuration at {path.text}:{line}:{column}: {cause.message}"
  | alreadyThere path => s!"Configuration file already exists: {path.text}"
  | unwritable path => s!"Failed to write configuration file: {path.text}"
  | invalid key reason => "Invalid value for " ++ ticked key ++ ": " ++ reason

end LedgerBoard
