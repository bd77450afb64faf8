import LedgerBoard.Files.Disk
import LedgerBoard.Settings.Document
import LedgerBoard.Settings.Error
import LedgerBoard.Settings.Location
import LedgerBoard.Settings.Template
import LedgerBoard.Text.Octets

/-!
# Settings on disk

Loading settings, and writing the template for new ones. What was at the place of a new file is kept
beside it.
-/

namespace LedgerBoard

def Settings.ofOctets (path : Path) (octets : List UInt8) : Except SettingsError Settings :=
  match Text.decode? octets with
  | none => .error (.unreadable path)
  | some text =>
      match Settings.ofDocument text with
      | .ok settings => .ok settings
      | .error (.malformed line column) => .error (.malformed path line column)
      | .error (.mismatch line column cause) => .error (.mismatch path line column cause)

namespace Settings

variable {m : Type → Type} [Monad m] (disk : Disk m)

def loadFile (path : Path) : m (Except SettingsError Settings) := do
  match ← disk.read path with
  | .ok octets => return ofOctets path octets
  | .error .missing => return .error (.missing path)
  | .error .refused => return .error (.unreadable path)

/-- Loads the settings of a given file, or else of the usual one, which need not be there. -/
def load (environment : Environment) (path : Option Path) : m (Except SettingsError Settings) := do
  match path with
  | some path => loadFile disk path
  | none =>
      let path := environment.settingsPath
      if ← disk.isPresent path then loadFile disk path else return .ok {}

/-- Makes the directory of a file and closes it to other users. The working directory stays as it
is. -/
def openParent (path : Path) : m (Except FileError Unit) :=
  match path.parent? with
  | some parent => if parent.text.isEmpty then return .ok () else disk.makePrivate parent
  | none => return .ok ()

/-- Writes the template to a place where nothing is. -/
def writeTemplate (path : Path) : m (Except SettingsError Unit) := do
  match ← openParent disk path with
  | .error _ => return .error (.unwritable path)
  | .ok _ =>
      match ← disk.write path settingsTemplate.toUTF8.toList with
      | .error _ => return .error (.unwritable path)
      | .ok _ =>
          match ← disk.setMode path 0o600 with
          | .error _ => return .error (.unwritable path)
          | .ok _ => return .ok ()

/-- Where a file is kept that the template replaces. -/
def backupPath (path : Path) : Path :=
  path.withExtension "toml.backup"

/-- Writes the template. A file that is there stays, unless `force` says to move it aside. -/
def create (path : Path) (force : Bool) : m (Except SettingsError Unit) := do
  if ← disk.isPresent path then
    if force then
      match ← disk.rename path (backupPath path) with
      | .error _ => return .error (.unwritable (backupPath path))
      | .ok _ => writeTemplate disk path
    else return .error (.alreadyThere path)
  else writeTemplate disk path

end Settings

end LedgerBoard
