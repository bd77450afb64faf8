import LedgerBoard.Files.Path

/-!
# Disks

A disk holds files and directories. What this library does with files is written against `Disk`, so
that it runs on a real disk as well as on a tree in memory.
-/

namespace LedgerBoard

/-- Why an operation on a file fails. -/
inductive FileError where
  | missing
  /-- The file is there, or something on the way to it is not what it should be. -/
  | refused
  deriving DecidableEq, Repr

/-- The operations of a disk, as actions of a monad. -/
structure Disk (m : Type → Type) where
  /-- Whether there is a file or directory. -/
  isPresent : Path → m Bool
  isDirectory : Path → m Bool
  read : Path → m (Except FileError (List UInt8))
  /-- Puts octets into a file, which is made where there is none. -/
  write : Path → List UInt8 → m (Except FileError Unit)
  /-- Makes an empty file where there is none. -/
  touch : Path → m (Except FileError Unit)
  makeDirectory : Path → m (Except FileError Unit)
  rename : Path → Path → m (Except FileError Unit)
  setMode : Path → Nat → m (Except FileError Unit)

namespace Disk

variable {m : Type → Type} [Monad m] (disk : Disk m)

/-- Makes a directory, and before it the directories on the way that are missing. A directory has
fewer of these than `limit`. -/
def makeWay : Nat → Path → m (Except FileError Unit)
  | 0, _ => return .error .missing
  | limit + 1, path => do
      if path.text.isEmpty then return .ok ()
      let settle (cause : FileError) : m (Except FileError Unit) := do
        return if ← disk.isDirectory path then .ok () else .error cause
      match ← disk.makeDirectory path with
      | .ok _ => return .ok ()
      | .error .refused => settle .refused
      | .error .missing =>
          match path.parent? with
          | none => return .error .missing
          | some parent =>
              match ← makeWay limit parent with
              | .error cause => return .error cause
              | .ok _ =>
                  match ← disk.makeDirectory path with
                  | .ok _ => return .ok ()
                  | .error cause => settle cause

/-- Makes a directory and the directories on the way to it. -/
def makeDirectories (path : Path) : m (Except FileError Unit) :=
  makeWay disk (path.text.length + 1) path

/-- Makes the directories on the way to a file. -/
def makeParents (path : Path) : m (Except FileError Unit) :=
  match path.parent? with
  | some parent => makeDirectories disk parent
  | none => return .ok ()

/-- Makes a directory and the directories on the way to it, and closes it to other users. -/
def makePrivate (path : Path) : m (Except FileError Unit) := do
  match ← makeDirectories disk path with
  | .error cause => return .error cause
  | .ok _ => disk.setMode path 0o700

end Disk

end LedgerBoard
