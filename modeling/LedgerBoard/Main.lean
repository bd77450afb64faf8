import LedgerBoard.CommandLine.Offline

/-!
# The program

Runs jobs on the disk of the machine. Everything that is decided about a command line is decided by
`Job.ofWords`. The program has no transport of its own, so it never reaches a node.
-/

namespace LedgerBoard.Program

/-- Does something that may fail, and says whether what it needs is missing. -/
def attempt {α : Type} (action : IO α) : IO (Except FileError α) := do
  try
    return .ok (← action)
  catch cause =>
    match cause with
    | .noFileOrDirectory .. | .noSuchThing .. => return .error .missing
    | _ => return .error .refused

def succeeds {α : Type} (action : IO α) : IO Bool := do
  return (← attempt action) matches .ok _

/-- The rights that three bits of a mode stand for. -/
def right (bits : Nat) : IO.AccessRight :=
  ⟨bits.testBit 2, bits.testBit 1, bits.testBit 0⟩

def rights (mode : Nat) : IO.FileRight :=
  ⟨right (mode >>> 6), right (mode >>> 3), right mode⟩

def disk : Disk IO where
  isPresent path := succeeds (IO.FS.realPath path.text)
  isDirectory path := succeeds (IO.FS.realPath (path.text ++ "/."))
  read path := attempt do return (← IO.FS.readBinFile path.text).toList
  write path octets := attempt (IO.FS.writeBinFile path.text ⟨octets.toArray⟩)
  touch path := attempt do
    let _ ← IO.FS.Handle.mk path.text .append
  makeDirectory path := attempt (IO.FS.createDir path.text)
  rename source target := attempt (IO.FS.rename source.text target.text)
  setMode path mode := attempt (IO.setAccessRights path.text (rights mode))

def variableNames : List String :=
  ["HOME", "XDG_CONFIG_HOME", "XDG_RUNTIME_DIR"]

def environment : IO Environment := do
  let assignments ← variableNames.filterMapM fun name => do
    return (← IO.getEnv name).map (name, ·)
  return ⟨assignments, none⟩

end LedgerBoard.Program

/-- Does what the words of the command line ask for. -/
def main (words : List String) : IO UInt32 := do
  let environment ← LedgerBoard.Program.environment
  let job ← LedgerBoard.Job.ofWords LedgerBoard.Program.disk environment words
  let report := job.finish LedgerBoard.offline
  IO.print report.out
  IO.eprint report.err
  return UInt32.ofNat report.exit
