import LedgerBoard.Session.Basic
import LedgerBoard.Session.Event

/-!
# Watching

Without a dashboard, one line of text is written for every event, until a shutdown is asked for or
the session ends. A line is written piece by piece and flushed. What becomes of that is up to the
world.
-/

namespace LedgerBoard

/-- Why watching failed. -/
inductive WatchError where
  /-- Writing failed. -/
  | output (cause : String)
  /-- The session ended on its own. -/
  | sessionLost (reason : String)
  deriving DecidableEq, Repr

def WatchError.message : WatchError → String
  | output cause => "failed to write output: " ++ cause
  | sessionLost reason => "session ended: " ++ reason

/-- Why a write fails, and how many octets get out before. A write that is over by then succeeds. -/
structure WriteFault where
  after : Nat
  cause : String
  deriving DecidableEq, Repr

/-- What gets out of octets that are written at once, and why the rest does not. -/
def WriteFault.meet (fault : Option WriteFault) (octets : List UInt8) :
    List UInt8 × Option String :=
  match fault with
  | none => (octets, none)
  | some fault =>
      if fault.after < octets.length then (octets.take fault.after, some fault.cause)
      else (octets, none)

/-- What the world does with a line that is written. -/
structure Outlet where
  /-- The faults that the writes of the pieces meet, in order. Where none is listed there is
  none. -/
  writes : List (Option WriteFault) := []
  /-- Why the line cannot be flushed, if it cannot. -/
  flush : Option String := none
  deriving DecidableEq, Repr

namespace Outlet

/-- Writes pieces up to the first one that fails: what gets out, and why not more of it does. -/
def writeAll : List (Option WriteFault) → List String → List UInt8 × Option String
  | _, [] => ([], none)
  | faults, piece :: rest =>
      match WriteFault.meet faults.head?.join piece.toUTF8.toList with
      | (out, some cause) => (out, some cause)
      | (out, none) =>
          let (more, failed) := writeAll faults.tail rest
          (out ++ more, failed)

/-- Writes the pieces of a line and flushes it: what gets out, and why that failed. -/
def writeLine (outlet : Outlet) (pieces : List String) : List UInt8 × Option String :=
  match writeAll outlet.writes pieces with
  | (out, some cause) => (out, some cause)
  | (out, none) => (out, outlet.flush)

end Outlet

/-- How watching stands. -/
inductive WatchState where
  | running
  | done
  | failed (cause : WatchError)
  deriving DecidableEq, Repr

/-- One session that is watched. -/
structure Watch where
  /-- The session, until it was asked to end. -/
  handle : Option Handle
  shuttingDown : Bool
  /-- The octets that got out. -/
  written : List UInt8
  state : WatchState
  deriving DecidableEq, Repr

namespace Watch

/-- The generation of the session that is watched. -/
def generation : Nat := 1

def start : Watch :=
  ⟨some (.ofGeneration generation), false, [], .running⟩

/-- The pieces of the line for an event, if it has one. -/
def linePieces? : SessionEvent → Option (List String)
  | .block block => some ["block ", block.hash, "\n"]
  | .transaction transaction => some ["tx ", transaction.txHash, "\n"]
  | _ => none

/-- What watching takes in one turn. -/
inductive Input where
  | shutdown
  /-- An event of the session. If there is a line for it, `outlet` says what becomes of that. -/
  | event (event : SessionEvent) (outlet : Outlet)
  /-- The session went away without a last report. -/
  | silence
  deriving DecidableEq, Repr

/-- The subscriptions that a handle asks for when the node accepts its session. -/
def subscriptions (handle : Handle) : List Subscription :=
  (Topic.all.foldl (fun (found, handle) topic =>
    let (subscription, next) := Handle.subscribe handle topic
    (found ++ [subscription], next)) (([] : List Subscription), handle)).1

/-- The handle after every topic was subscribed. -/
def afterSubscriptions (handle : Handle) : Handle :=
  Topic.all.foldl (fun handle topic => (handle.subscribe topic).2) handle

def writeLine (watch : Watch) (outlet : Outlet) (pieces : List String) : Watch :=
  let (out, failed) := outlet.writeLine pieces
  let next := { watch with written := watch.written ++ out }
  match failed with
  | none => next
  | some cause => { next with handle := none, state := .failed (.output cause) }

def take (watch : Watch) (outlet : Outlet) : SessionEvent → Watch × List Request
  | .connected _ =>
      match watch.handle with
      | some handle =>
          ({ watch with handle := some (afterSubscriptions handle) },
            (subscriptions handle).map .subscribe)
      | none => (watch, [])
  | .block block => (watch.writeLine outlet ((linePieces? (.block block)).getD []), [])
  | .transaction transaction =>
      (watch.writeLine outlet ((linePieces? (.transaction transaction)).getD []), [])
  | .closed none => ({ watch with handle := none, state := .done }, [])
  | .closed (some reason) =>
      ({ watch with handle := none, state := .failed (.sessionLost reason) }, [])

/-- One turn of watching: what it leads to, and what the session is asked to do. -/
def turn (watch : Watch) (input : Input) : Watch × List Request :=
  match watch.state, input with
  | .running, .shutdown =>
      if watch.shuttingDown then (watch, [])
      else
        ({ watch with handle := none, shuttingDown := true },
          if watch.handle.isSome then [.disconnect] else [])
  | .running, .event event outlet => watch.take outlet event
  | .running, .silence => ({ watch with handle := none, state := .done }, [])
  | _, _ => (watch, [])

end Watch

end LedgerBoard
