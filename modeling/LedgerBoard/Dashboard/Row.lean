import LedgerBoard.Ledger.Event

/-!
# Rows

A row shows one event in a table: its identifier, one more detail, and the time of day at which it
arrived. A `RowList` holds rows, the oldest first, and drops the oldest ones once it is full.
-/

namespace LedgerBoard

/-- A time of day. -/
structure ClockTime where
  hour : Nat
  minute : Nat
  second : Nat
  deriving DecidableEq, Repr

def twoDigits (n : Nat) : List Char :=
  if n < 10 then '0' :: Number.decimal n else Number.decimal n

def ClockTime.text (time : ClockTime) : String :=
  String.ofList (twoDigits time.hour ++ ':' :: twoDigits time.minute ++ ':' ::
    twoDigits time.second)

/-- What a table shows of an event. -/
structure Row where
  id : String
  detail : Option String
  arrival : ClockTime
  deriving DecidableEq, Repr

namespace Row

def ofBlock (arrival : ClockTime) (block : Block) : Row :=
  ⟨block.hash, block.index.map fun index => "#" ++ String.ofList (Number.decimal index.toNat),
    arrival⟩

/-- The row of a transaction shows its sender. -/
def ofTransaction (arrival : ClockTime) (transaction : Transaction) : Row :=
  ⟨transaction.txHash, transaction.author, arrival⟩

end Row

/-- A list of rows, and how many it holds at most. -/
structure RowList where
  cap : Option Nat
  rows : List Row
  deriving DecidableEq, Repr

namespace RowList

/-- An empty list. A cap of zero is none. -/
def empty (cap : Option Nat) : RowList :=
  ⟨cap.filter (0 < ·), []⟩

/-- Drops the oldest rows until one more row fits under a cap. -/
def makeRoom (cap : Nat) : List Row → List Row
  | [] => []
  | oldest :: rest => if cap ≤ rest.length + 1 then makeRoom cap rest else oldest :: rest

/-- Adds a row at the end; the oldest rows give way. -/
def push (list : RowList) (row : Row) : RowList :=
  { list with rows := list.cap.elim list.rows (makeRoom · list.rows) ++ [row] }

def clear (list : RowList) : RowList :=
  { list with rows := [] }

def length (list : RowList) : Nat :=
  list.rows.length

/-- The row at an index; the oldest row has index zero. -/
def get? (list : RowList) (index : Nat) : Option Row :=
  list.rows[index]?

end RowList

end LedgerBoard
