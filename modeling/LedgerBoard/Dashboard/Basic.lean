import LedgerBoard.Dashboard.Row

/-!
# The dashboard

The dashboard shows whether there is a session, which controls can be used, and one table for each
topic. The tables are shown only while there is a session, and are empty otherwise.
-/

namespace LedgerBoard

/-- Whether a session is established. -/
inductive Connection where
  | disconnected
  | connected
  deriving DecidableEq, Repr

def Connection.name : Connection → String
  | disconnected => "disconnected"
  | connected => "connected"

/-- Which controls can be used. -/
structure Controls where
  connect : Bool
  disconnect : Bool
  deriving DecidableEq, Repr

/-- What the dashboard shows. -/
structure Dashboard where
  connection : Connection
  blocks : RowList
  transactions : RowList
  deriving DecidableEq, Repr

namespace Dashboard

/-- A dashboard without a session, whose tables hold at most `cap` rows. -/
def initial (cap : Option Nat) : Dashboard :=
  ⟨.disconnected, .empty cap, .empty cap⟩

def isConnected (dashboard : Dashboard) : Bool :=
  dashboard.connection == .connected

def showsTables (dashboard : Dashboard) : Bool :=
  dashboard.isConnected

/-- Which controls can be used: always the one that changes the state. -/
def controls (dashboard : Dashboard) : Controls :=
  ⟨!dashboard.isConnected, dashboard.isConnected⟩

/-- The dashboard with empty tables in a given state. -/
def enter (connection : Connection) (dashboard : Dashboard) : Dashboard :=
  ⟨connection, dashboard.blocks.clear, dashboard.transactions.clear⟩

def markConnected (dashboard : Dashboard) : Dashboard :=
  dashboard.enter .connected

def markDisconnected (dashboard : Dashboard) : Dashboard :=
  dashboard.enter .disconnected

/-- Shows a block, if there is a session, and says whether it did. -/
def showBlock (arrival : ClockTime) (block : Block) (dashboard : Dashboard) : Dashboard × Bool :=
  if dashboard.isConnected then
    ({ dashboard with blocks := dashboard.blocks.push (.ofBlock arrival block) }, true)
  else (dashboard, false)

/-- Shows a transaction, if there is a session, and says whether it did. -/
def showTransaction (arrival : ClockTime) (transaction : Transaction) (dashboard : Dashboard) :
    Dashboard × Bool :=
  if dashboard.isConnected then
    ({ dashboard with
      transactions := dashboard.transactions.push (.ofTransaction arrival transaction) }, true)
  else (dashboard, false)

end Dashboard

end LedgerBoard
