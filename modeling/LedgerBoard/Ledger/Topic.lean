/-!
# Topics

A ledger node announces blocks and transactions on one topic each.
-/

namespace LedgerBoard

/-- What a node sends notifications about. -/
inductive Topic where
  | blocks
  | transactions
  deriving DecidableEq, Repr

namespace Topic

/-- Both topics, in the order in which they are subscribed. -/
def all : List Topic := [blocks, transactions]

/-- The destination on which a node sends the notifications of a topic. -/
def destination : Topic → String
  | blocks => "/topic/blocks"
  | transactions => "/topic/txs"

end Topic

end LedgerBoard
