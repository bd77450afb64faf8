import LedgerBoard.Json.Record
import LedgerBoard.Ledger.Topic
import LedgerBoard.Text.Blank

/-!
# Ledger events

A node announces blocks and transactions as JSON records. Only the identifier of an event is
required; it is checked here, so that nothing downstream ever sees an empty one.
-/

namespace LedgerBoard

/-- A block announced by a node. -/
structure Block where
  hash : String
  /-- The height of the block. -/
  index : Option UInt64
  /-- The time of creation, in milliseconds since the Unix epoch. -/
  timestamp : Option Int64
  /-- The address of the producer. -/
  author : Option String
  /-- The number of transactions in the body. -/
  bodyLength : Option UInt64
  prevBlockHash : Option String
  deriving DecidableEq, Repr

/-- A transaction announced by a node. -/
structure Transaction where
  txHash : String
  /-- The branch that the transaction belongs to. -/
  branchId : Option String
  /-- The time of creation, in milliseconds since the Unix epoch. -/
  timestamp : Option Int64
  /-- The address of the sender. -/
  author : Option String
  /-- The octets of the body. -/
  bodyLength : Option UInt64
  deriving DecidableEq, Repr

/-- Why a payload is rejected. -/
inductive EventError where
  /-- The payload is not JSON; `truncated` says that it ends too early. -/
  | unreadable (topic : Topic) (truncated : Bool)
  /-- The payload is JSON of another shape, as found at a line and a column. -/
  | mismatch (topic : Topic) (cause : Mismatch) (line column : Nat)
  /-- The identifier holds nothing but blanks. -/
  | emptyIdentifier (topic : Topic) (field : String)
  deriving DecidableEq, Repr

def EventError.message : EventError → String
  | unreadable topic true => s!"malformed {topic.destination} payload: it ends too early"
  | unreadable topic false => s!"malformed {topic.destination} payload: it is not JSON"
  | mismatch topic cause line column =>
      s!"malformed {topic.destination} payload: {cause.message} at line {line} column {column}"
  | emptyIdentifier topic field => s!"{topic.destination} payload has an empty " ++ ticked field

namespace Json.Fields

def text? (fields : Json.Fields) (name : String) : Option String :=
  match fields.lookup name with
  | some (some (.text value)) => some value
  | _ => none

def integer? (fields : Json.Fields) (name : String) : Option Int :=
  match fields.lookup name with
  | some (some (.integer value)) => some value
  | _ => none

def word? (fields : Json.Fields) (name : String) : Option UInt64 :=
  (fields.integer? name).map fun value => UInt64.ofNat value.toNat

end Json.Fields

def Topic.schema : Topic → Json.Schema
  | blocks =>
      { title := "struct BlockEvent"
        required := "hash"
        optional := [("index", .unsigned), ("timestamp", .signed), ("author", .text),
          ("bodyLength", .unsigned), ("prevBlockHash", .text)] }
  | transactions =>
      { title := "struct TransactionEvent"
        required := "txHash"
        optional := [("branchId", .text), ("timestamp", .signed), ("author", .text),
          ("bodyLength", .unsigned)] }

namespace EventError

/-- The rejection of a payload for a fault of reading it. -/
def ofFault (topic : Topic) (payload : List Char) : Json.Fault → EventError
  | .truncated => unreadable topic true
  | .grammar => unreadable topic false
  | .shape cause rest =>
      let (line, column) := Text.positionBefore payload rest
      mismatch topic cause line column

end EventError

/-- The fields of a payload and its identifier. -/
def Topic.readFields (topic : Topic) (payload : String) :
    Except EventError (String × Json.Fields) :=
  match Json.readDocument topic.schema payload.toList with
  | .error fault => .error (.ofFault topic payload.toList fault)
  | .ok fields =>
      let identifier := (fields.text? topic.schema.required).getD ""
      if Text.isBlankText identifier then
        .error (.emptyIdentifier topic topic.schema.required)
      else .ok (identifier, fields)

def Block.ofPayload (payload : String) : Except EventError Block :=
  (Topic.blocks.readFields payload).map fun (identifier, fields) =>
    { hash := identifier
      index := fields.word? "index"
      timestamp := (fields.integer? "timestamp").map Int64.ofInt
      author := fields.text? "author"
      bodyLength := fields.word? "bodyLength"
      prevBlockHash := fields.text? "prevBlockHash" }

def Transaction.ofPayload (payload : String) : Except EventError Transaction :=
  (Topic.transactions.readFields payload).map fun (identifier, fields) =>
    { txHash := identifier
      branchId := fields.text? "branchId"
      timestamp := (fields.integer? "timestamp").map Int64.ofInt
      author := fields.text? "author"
      bodyLength := fields.word? "bodyLength" }

end LedgerBoard
