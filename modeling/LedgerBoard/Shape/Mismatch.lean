import LedgerBoard.Number.Decimal

/-!
# Mismatches of shape

A document can be well formed and still hold something other than what is wanted. A mismatch says
what was found and what was wanted; events and settings report it in the same words.
-/

namespace LedgerBoard

/-- What a document holds at a place. -/
inductive Found where
  | null
  | boolean (value : Bool)
  | integer (value : Int)
  /-- A fraction, by its written form. -/
  | fraction (written : String)
  /-- A text, by its quoted form. -/
  | text (quoted : String)
  | sequence
  | map
  deriving DecidableEq, Repr

def Found.describe : Found → String
  | null => "null"
  | boolean true => "boolean `true`"
  | boolean false => "boolean `false`"
  | integer value => "integer `" ++ String.ofList (Number.decimalInt value) ++ "`"
  | fraction written => "floating point `" ++ written ++ "`"
  | text quoted => "string " ++ quoted
  | sequence => "sequence"
  | map => "map"

/-- How a document of the right notation fails to have the wanted shape. -/
inductive Mismatch where
  /-- A value of another type. -/
  | wrongType (found : Found) (wanted : String)
  /-- An integer that is out of range. -/
  | wrongValue (value : Int) (wanted : String)
  | missingField (name : String)
  | duplicateField (name : String)
  /-- A record written as a sequence that lacks its required first element. -/
  | noElements (wanted : String)
  /-- A text that is none of the choices. -/
  | unknownChoice (text : String) (choices : List String)
  /-- A choice must be a text or a table. -/
  | choiceNotNamed
  /-- A table that names a choice has one key. -/
  | choiceOfNone
  | choiceOfMany
  /-- The value beside a choice is empty. -/
  | choiceTableFilled
  | choiceArrayFilled
  | choiceNotTable (found : String)
  deriving DecidableEq, Repr

def ticked (text : String) : String :=
  "`" ++ text ++ "`"

def Mismatch.message : Mismatch → String
  | wrongType found wanted => "invalid type: " ++ found.describe ++ ", expected " ++ wanted
  | wrongValue value wanted =>
      "invalid value: " ++ (Found.integer value).describe ++ ", expected " ++ wanted
  | missingField name => "missing field " ++ ticked name
  | duplicateField name => "duplicate field " ++ ticked name
  | noElements wanted => "invalid length 0, expected " ++ wanted
  | unknownChoice text choices =>
      "unknown variant " ++ ticked text ++ ", expected one of " ++
        String.intercalate ", " (choices.map ticked)
  | choiceNotNamed => "wanted string or table"
  | choiceOfNone => "wanted exactly 1 element, found 0 elements"
  | choiceOfMany => "wanted exactly 1 element, more than 1 element"
  | choiceTableFilled => "expected empty table"
  | choiceArrayFilled => "expected empty array"
  | choiceNotTable found => "expected table, found " ++ found

end LedgerBoard
