import LedgerBoard.Toml.Node
import LedgerBoard.Toml.Number

/-!
# Values in settings

A value is a text, a number, a moment, a truth value, an array, or an inline table. Arrays may run
over several lines; inline tables stay on one.
-/

namespace LedgerBoard.Toml

def readBoolean (text : List Char) : Reading Node :=
  match text with
  | 't' :: 'r' :: 'u' :: 'e' :: rest => .ok (.scalar text (.boolean true), rest)
  | 'f' :: 'a' :: 'l' :: 's' :: 'e' :: rest => .ok (.scalar text (.boolean false), rest)
  | _ => .error text

def readQuantity (text : List Char) : Reading Node :=
  match afterMoment? text, readNumber? text with
  | some rest, _ => .ok (.scalar text .moment, rest)
  | none, some (.integer value, rest) => .ok (.scalar text (.integer value), rest)
  | none, some (.fraction written, rest) => .ok (.scalar text (.fraction written), rest)
  | none, none => .error text

/-- Whether a character starts a moment or a number. -/
def startsQuantity (c : Char) : Bool :=
  c.isDigit || c == '+' || c == '-' || c == 'i' || c == 'n'

def readScalar (text : List Char) : Reading Node :=
  let quoted (quote : Quote) : Reading Node :=
    (readText quote text).map fun (value, rest) => (.scalar text (.text value), rest)
  match text with
  | '"' :: _ => quoted .basic
  | '\'' :: _ => quoted .literal
  | c :: _ => if startsQuantity c then readQuantity text else readBoolean text
  | [] => .error []

/-- Reads the items of an array up to and with its closing bracket. A fault in the space behind an
item is reported at the item. -/
def readItems (readItem : List Char → Reading Node) (text : List Char) : Reading (List Node) :=
  match skipSpace text with
  | .error place => .error place
  | .ok (']' :: rest) => .ok ([], rest)
  | .ok start =>
      match readItem start with
      | .error place => .error place
      | .ok (item, rest) =>
          match skipSpace rest with
          | .error _ => .error start
          | .ok (']' :: rest) => .ok ([item], rest)
          | .ok (',' :: rest) =>
              if rest.length < text.length then
                (readItems readItem rest).map fun (items, rest) => (item :: items, rest)
              else .error start
          | .ok rest => .error rest
termination_by text.length

/-- Reads a key, the mark of equality and a value. -/
def readPair (readItem : List Char → Reading Node) (text : List Char) :
    Reading (List Key × Node) :=
  match readKey text with
  | .error place => .error place
  | .ok (path, '=' :: rest) =>
      (readItem (skipGaps rest)).map fun (node, rest) => ((path, node), rest)
  | .ok (_, rest) => .error rest

/-- Reads the pairs of an inline table, after a first pair or a comma, up to and with its closing
brace. -/
def readPairs (readItem : List Char → Reading Node) (text : List Char) :
    Reading (List (List Key × Node)) :=
  match readPair readItem text with
  | .error place => .error place
  | .ok (pair, rest) =>
      match skipGaps rest with
      | '\x7d' :: rest => .ok ([pair], rest)
      | ',' :: rest =>
          if rest.length < text.length then
            (readPairs readItem rest).map fun (pairs, rest) => (pair :: pairs, rest)
          else .error text
      | rest => .error rest
termination_by text.length

def Entries.ofPairs? (pairs : List (List Key × Node)) : Option Entries :=
  pairs.foldlM (fun entries (path, node) =>
    match path.getLast? with
    | some key => entries.assign path.dropLast key node .inline
    | none => none) []

/-- Reads an inline table after its opening brace. A key that is defined twice is a fault of the
whole table. -/
def readInline (readItem : List Char → Reading Node) (text : List Char) : Reading Entries :=
  match skipGaps text with
  | '\x7d' :: rest => .ok ([], rest)
  | _ =>
      match readPairs readItem text with
      | .error place => .error place
      | .ok (pairs, rest) =>
          match Entries.ofPairs? pairs with
          | some entries => .ok (entries, rest)
          | none => .error text

/-- Reads a value with fewer than `limit` brackets open at once. -/
def readValue : Nat → List Char → Reading Node
  | 0, text => .error text
  | limit + 1, text =>
      match text with
      | '[' :: rest =>
          if limit = 0 then .error text
          else (readItems (readValue limit) rest).map fun (items, rest) => (.array text items, rest)
      | '\x7b' :: rest =>
          if limit = 0 then .error text
          else
            (readInline (readValue limit) rest).map fun (entries, rest) =>
              (.table (some text) .inline entries, rest)
      | _ => readScalar text

end LedgerBoard.Toml
