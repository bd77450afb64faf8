import LedgerBoard.Toml.Value

/-!
# Settings documents

A document is a sequence of statements: headers, which open a table, and assignments below the table
that was opened last. Reading stops at the first statement that is malformed or defines a key a
second time.
-/

namespace LedgerBoard.Toml

/-- What was read of a document: its entries, and the path of the table that is open. -/
structure Draft where
  entries : Entries
  opened : List Key

namespace Draft

/-- Splits a key into the parts before the last one and the last one. -/
def splitPath? (path : List Key) : Option (List Key × Key) :=
  path.getLast?.map fun key => (path.dropLast, key)

/-- Opens the table or array element that a header at a place names. -/
def openHeader (draft : Draft) (place : Place) (element : Bool) (path : List Key) :
    Option Draft := do
  let (parents, key) ← splitPath? path
  let entries ←
    if element then draft.entries.openElement place parents key
    else draft.entries.openTable place parents key
  return ⟨entries, path⟩

def assign (draft : Draft) (path : List Key) (node : Node) : Option Draft := do
  let (parents, key) ← splitPath? path
  let entries ← draft.entries.alter .passage (Entries.assign parents key node) draft.opened .header
  return { draft with entries }

end Draft

/-- Reads a header after its opening bracket or brackets, with the rest of its line. -/
def readHeader (element : Bool) (text : List Char) : Reading (List Key) :=
  match readKey text with
  | .error place => .error place
  | .ok (path, rest) =>
      match element, rest with
      | false, ']' :: rest => (skipLineRest rest).map (path, ·)
      | true, ']' :: ']' :: rest => (skipLineRest rest).map (path, ·)
      | _, rest => .error rest

/-- Reads an assignment with the rest of its line. -/
def readAssignment (text : List Char) : Reading (List Key × Node) :=
  match readPair (readValue nestingLimit) text with
  | .error place => .error place
  | .ok (pair, rest) => (skipLineRest rest).map (pair, ·)

/-- A draft and the rest of the text, unless a key was defined twice. -/
def conclude (place : Place) (rest : List Char) : Option Draft → Reading Draft
  | some draft => .ok (draft, rest)
  | none => .error place

def readStatement (draft : Draft) (text : List Char) : Reading Draft :=
  match text with
  | '[' :: '[' :: rest =>
      match readHeader true rest with
      | .error place => .error place
      | .ok (path, rest) => conclude text rest (draft.openHeader text true path)
  | '[' :: rest =>
      match readHeader false rest with
      | .error place => .error place
      | .ok (path, rest) => conclude text rest (draft.openHeader text false path)
  | _ =>
      match readAssignment text with
      | .error place => .error place
      | .ok ((path, node), rest) => conclude text rest (draft.assign path node)

/-- Reads the statements of a document. A statement takes at least one character. -/
def readStatements (draft : Draft) (text : List Char) : Except Place Entries :=
  match skipGaps text with
  | [] => .ok draft.entries
  | c :: tail =>
      let start := c :: tail
      let next : Reading Draft :=
        if c = '\n' ∨ c = '\r' ∨ c = '#' then (skipLineRest start).map (draft, ·)
        else readStatement draft start
      match next with
      | .error place => .error place
      | .ok (draft, rest) =>
          if rest.length < text.length then readStatements draft rest else .error start
termination_by text.length

/-- Reads a document. A byte order mark in front of it does not count. -/
def readDocument (text : List Char) : Except Place Entries :=
  let start := match text with
    | '\uFEFF' :: rest => rest
    | _ => text
  readStatements ⟨[], []⟩ start

end LedgerBoard.Toml
