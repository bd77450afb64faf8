import LedgerBoard.Toml.Text

/-!
# Nodes of a settings document

A document is a tree of tables. Which table may be reopened or extended depends on how it came to
be, its `Origin`. `Entries.assign`, `Entries.openTable` and `Entries.openElement` are the three ways
in which statements extend the tree; each of them fails where a key would be defined twice.
-/

namespace LedgerBoard.Toml

/-- A value without parts. -/
inductive Scalar where
  | text (value : String)
  | integer (value : Int)
  /-- A fraction, by its written form. -/
  | fraction (written : String)
  | boolean (value : Bool)
  /-- A date, a time of day, or both. -/
  | moment
  deriving DecidableEq, Repr

/-- How a table came to be. -/
inductive Origin where
  /-- A header names it. -/
  | header
  /-- It lies on the way to a table that a header names. -/
  | passage
  /-- A key of several parts leads through it. -/
  | dotted
  /-- It is written between braces. -/
  | inline
  deriving DecidableEq, Repr

/-- A node of a document. Tables that are only led through have no place of their own. -/
inductive Node where
  | scalar (place : Place) (value : Scalar)
  | array (place : Place) (items : List Node)
  | table (place : Option Place) (origin : Origin) (entries : List (Key × Node))
  /-- The tables that headers with doubled brackets name, in order. -/
  | elements (tables : List Node)

/-- The entries of a table, in order. -/
abbrev Entries := List (Key × Node)

def Node.place? : Node → Option Place
  | scalar place _ => some place
  | array place _ => some place
  | table place _ _ => place
  | elements tables =>
      match tables with
      | table place _ _ :: _ => place
      | _ => none

namespace Entries

def node? (entries : Entries) (name : String) : Option Node :=
  (entries.find? fun entry => entry.1.name == name).map (·.2)

/-- Puts another node under a name that is there. -/
def withNode (entries : Entries) (name : String) (node : Node) : Entries :=
  entries.map fun (key, old) => (key, if key.name = name then node else old)

def without (entries : Entries) (name : String) : Entries :=
  entries.filter fun (key, _) => key.name ≠ name

/-- Whether a route of a given origin may lead through a table of another. Headers lead through all
tables but inline ones; keys of several parts only through tables that no header names. -/
def leadsThrough : Origin → Origin → Bool
  | .dotted, .passage => true
  | .dotted, .dotted => true
  | .dotted, _ => false
  | _, .inline => false
  | _, _ => true

/-- Changes the table at the end of a path. Missing tables on the way get the origin of the route;
of the elements of an array of tables the last one is meant. -/
def alter (route : Origin) (change : Origin → Entries → Option Entries) :
    List Key → Origin → Entries → Option Entries
  | [], own, entries => change own entries
  | key :: path, _, entries =>
      match entries.node? key.name with
      | none =>
          (alter route change path route []).map fun inner =>
            entries ++ [(key, .table none route inner)]
      | some (.table place origin inner) =>
          if leadsThrough route origin then
            (alter route change path origin inner).map fun inner =>
              entries.withNode key.name (.table place origin inner)
          else none
      | some (.elements tables) =>
          match tables.getLast? with
          | some (.table place origin inner) =>
              (alter route change path origin inner).map fun inner =>
                entries.withNode key.name
                  (.elements (tables.dropLast ++ [.table place origin inner]))
          | _ => none
      | some _ => none

def insert? (entries : Entries) (key : Key) (node : Node) : Option Entries :=
  if (entries.node? key.name).isSome then none else some (entries ++ [(key, node)])

/-- Assigns a value to a key of several parts, below a table. The table in which the last part ends
up must be led to by keys alone. -/
def assign (path : List Key) (key : Key) (node : Node) (own : Origin) (entries : Entries) :
    Option Entries :=
  let put (origin : Origin) (inner : Entries) : Option Entries :=
    if path.isEmpty || origin = .dotted then inner.insert? key node else none
  alter .dotted put path own entries

/-- Opens the table that a header names. A table that was only on the way to another moves to the
end of its parent; any other node of the name is a second definition. -/
def openTable (place : Place) (path : List Key) (key : Key) (entries : Entries) :
    Option Entries :=
  let put (_ : Origin) (inner : Entries) : Option Entries :=
    match inner.node? key.name with
    | none => some (inner ++ [(key, .table (some place) .header [])])
    | some (.table _ .passage own) =>
        some (inner.without key.name ++ [(key, .table (some place) .header own)])
    | some _ => none
  alter .passage put path .header entries

/-- Opens another element of the array of tables that a header names. -/
def openElement (place : Place) (path : List Key) (key : Key) (entries : Entries) :
    Option Entries :=
  let fresh : Node := .table (some place) .header []
  let put (_ : Origin) (inner : Entries) : Option Entries :=
    match inner.node? key.name with
    | none => some (inner ++ [(key, .elements [fresh])])
    | some (.elements tables) => some (inner.withNode key.name (.elements (tables ++ [fresh])))
    | some _ => none
  alter .passage put path .header entries

end Entries

end LedgerBoard.Toml
