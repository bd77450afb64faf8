import LedgerBoard.Proofs.Toml.Grammar
import LedgerBoard.Toml.Document

/-!
# The meaning of settings documents

Statements make a tree, unless one of them defines a key a second time. The tree is the one that a
document makes with all places left out: building it does not look at them.
-/

namespace LedgerBoard.Toml

def Key.unplaced (key : Key) : Key :=
  ⟨key.name, []⟩

@[simp]
theorem Key.unplaced_name (key : Key) : key.unplaced.name = key.name :=
  rfl

mutual

/-- A node as it would be if nothing had a place. -/
def Node.unplaced : Node → Node
  | .scalar _ value => .scalar [] value
  | .array _ items => .array [] (Node.allUnplaced items)
  | .table place origin entries => .table (place.map fun _ => []) origin (Entries.unplaced entries)
  | .elements tables => .elements (Node.allUnplaced tables)

def Node.allUnplaced : List Node → List Node
  | [] => []
  | node :: nodes => node.unplaced :: Node.allUnplaced nodes

def Entries.unplaced : Entries → Entries
  | [] => []
  | (key, node) :: entries => (key.unplaced, node.unplaced) :: Entries.unplaced entries

end

def Draft.unplaced (draft : Draft) : Draft :=
  ⟨Entries.unplaced draft.entries, draft.opened.map Key.unplaced⟩

def keysOf (path : List String) : List Key :=
  path.map fun name => ⟨name, []⟩

mutual

/-- The node that a value makes, unless an inline table in it defines a key twice. -/
def Value.node? : Value → Option Node
  | .scalar value => some (.scalar [] value)
  | .array items => (Value.nodes? items).map (.array [])
  | .inline pairs => (Value.assignments? pairs).bind fun assignments =>
      (Entries.ofPairs? assignments).map (.table (some []) .inline)

def Value.nodes? : List Value → Option (List Node)
  | [] => some []
  | value :: values => do return (← value.node?) :: (← Value.nodes? values)

def Value.assignments? : List (List String × Value) → Option (List (List Key × Node))
  | [] => some []
  | (path, value) :: pairs => do return (keysOf path, ← value.node?) :: (← Value.assignments? pairs)

end

theorem Value.nodes?_cons {value : Value} {values : List Value} {nodes : List Node} :
    Value.nodes? (value :: values) = some nodes ↔
      ∃ node more, value.node? = some node ∧ Value.nodes? values = some more ∧
      nodes = node :: more := by
  simp only [Value.nodes?, Option.bind_eq_bind, Option.bind_eq_some_iff]
  constructor
  · rintro ⟨node, made, more, others_made, ⟨rfl⟩⟩
    exact ⟨node, more, made, others_made, rfl⟩
  · rintro ⟨node, more, made, others_made, rfl⟩
    exact ⟨node, made, more, others_made, rfl⟩

theorem Value.assignments?_cons {path : List String} {value : Value}
    {pairs : List (List String × Value)} {assignments : List (List Key × Node)} :
    Value.assignments? ((path, value) :: pairs) = some assignments ↔
      ∃ node more, value.node? = some node ∧ Value.assignments? pairs = some more ∧
        assignments = (keysOf path, node) :: more := by
  simp only [Value.assignments?, Option.bind_eq_bind, Option.bind_eq_some_iff]
  constructor
  · rintro ⟨node, made, more, others_made, ⟨rfl⟩⟩
    exact ⟨node, more, made, others_made, rfl⟩
  · rintro ⟨node, more, made, others_made, rfl⟩
    exact ⟨node, made, more, others_made, rfl⟩

def Statement.apply? (draft : Draft) : Statement → Option Draft
  | .header path => draft.openHeader [] false (keysOf path)
  | .element path => draft.openHeader [] true (keysOf path)
  | .assignment path value => value.node?.bind (draft.assign (keysOf path))

/-- The tree that statements make, unless a key is defined twice. -/
def tree? (statements : List Statement) : Option Entries :=
  (statements.foldlM Statement.apply? ⟨[], []⟩).map Draft.entries

theorem map_unplaced {keys : List Key} {path : List String} (names : keys.map Key.name = path) :
    keys.map Key.unplaced = keysOf path := by
  rw [← names, keysOf, List.map_map]
  rfl

theorem Node.allUnplaced_eq_map (nodes : List Node) :
    Node.allUnplaced nodes = nodes.map Node.unplaced := by
  induction nodes with
  | nil => rfl
  | cons node others ih => rw [Node.allUnplaced, List.map_cons, ih]

namespace Entries

variable {change plain : Origin → Entries → Option Entries} {key : Key} {node : Node}

theorem unplaced_eq_map (entries : Entries) :
    unplaced entries = entries.map fun entry => (entry.1.unplaced, entry.2.unplaced) := by
  induction entries with
  | nil => rfl
  | cons entry others ih => rw [unplaced, List.map_cons, ih]

theorem unplaced_append (entries others : Entries) :
    unplaced (entries ++ others) = unplaced entries ++ unplaced others := by
  simp [unplaced_eq_map]

theorem unplaced_snoc (entries : Entries) (key : Key) (node : Node) :
    unplaced (entries ++ [(key, node)]) = unplaced entries ++ [(key.unplaced, node.unplaced)] :=
  unplaced_append entries [(key, node)]

theorem node?_unplaced (entries : Entries) (name : String) :
    (unplaced entries).node? name = (entries.node? name).map Node.unplaced := by
  induction entries with
  | nil => rfl
  | cons entry others ih =>
      simp only [node?] at ih
      simp only [unplaced, node?, List.find?_cons, Key.unplaced]
      split
      · rfl
      · exact ih

theorem unplaced_withNode (entries : Entries) (name : String) (node : Node) :
    unplaced (entries.withNode name node) = (unplaced entries).withNode name node.unplaced := by
  simp only [unplaced_eq_map, withNode, List.map_map]
  apply List.map_congr_left
  intro entry mem
  by_cases named : entry.1.name = name <;> simp [Key.unplaced, named]

theorem unplaced_without (entries : Entries) (name : String) :
    unplaced (entries.without name) = (unplaced entries).without name := by
  simp only [unplaced_eq_map, without, List.filter_map]
  rfl

theorem alter_unplaced {route : Origin}
    (same : ∀ own entries, (change own entries).map unplaced = plain own (unplaced entries))
    (path : List Key) (own : Origin) (entries : Entries) :
    (alter route change path own entries).map unplaced =
      alter route plain (path.map Key.unplaced) own (unplaced entries) := by
  induction path generalizing own entries with
  | nil => exact same own entries
  | cons key path ih =>
      rw [List.map_cons, alter, alter, Key.unplaced_name, node?_unplaced]
      cases entries.node? key.name with
      | none =>
          have inner := ih route []
          rw [unplaced] at inner
          simp only [Option.map_none, ← inner, Option.map_map]
          congr 1
          funext inner
          exact unplaced_snoc entries key (.table none route inner)
      | some node =>
          cases node with
          | scalar place value => rfl
          | array place items => rfl
          | table place origin inner =>
              simp only [Option.map_some, Node.unplaced, ← ih]
              split
              · rw [Option.map_map, Option.map_map]
                congr 1
                funext inner
                exact unplaced_withNode entries key.name (.table place origin inner)
              · rfl
          | elements tables =>
              simp only [Option.map_some, Node.unplaced, Node.allUnplaced_eq_map, List.getLast?_map]
              cases tables.getLast? with
              | none => rfl
              | some last =>
                  cases last with
                  | scalar place value => rfl
                  | array place items => rfl
                  | elements inner => rfl
                  | table place origin inner =>
                      simp only [Option.map_some, Node.unplaced, ← ih, Option.map_map]
                      congr 1
                      funext inner
                      have put := unplaced_withNode entries key.name
                        (.elements (tables.dropLast ++ [.table place origin inner]))
                      simpa [Node.unplaced, Node.allUnplaced_eq_map] using put

theorem insert?_unplaced (entries : Entries) (key : Key) (node : Node) :
    (entries.insert? key node).map unplaced =
      (unplaced entries).insert? key.unplaced node.unplaced := by
  rw [insert?, insert?, Key.unplaced_name, node?_unplaced, Option.isSome_map]
  split
  · rfl
  · exact congrArg some (unplaced_snoc entries key node)

theorem assign_unplaced (path : List Key) (key : Key) (node : Node) (own : Origin)
    (entries : Entries) :
    (entries.assign path key node own).map unplaced =
      (unplaced entries).assign (path.map Key.unplaced) key.unplaced node.unplaced own := by
  apply alter_unplaced
  intro own entries
  simp only [List.isEmpty_map]
  split
  · exact insert?_unplaced entries key node
  · rfl

theorem openTable_unplaced (place : Place) (path : List Key) (key : Key) (entries : Entries) :
    (entries.openTable place path key).map unplaced =
      (unplaced entries).openTable [] (path.map Key.unplaced) key.unplaced := by
  apply alter_unplaced
  intro own entries
  rw [Key.unplaced_name, node?_unplaced]
  cases entries.node? key.name with
  | none => exact congrArg some (unplaced_snoc entries key _)
  | some node =>
      cases node with
      | table place origin inner =>
          cases origin with
          | passage =>
              refine congrArg some ((unplaced_snoc (entries.without key.name) key _).trans ?_)
              rw [unplaced_without]
              rfl
          | _ => rfl
      | _ => rfl

theorem openElement_unplaced (place : Place) (path : List Key) (key : Key) (entries : Entries) :
    (entries.openElement place path key).map unplaced =
      (unplaced entries).openElement [] (path.map Key.unplaced) key.unplaced := by
  apply alter_unplaced
  intro own entries
  rw [Key.unplaced_name, node?_unplaced]
  cases entries.node? key.name with
  | none => exact congrArg some (unplaced_snoc entries key _)
  | some node =>
      cases node with
      | elements tables =>
          refine congrArg some ((unplaced_withNode entries key.name _).trans ?_)
          simp only [Node.unplaced, Node.allUnplaced_eq_map, List.map_append]
          rfl
      | _ => rfl

/-- An inline table with one pair more. -/
def withPair (entries : Entries) (pair : List Key × Node) : Option Entries :=
  match pair.1.getLast? with
  | some key => entries.assign pair.1.dropLast key pair.2 .inline
  | none => none

theorem withPair_unplaced (entries : Entries) (pair : List Key × Node) :
    (entries.withPair pair).map unplaced =
      (unplaced entries).withPair (pair.1.map Key.unplaced, pair.2.unplaced) := by
  rw [withPair, withPair, List.getLast?_map]
  cases pair.1.getLast? with
  | none => rfl
  | some key =>
      rw [assign_unplaced, List.map_dropLast]
      rfl

theorem ofPairs?_unplaced (pairs : List (List Key × Node)) :
    (ofPairs? pairs).map unplaced =
      ofPairs? (pairs.map fun pair => (pair.1.map Key.unplaced, pair.2.unplaced)) := by
  have from_any : ∀ start : Entries, (pairs.foldlM withPair start).map unplaced =
      (pairs.map fun pair => (pair.1.map Key.unplaced, pair.2.unplaced)).foldlM withPair
        (unplaced start) := by
    induction pairs with
    | nil => exact fun start => rfl
    | cons pair pairs ih =>
        intro start
        rw [List.map_cons, List.foldlM_cons, List.foldlM_cons, ← withPair_unplaced]
        cases start.withPair pair with
        | none => rfl
        | some entries => exact ih entries
  exact from_any []

end Entries

namespace Draft

theorem splitPath?_unplaced (path : List Key) :
    splitPath? (path.map Key.unplaced) =
      (splitPath? path).map fun split => (split.1.map Key.unplaced, split.2.unplaced) := by
  rw [splitPath?, splitPath?, List.getLast?_map, Option.map_map, Option.map_map,
    ← List.map_dropLast]
  rfl

/-- A header opens the same table wherever it stands. -/
theorem openHeader_unplaced (draft : Draft) (place : Place) (element : Bool) (path : List Key) :
    (draft.openHeader place element path).map unplaced =
      draft.unplaced.openHeader [] element (path.map Key.unplaced) := by
  rw [openHeader, openHeader, splitPath?_unplaced]
  cases splitPath? path with
  | none => rfl
  | some split =>
      cases element with
      | true =>
          simp only [Option.map_some, Option.bind_eq_bind, Option.bind_some, if_true]
          rw [unplaced, ← Entries.openElement_unplaced place]
          cases draft.entries.openElement place split.1 split.2 <;> rfl
      | false =>
          simp only [Option.map_some, Option.bind_eq_bind, Option.bind_some, Bool.false_eq_true,
            if_false]
          rw [unplaced, ← Entries.openTable_unplaced place]
          cases draft.entries.openTable place split.1 split.2 <;> rfl

theorem assign_unplaced (draft : Draft) (path : List Key) (node : Node) :
    (draft.assign path node).map unplaced =
      draft.unplaced.assign (path.map Key.unplaced) node.unplaced := by
  rw [assign, assign, splitPath?_unplaced]
  cases splitPath? path with
  | none => rfl
  | some split =>
      simp only [Option.map_some, Option.bind_eq_bind, Option.bind_some]
      rw [unplaced, ← Entries.alter_unplaced (Entries.assign_unplaced split.1 split.2 node)]
      cases draft.entries.alter .passage (Entries.assign split.1 split.2 node)
        draft.opened .header <;> rfl

end Draft

end LedgerBoard.Toml
