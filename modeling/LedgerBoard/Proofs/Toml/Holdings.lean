import LedgerBoard.Proofs.Toml.Mentions

/-!
# What a tree holds

Every scalar that a document mentions is in its tree, at the path of the mention. Once it is there,
no other statement takes it away.
-/

namespace LedgerBoard.Toml

variable {value : Scalar}

/-- A scalar is at a path in a node. A path into an array of tables may lead into any of them. -/
inductive Node.Holds (value : Scalar) : List String → Node → Prop where
  | here {place : Place} : Holds value [] (.scalar place value)
  | table {name : String} {rest : List String} {place : Option Place} {origin : Origin}
      {entries : List (Key × Node)} {node : Node} (found : Entries.node? entries name = some node)
      (inner : Holds value rest node) : Holds value (name :: rest) (.table place origin entries)
  | element {path : List String} {tables : List Node} {table : Node} (mem : table ∈ tables)
      (inner : Holds value path table) : Holds value path (.elements tables)

/-- A scalar is at a path below a table. -/
def Entries.Hold (value : Scalar) (path : List String) (entries : Entries) : Prop :=
  ∃ name rest node, path = name :: rest ∧ entries.node? name = some node ∧ node.Holds value rest

namespace Entries

variable {entries changed : Entries} {key : Key} {node old : Node} {path : List String}
  {name : String}

theorem holds_table_iff {place : Option Place} {origin : Origin} :
    (Node.table place origin entries).Holds value path ↔ entries.Hold value path := by
  constructor
  · intro holds
    cases holds with
    | table found inner => exact ⟨_, _, _, rfl, found, inner⟩
  · rintro ⟨name, rest, node, rfl, found, inner⟩
    exact .table found inner

theorem Hold.snoc (hold : entries.Hold value path) (key : Key) (node : Node) :
    Hold value path (entries ++ [(key, node)]) := by
  rcases hold with ⟨name, rest, found, rfl, at_name, inner⟩
  exact ⟨name, rest, found, rfl, by rw [node?_snoc, at_name]; rfl, inner⟩

theorem hold_snoc (missing : entries.node? key.name = none) (holds : node.Holds value path) :
    Hold value (key.name :: path) (entries ++ [(key, node)]) :=
  ⟨key.name, path, node, rfl, by rw [node?_snoc, missing, if_pos rfl]; rfl, holds⟩

theorem Hold.withNode (hold : entries.Hold value path) (found : entries.node? name = some old)
    (kept : ∀ rest, old.Holds value rest → node.Holds value rest) :
    Hold value path (entries.withNode name node) := by
  rcases hold with ⟨other, rest, at_other, rfl, other_found, inner⟩
  by_cases same : name = other
  · subst same
    cases other_found.symm.trans found
    exact ⟨name, rest, node, rfl, by rw [node?_withNode, if_pos rfl, found]; rfl, kept rest inner⟩
  · exact ⟨other, rest, at_other, rfl, by rw [node?_withNode, if_neg same, other_found], inner⟩

theorem hold_withNode (found : entries.node? name = some old) (holds : node.Holds value path) :
    Hold value (name :: path) (entries.withNode name node) :=
  ⟨name, path, node, rfl, by rw [node?_withNode, if_pos rfl, found]; rfl, holds⟩

/-- A node may move to the end if it keeps what it holds. -/
theorem Hold.reopened (hold : entries.Hold value path) (found : entries.node? key.name = some old)
    (kept : ∀ rest, old.Holds value rest → node.Holds value rest) :
    Hold value path (entries.without key.name ++ [(key, node)]) := by
  have missing : (entries.without key.name).node? key.name = none := by
    rw [node?_without, if_pos rfl]
  rcases hold with ⟨other, rest, at_other, rfl, other_found, inner⟩
  by_cases same : key.name = other
  · subst same
    cases other_found.symm.trans found
    exact hold_snoc missing (kept rest inner)
  · have still : (entries.without key.name).Hold value (other :: rest) :=
      ⟨other, rest, at_other, rfl, by rw [node?_without, if_neg same, other_found], inner⟩
    exact still.snoc key node

/-- What is held stays held when a table at the end of a path changes. -/
theorem Altered.hold {route own : Origin} {change : Origin → Entries → Option Entries}
    {keys : List Key} (altered : Altered route change keys own entries changed)
    (at_end : ∀ own before after, change own before = some after →
      ∀ path, before.Hold value path → after.Hold value path)
    (hold : entries.Hold value path) : changed.Hold value path := by
  induction altered generalizing path with
  | here change_made => exact at_end _ _ _ change_made path hold
  | missing missing inner ih => exact hold.snoc _ _
  | table found altered ih =>
      refine hold.withNode found fun rest holds => ?_
      exact holds_table_iff.mpr (ih (holds_table_iff.mp holds))
  | elements found altered ih =>
      refine hold.withNode found fun rest holds => ?_
      cases holds with
      | element mem inner =>
          rcases List.mem_append.mp mem with mem | mem
          · exact .element (List.mem_append_left _ mem) inner
          · cases List.mem_singleton.mp mem
            exact .element (List.mem_append_right _ List.mem_cons_self)
              (holds_table_iff.mpr (ih (holds_table_iff.mp inner)))

/-- What a change puts into the table at the end of a path is held at this path. -/
theorem Altered.hold_new {route own : Origin} {change : Origin → Entries → Option Entries}
    {keys : List Key} (altered : Altered route change keys own entries changed)
    (at_end : ∀ own before after, change own before = some after → after.Hold value path) :
    changed.Hold value (keys.map Key.name ++ path) := by
  induction altered with
  | here change_made => exact at_end _ _ _ change_made
  | missing missing inner ih => exact hold_snoc missing (holds_table_iff.mpr ih)
  | table found altered ih => exact hold_withNode found (holds_table_iff.mpr ih)
  | elements found altered ih =>
      exact hold_withNode found
        (.element (List.mem_append_right _ List.mem_cons_self) (holds_table_iff.mpr ih))

theorem Hold.assign {keys : List Key} {own : Origin} (hold : entries.Hold value path)
    (assigned : entries.assign keys key node own = some changed) : changed.Hold value path := by
  refine (altered_of_alter assigned).hold ?_ hold
  intro own before after put path before_hold
  split at put
  · obtain ⟨missing, rfl⟩ := insert?_eq_some put
    exact before_hold.snoc key node
  · cases put

theorem hold_assign {keys : List Key} {own : Origin} (holds : node.Holds value path)
    (assigned : entries.assign keys key node own = some changed) :
    changed.Hold value (keys.map Key.name ++ key.name :: path) := by
  refine (altered_of_alter assigned).hold_new ?_
  intro own before after put
  split at put
  · obtain ⟨missing, rfl⟩ := insert?_eq_some put
    exact hold_snoc missing holds
  · cases put

theorem Hold.openTable {place : Place} {keys : List Key} (hold : entries.Hold value path)
    (opened : entries.openTable place keys key = some changed) : changed.Hold value path := by
  refine (altered_of_alter opened).hold ?_ hold
  intro own before after put path before_hold
  split at put
  · cases put
    exact before_hold.snoc _ _
  · rename_i at_place inner found
    cases put
    exact before_hold.reopened found fun rest holds =>
      holds_table_iff.mpr (holds_table_iff.mp holds)
  · cases put

theorem Hold.openElement {place : Place} {keys : List Key} (hold : entries.Hold value path)
    (opened : entries.openElement place keys key = some changed) : changed.Hold value path := by
  refine (altered_of_alter opened).hold ?_ hold
  intro own before after put path before_hold
  split at put
  · cases put
    exact before_hold.snoc _ _
  · rename_i tables found
    cases put
    refine before_hold.withNode found fun rest holds => ?_
    cases holds with
    | element mem inner => exact .element (List.mem_append_left _ mem) inner
  · cases put

theorem Hold.withPair {pair : List Key × Node} (hold : entries.Hold value path)
    (put : entries.withPair pair = some changed) : changed.Hold value path := by
  rw [Entries.withPair] at put
  split at put
  · exact hold.assign put
  · cases put

theorem hold_withPair {keys : List Key} (holds : node.Holds value path)
    (put : entries.withPair (keys, node) = some changed) :
    changed.Hold value (keys.map Key.name ++ path) := by
  rw [Entries.withPair] at put
  split at put
  · rename_i key last
    rw [names_of_getLast? last, List.append_assoc]
    exact hold_assign holds put
  · cases put

theorem Hold.withPairs {pairs : List (List Key × Node)} (hold : entries.Hold value path)
    (put : pairs.foldlM Entries.withPair entries = some changed) : changed.Hold value path := by
  induction pairs generalizing entries with
  | nil =>
      cases put
      exact hold
  | cons pair pairs ih =>
      obtain ⟨between, first, others⟩ := Option.bind_eq_some_iff.mp put
      exact ih (hold.withPair first) others

end Entries

mutual

/-- What a value makes holds each scalar that the value mentions. -/
theorem Value.holds {written : Value} {path target : List String} {node : Node}
    (made : written.node? = some node) (listed : (target, .scalar value) ∈ written.mentions path) :
    ∃ rest, target = path ++ rest ∧ node.Holds value rest := by
  match written with
  | .scalar found =>
      cases made
      cases List.mem_singleton.mp listed
      exact ⟨[], (List.append_nil path).symm, .here⟩
  | .array items => cases List.mem_singleton.mp listed
  | .inline pairs =>
      simp only [Value.node?, Option.bind_eq_some_iff, Option.map_eq_some_iff] at made
      obtain ⟨assignments, assignments_made, entries, put, rfl⟩ := made
      rcases List.mem_cons.mp listed with same | listed
      · cases same
      · obtain ⟨rest, same, hold⟩ := Value.pairs_hold assignments_made listed put
        exact ⟨rest, same, Entries.holds_table_iff.mpr hold⟩

theorem Value.pairs_hold {pairs : List (List String × Value)} {path target : List String}
    {assignments : List (List Key × Node)} {entries changed : Entries}
    (made : Value.assignments? pairs = some assignments)
    (listed : (target, .scalar value) ∈ Value.pairMentions pairs path)
    (put : assignments.foldlM Entries.withPair entries = some changed) :
    ∃ rest, target = path ++ rest ∧ changed.Hold value rest := by
  match pairs with
  | [] => cases listed
  | (inner, written) :: pairs =>
      obtain ⟨node, more, value_made, others_made, rfl⟩ := Value.assignments?_cons.mp made
      obtain ⟨between, first, others⟩ := Option.bind_eq_some_iff.mp put
      rcases List.mem_append.mp listed with listed | listed
      · obtain ⟨rest, rfl, holds⟩ := Value.holds value_made listed
        refine ⟨inner ++ rest, List.append_assoc .., ?_⟩
        have hold := Entries.hold_withPair holds first
        rw [names_keysOf] at hold
        exact hold.withPairs others
      · exact Value.pairs_hold others_made listed others

end

/-- A statement keeps what is held, and adds the scalars that it mentions. -/
theorem Statement.Applied.hold {statement : Statement} {statements : List Statement}
    {draft next : Draft} {path : List String} (applied : statement.Applied draft next)
    (known : (path, .scalar value) ∈
      mentionsBelow (draft.opened.map Key.name) (statement :: statements) ∨
      draft.entries.Hold value path) :
    (path, .scalar value) ∈ mentionsBelow (next.opened.map Key.name) statements ∨
      next.entries.Hold value path := by
  cases applied with
  | header names opened =>
      rw [names_keysOf]
      rcases known with listed | hold
      · left
        simpa [mentionsBelow] using listed
      · exact .inr (hold.openTable opened)
  | element names opened =>
      rw [names_keysOf]
      rcases known with listed | hold
      · left
        simpa [mentionsBelow] using listed
      · exact .inr (hold.openElement opened)
  | assignment names made altered =>
      subst names
      rcases known with listed | hold
      · rcases List.mem_append.mp listed with listed | listed
        · obtain ⟨rest, rfl, holds⟩ := Value.holds made listed
          right
          rw [List.append_assoc, List.append_assoc]
          exact altered.hold_new fun own before after assigned => Entries.hold_assign holds assigned
        · exact .inl listed
      · exact .inr
          (altered.hold
            (fun own before after assigned path before_hold => before_hold.assign assigned) hold)

/-- Every scalar that a document mentions is in its tree. -/
theorem tree_holds {statements : List Statement} {tree : Entries} {path : List String}
    (made : tree? statements = some tree) (listed : (path, .scalar value) ∈ mentions statements) :
    tree.Hold value path := by
  let kept (draft : Draft) (others : List Statement) : Prop :=
    (path, .scalar value) ∈ mentionsBelow (draft.opened.map Key.name) others ∨
      draft.entries.Hold value path
  obtain ⟨opened, listed | hold⟩ :=
    tree?_induction kept made (.inl listed) fun applied known => applied.hold known
  · cases listed
  · exact hold

end LedgerBoard.Toml
