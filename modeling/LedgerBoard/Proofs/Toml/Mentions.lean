import LedgerBoard.Proofs.Toml.Meaning

/-!
# What a document says where

A statement mentions paths: the scalars, arrays and tables that it makes. Everything in the tree of
a document stems from a mention, and every scalar that is mentioned is in the tree. Both hold
because a change at the end of a path leaves everything else as it was, however the change is made.
-/

namespace LedgerBoard.Toml

inductive Mention where
  | scalar (value : Scalar)
  | array
  | table
  /-- A table of an array of tables. -/
  | element
  deriving DecidableEq

mutual

/-- What a value at a path mentions. The items of an array have no path. -/
def Value.mentions : Value → List String → List (List String × Mention)
  | .scalar value, path => [(path, .scalar value)]
  | .array _, path => [(path, .array)]
  | .inline pairs, path => (path, .table) :: Value.pairMentions pairs path

def Value.pairMentions : List (List String × Value) → List String → List (List String × Mention)
  | [], _ => []
  | (inner, value) :: pairs, path => value.mentions (path ++ inner) ++ Value.pairMentions pairs path

end

/-- What statements mention while the table at a path is open. -/
def mentionsBelow : List String → List Statement → List (List String × Mention)
  | _, [] => []
  | _, .header path :: statements => (path, .table) :: mentionsBelow path statements
  | _, .element path :: statements => (path, .element) :: mentionsBelow path statements
  | opened, .assignment path value :: statements =>
      value.mentions (opened ++ path) ++ mentionsBelow opened statements

def mentions (statements : List Statement) : List (List String × Mention) :=
  mentionsBelow [] statements

namespace Entries

variable {entries : Entries} {key : Key} {node old : Node} {name other : String}

theorem node?_cons (entry : Key × Node) (entries : Entries) (name : String) :
    node? (entry :: entries) name =
      if entry.1.name = name then some entry.2 else entries.node? name := by
  by_cases named : entry.1.name = name <;> simp [node?, named]

theorem node?_eq_none_iff : entries.node? name = none ↔ ∀ entry ∈ entries, entry.1.name ≠ name := by
  simp [node?]

theorem mem_of_node? (found : entries.node? name = some node) :
    ∃ key, (key, node) ∈ entries ∧ key.name = name := by
  obtain ⟨entry, first, rfl⟩ := Option.map_eq_some_iff.mp found
  exact ⟨entry.1, List.mem_of_find?_eq_some first, by simpa using List.find?_some first⟩

theorem node?_snoc (entries : Entries) (key : Key) (node : Node) (name : String) :
    (entries ++ [(key, node)]).node? name =
      (entries.node? name).or (if key.name = name then some node else none) := by
  induction entries with
  | nil => exact node?_cons (key, node) [] name
  | cons entry entries ih =>
      rw [List.cons_append, node?_cons, node?_cons, ih]
      split <;> rfl

theorem node?_withNode (entries : Entries) (name : String) (node : Node) (other : String) :
    (entries.withNode name node).node? other =
      if name = other then (entries.node? name).map fun _ => node else entries.node? other := by
  induction entries with
  | nil => simp [withNode, node?]
  | cons entry entries ih =>
      simp only [withNode, List.map_cons] at ih ⊢
      rw [node?_cons, node?_cons, node?_cons, ih]
      split_ifs <;> simp_all

theorem node?_without (entries : Entries) (name other : String) :
    (entries.without name).node? other = if name = other then none else entries.node? other := by
  induction entries with
  | nil => simp [without, node?]
  | cons entry entries ih =>
      simp only [without, List.filter_cons] at ih ⊢
      rw [node?_cons]
      split_ifs at ih ⊢ <;> simp_all [node?_cons]

/-- How entries change at the end of a path. Tables on the way that are missing are made, and of the
tables of an array the last one is meant. -/
inductive Altered (route : Origin) (change : Origin → Entries → Option Entries) :
    List Key → Origin → Entries → Entries → Prop where
  | here {own : Origin} {entries changed : Entries} (at_end : change own entries = some changed) :
      Altered route change [] own entries changed
  | missing {key : Key} {path : List Key} {own : Origin} {entries changed : Entries}
      (missing : entries.node? key.name = none)
      (inner : Altered route change path route [] changed) :
      Altered route change (key :: path) own entries (entries ++ [(key, .table none route changed)])
  | table {key : Key} {path : List Key} {own origin : Origin} {place : Option Place}
      {entries inner changed : Entries}
      (found : entries.node? key.name = some (.table place origin inner))
      (altered : Altered route change path origin inner changed) :
      Altered route change (key :: path) own entries
        (entries.withNode key.name (.table place origin changed))
  | elements {key : Key} {path : List Key} {own origin : Origin} {place : Option Place}
      {entries inner changed : Entries} {tables : List Node}
      (found : entries.node? key.name = some (.elements (tables ++ [.table place origin inner])))
      (altered : Altered route change path origin inner changed) :
      Altered route change (key :: path) own entries
        (entries.withNode key.name (.elements (tables ++ [.table place origin changed])))

theorem altered_of_alter {route : Origin} {change : Origin → Entries → Option Entries}
    {path : List Key} {own : Origin} {entries changed : Entries}
    (altered : alter route change path own entries = some changed) :
    Altered route change path own entries changed := by
  induction path generalizing own entries changed with
  | nil => exact .here altered
  | cons key path ih =>
      rw [alter] at altered
      split at altered
      · rename_i missing
        obtain ⟨inner, inner_altered, rfl⟩ := Option.map_eq_some_iff.mp altered
        exact .missing missing (ih inner_altered)
      · rename_i place origin inner found
        split at altered
        · obtain ⟨inner', inner_altered, rfl⟩ := Option.map_eq_some_iff.mp altered
          exact .table found (ih inner_altered)
        · cases altered
      · rename_i tables found
        split at altered
        · rename_i place origin inner last
          obtain ⟨inner', inner_altered, rfl⟩ := Option.map_eq_some_iff.mp altered
          have split_last : tables.dropLast ++ [.table place origin inner] = tables :=
            List.dropLast_append_getLast? _ last
          rw [← split_last] at found
          exact .elements found (ih inner_altered)
        · cases altered
      · cases altered

end Entries

section Sources

variable {said : List (List String × Mention)}

/-- Something is mentioned at a path or below it. Exactly at the path, only a table may be
mentioned. -/
def MentionedBelow (said : List (List String × Mention)) (path : List String) : Prop :=
  ∃ mention ∈ said, path <+: mention.1 ∧ (mention.1 = path → mention.2 = .table)

/-- Something is mentioned below a path. -/
def MentionedInside (said : List (List String × Mention)) (path : List String) : Prop :=
  ∃ mention ∈ said, path <+: mention.1 ∧ mention.1 ≠ path

theorem MentionedInside.below {path : List String} (inside : MentionedInside said path) :
    MentionedBelow said path := by
  rcases inside with ⟨mention, mem, below, other⟩
  exact ⟨mention, mem, below, fun same => absurd same other⟩

theorem MentionedInside.of_append {path inner : List String}
    (inside : MentionedInside said (path ++ inner)) :
    MentionedInside said path := by
  rcases inside with ⟨mention, mem, ⟨rest, same⟩, other⟩
  refine ⟨mention, mem, ⟨inner ++ rest, by rw [← List.append_assoc, same]⟩, ?_⟩
  intro at_path
  rw [at_path, List.append_assoc, List.append_right_eq_self, List.append_eq_nil_iff] at same
  rw [same.1, List.append_nil] at other
  exact other at_path

/-- Every part of a node stems from a mention, and no table has a name twice. What the tables of an
array contain does not matter. -/
inductive Node.Stems (said : List (List String × Mention)) : List String → Node → Prop where
  | scalar {path : List String} {place : Place} {value : Scalar}
      (mentioned : (path, .scalar value) ∈ said) :
      Stems said path (.scalar place value)
  | array {path : List String} {place : Place} {items : List Node}
      (mentioned : (path, .array) ∈ said) :
      Stems said path (.array place items)
  | elements {path : List String} {tables : List Node} (mentioned : (path, .element) ∈ said) :
      Stems said path (.elements tables)
  | table {path : List String} {place : Option Place} {origin : Origin}
      {entries : List (Key × Node)} (mentioned : MentionedBelow said path)
      (distinct : (entries.map fun entry => entry.1.name).Nodup)
      (inner : ∀ entry ∈ entries, Stems said (path ++ [entry.1.name]) entry.2) :
      Stems said path (.table place origin entries)

theorem MentionedInside.of_snoc {path inner : List String} {name : String} {mention : Mention}
    (mem : (inner, mention) ∈ said) (below : path ++ [name] <+: inner) :
    MentionedInside said path := by
  rcases below with ⟨rest, rfl⟩
  refine ⟨_, mem, ⟨name :: rest, by simp⟩, by simp⟩

theorem Node.Stems.inside {path : List String} {name : String} {node : Node}
    (stems : node.Stems said (path ++ [name])) : MentionedInside said path := by
  cases stems with
  | scalar mentioned => exact .of_snoc mentioned List.prefix_rfl
  | array mentioned => exact .of_snoc mentioned List.prefix_rfl
  | elements mentioned => exact .of_snoc mentioned List.prefix_rfl
  | table mentioned =>
      rcases mentioned with ⟨mention, mem, below, -⟩
      exact .of_snoc mem below

/-- The entries of a table at a path stem from mentions. -/
structure Entries.Stem (said : List (List String × Mention)) (path : List String)
    (entries : Entries) : Prop where
  distinct : (entries.map fun entry => entry.1.name).Nodup
  inner : ∀ entry ∈ entries, entry.2.Stems said (path ++ [entry.1.name])

namespace Entries

variable {entries changed : Entries} {key : Key} {node : Node} {path : List String} {name : String}

theorem Stem.nil : Stem said path [] :=
  ⟨List.nodup_nil, nofun⟩

theorem Stem.of_table {place : Option Place} {origin : Origin}
    (stems : Node.Stems said path (.table place origin entries)) : Stem said path entries := by
  cases stems with
  | table mentioned distinct inner => exact ⟨distinct, inner⟩

theorem Stem.table (stem : Stem said path entries) (mentioned : MentionedBelow said path)
    (place : Option Place) (origin : Origin) : Node.Stems said path (.table place origin entries) :=
  .table mentioned stem.distinct stem.inner

theorem Stem.node_at (stem : Stem said path entries) (found : entries.node? name = some node) :
    node.Stems said (path ++ [name]) := by
  obtain ⟨key, mem, rfl⟩ := mem_of_node? found
  exact stem.inner _ mem

theorem Stem.snoc (stem : Stem said path entries) (missing : entries.node? key.name = none)
    (stems : node.Stems said (path ++ [key.name])) : Stem said path (entries ++ [(key, node)]) := by
  constructor
  · rw [List.map_append, List.nodup_append]
    refine ⟨stem.distinct, by simp, ?_⟩
    intro name mem other last same
    cases List.mem_singleton.mp last
    obtain ⟨entry, listed, rfl⟩ := List.mem_map.mp mem
    exact node?_eq_none_iff.mp missing entry listed same
  · intro entry mem
    rcases List.mem_append.mp mem with mem | mem
    · exact stem.inner entry mem
    · cases List.mem_singleton.mp mem
      exact stems

theorem Stem.withNode (stem : Stem said path entries) (stems : node.Stems said (path ++ [name])) :
    Stem said path (entries.withNode name node) := by
  constructor
  · have same_names : (entries.withNode name node).map (fun entry => entry.1.name) =
        entries.map fun entry => entry.1.name := by
      simp [Entries.withNode]
    rw [same_names]
    exact stem.distinct
  · intro entry mem
    obtain ⟨old, listed, rfl⟩ := List.mem_map.mp mem
    by_cases named : old.1.name = name
    · simpa [named] using stems
    · simpa [named] using stem.inner old listed

theorem Stem.without (stem : Stem said path entries) (name : String) :
    Stem said path (entries.without name) :=
  ⟨stem.distinct.sublist (List.filter_sublist.map _),
    fun entry mem => stem.inner entry (List.mem_of_mem_filter mem)⟩

/-- A change at the end of a path adds nothing that no mention stands for. -/
theorem Altered.stem {route own : Origin} {change : Origin → Entries → Option Entries}
    {keys : List Key} (altered : Altered route change keys own entries changed)
    (stem : Stem said path entries) (inside : MentionedInside said (path ++ keys.map Key.name))
    (at_end : ∀ own before after, change own before = some after →
      Stem said (path ++ keys.map Key.name) before → Stem said (path ++ keys.map Key.name) after) :
    Stem said path changed := by
  induction altered generalizing path with
  | @here own entries changed change_made =>
      rw [List.map_nil, List.append_nil] at at_end
      exact at_end own entries changed change_made stem
  | @missing key keys own entries changed missing inner ih =>
      rw [List.map_cons, List.append_cons] at inside at_end
      exact stem.snoc missing ((ih .nil inside at_end).table inside.of_append.below none route)
  | @table key keys own origin place entries inner changed found altered ih =>
      rw [List.map_cons, List.append_cons] at inside at_end
      have old := Stem.of_table (stem.node_at found)
      exact stem.withNode ((ih old inside at_end).table inside.of_append.below place origin)
  | @elements key keys own origin place entries inner changed tables found altered ih =>
      cases stem.node_at found with
      | elements mentioned => exact stem.withNode (.elements mentioned)

theorem insert?_eq_some (inserted : entries.insert? key node = some changed) :
    entries.node? key.name = none ∧ changed = entries ++ [(key, node)] := by
  rw [insert?] at inserted
  split at inserted
  · cases inserted
  · rename_i missing
    cases inserted
    exact ⟨by simpa using missing, rfl⟩

theorem Stem.assign {keys : List Key} {own : Origin} (stem : Stem said path entries)
    (stems : node.Stems said (path ++ keys.map Key.name ++ [key.name]))
    (assigned : entries.assign keys key node own = some changed) : Stem said path changed := by
  refine (altered_of_alter assigned).stem stem stems.inside ?_
  intro own before after put before_stem
  split at put
  · obtain ⟨missing, rfl⟩ := insert?_eq_some put
    exact before_stem.snoc missing stems
  · cases put

/-- The names of a path, cut before the last one. -/
theorem names_of_getLast? {keys : List Key} (last : keys.getLast? = some key) :
    keys.map Key.name = keys.dropLast.map Key.name ++ [key.name] := by
  rw [← List.map_singleton, ← List.map_append, List.dropLast_append_getLast? key last]

theorem Stem.withPair {keys : List Key} (stem : Stem said path entries)
    (stems : node.Stems said (path ++ keys.map Key.name))
    (put : entries.withPair (keys, node) = some changed) :
    Stem said path changed := by
  rw [Entries.withPair] at put
  split at put
  · rename_i key last
    rw [names_of_getLast? last, ← List.append_assoc] at stems
    exact stem.assign stems put
  · cases put

theorem Stem.openTable {place : Place} {keys : List Key} (stem : Stem said path entries)
    (mentioned : (path ++ keys.map Key.name ++ [key.name], .table) ∈ said)
    (opened : entries.openTable place keys key = some changed) : Stem said path changed := by
  have below : MentionedBelow said (path ++ keys.map Key.name ++ [key.name]) :=
    ⟨_, mentioned, List.prefix_rfl, fun _ => rfl⟩
  refine (altered_of_alter opened).stem stem (.of_snoc mentioned List.prefix_rfl) ?_
  intro own before after put before_stem
  split at put
  · rename_i missing
    cases put
    exact before_stem.snoc missing (Stem.nil.table below _ _)
  · rename_i place inner found
    cases put
    have inner_stem := Stem.of_table (before_stem.node_at found)
    have missing : (before.without key.name).node? key.name = none := by
      rw [node?_without, if_pos rfl]
    exact (before_stem.without key.name).snoc missing (inner_stem.table below _ _)
  · cases put

theorem Stem.openElement {place : Place} {keys : List Key} (stem : Stem said path entries)
    (mentioned : (path ++ keys.map Key.name ++ [key.name], .element) ∈ said)
    (opened : entries.openElement place keys key = some changed) : Stem said path changed := by
  refine (altered_of_alter opened).stem stem (.of_snoc mentioned List.prefix_rfl) ?_
  intro own before after put before_stem
  split at put
  · rename_i missing
    cases put
    exact before_stem.snoc missing (.elements mentioned)
  · cases put
    exact before_stem.withNode (.elements mentioned)
  · cases put

end Entries

theorem names_keysOf (path : List String) : (keysOf path).map Key.name = path := by
  rw [keysOf, List.map_map]
  exact List.map_id path

mutual

/-- What a value makes stems from what it mentions. -/
theorem Value.stems {value : Value} {path : List String} {node : Node}
    (made : value.node? = some node) (listed : value.mentions path ⊆ said) :
    node.Stems said path := by
  match value with
  | .scalar value =>
      cases made
      exact .scalar (listed List.mem_cons_self)
  | .array items =>
      obtain ⟨nodes, -, rfl⟩ := Option.map_eq_some_iff.mp made
      exact .array (listed List.mem_cons_self)
  | .inline pairs =>
      simp only [Value.node?, Option.bind_eq_some_iff, Option.map_eq_some_iff] at made
      obtain ⟨assignments, assignments_made, entries, put, rfl⟩ := made
      rw [Value.mentions, List.cons_subset] at listed
      have below : MentionedBelow said path := ⟨_, listed.1, List.prefix_rfl, fun _ => rfl⟩
      refine Entries.Stem.table ?_ below _ _
      exact Value.pairs_stem assignments_made listed.2 Entries.Stem.nil put

theorem Value.pairs_stem {pairs : List (List String × Value)} {path : List String}
    {assignments : List (List Key × Node)} {entries changed : Entries}
    (made : Value.assignments? pairs = some assignments)
    (listed : Value.pairMentions pairs path ⊆ said) (stem : Entries.Stem said path entries)
    (put : assignments.foldlM Entries.withPair entries = some changed) :
    Entries.Stem said path changed := by
  match pairs with
  | [] =>
      cases made
      cases put
      exact stem
  | (inner, value) :: pairs =>
      obtain ⟨node, more, value_made, others_made, rfl⟩ := Value.assignments?_cons.mp made
      rw [Value.pairMentions, List.append_subset] at listed
      rw [List.foldlM_cons] at put
      obtain ⟨between, first, others⟩ := Option.bind_eq_some_iff.mp put
      have stems := Value.stems value_made listed.1
      rw [← names_keysOf inner] at stems
      exact Value.pairs_stem others_made listed.2 (stem.withPair stems first) others

end

/-- Everything that a statement can do to a draft. -/
inductive Statement.Applied (draft : Draft) : Statement → Draft → Prop where
  | header {path : List String} {parents : List Key} {key : Key} {entries : Entries}
      (names : path = parents.map Key.name ++ [key.name])
      (opened : draft.entries.openTable [] parents key = some entries) :
      Applied draft (.header path) ⟨entries, keysOf path⟩
  | element {path : List String} {parents : List Key} {key : Key} {entries : Entries}
      (names : path = parents.map Key.name ++ [key.name])
      (opened : draft.entries.openElement [] parents key = some entries) :
      Applied draft (.element path) ⟨entries, keysOf path⟩
  | assignment {path : List String} {value : Value} {node : Node} {parents : List Key} {key : Key}
      {entries : Entries} (names : path = parents.map Key.name ++ [key.name])
      (made : value.node? = some node)
      (altered :
        Entries.Altered .passage (Entries.assign parents key node) draft.opened .header
          draft.entries
        entries) : Applied draft (.assignment path value) ⟨entries, draft.opened⟩

theorem Draft.names_of_splitPath? {path : List String} {parents : List Key} {key : Key}
    (split : splitPath? (keysOf path) = some (parents, key)) :
    path = parents.map Key.name ++ [key.name] := by
  obtain ⟨last, found, ⟨rfl, rfl⟩⟩ := Option.map_eq_some_iff.mp split
  rw [← Entries.names_of_getLast? found, names_keysOf]

theorem Statement.applied_of_apply? {statement : Statement} {draft next : Draft}
    (applied : statement.apply? draft = some next) : statement.Applied draft next := by
  cases statement with
  | header path =>
      obtain ⟨⟨parents, key⟩, split, put⟩ := Option.bind_eq_some_iff.mp applied
      obtain ⟨entries, opened, ⟨rfl⟩⟩ := Option.bind_eq_some_iff.mp put
      exact .header (Draft.names_of_splitPath? split) opened
  | element path =>
      obtain ⟨⟨parents, key⟩, split, put⟩ := Option.bind_eq_some_iff.mp applied
      obtain ⟨entries, opened, ⟨rfl⟩⟩ := Option.bind_eq_some_iff.mp put
      exact .element (Draft.names_of_splitPath? split) opened
  | assignment path value =>
      obtain ⟨node, made, put⟩ := Option.bind_eq_some_iff.mp applied
      obtain ⟨⟨parents, key⟩, split, assigned⟩ := Option.bind_eq_some_iff.mp put
      obtain ⟨entries, altered, ⟨rfl⟩⟩ := Option.bind_eq_some_iff.mp assigned
      exact .assignment (Draft.names_of_splitPath? split) made (Entries.altered_of_alter altered)

/-- What every statement keeps holds at the end of a document, if it holds at its start. -/
theorem tree?_induction {statements : List Statement} {tree : Entries}
    (kept : Draft → List Statement → Prop) (made : tree? statements = some tree)
    (start : kept ⟨[], []⟩ statements)
    (step : ∀ {statement : Statement} {others : List Statement} {draft next : Draft},
      statement.Applied draft next → kept draft (statement :: others) → kept next others) :
    ∃ opened, kept ⟨tree, opened⟩ [] := by
  obtain ⟨last, applied, rfl⟩ := Option.map_eq_some_iff.mp made
  suffices from_any : ∀ (others : List Statement)
      (draft : Draft), others.foldlM Statement.apply? draft = some last →
      kept draft others → kept last [] from ⟨last.opened, from_any statements _ applied start⟩
  intro others
  induction others with
  | nil =>
      rintro draft ⟨rfl⟩ holds
      exact holds
  | cons statement others ih =>
      intro draft applied holds
      obtain ⟨next, first, rest⟩ := Option.bind_eq_some_iff.mp applied
      exact ih next rest (step (Statement.applied_of_apply? first) holds)

/-- A statement adds nothing that it does not mention. -/
theorem Statement.Applied.stem {statement : Statement} {statements : List Statement}
    {draft next : Draft} (applied : statement.Applied draft next)
    (stem : Entries.Stem said [] draft.entries)
    (listed : mentionsBelow (draft.opened.map Key.name) (statement :: statements) ⊆ said) :
    Entries.Stem said [] next.entries ∧
    mentionsBelow (next.opened.map Key.name) statements ⊆ said := by
  cases applied with
  | header names opened =>
      subst names
      rw [mentionsBelow, List.cons_subset] at listed
      rw [names_keysOf]
      exact ⟨stem.openTable listed.1 opened, listed.2⟩
  | element names opened =>
      subst names
      rw [mentionsBelow, List.cons_subset] at listed
      rw [names_keysOf]
      exact ⟨stem.openElement listed.1 opened, listed.2⟩
  | assignment names made altered =>
      subst names
      rw [mentionsBelow, List.append_subset] at listed
      have stems := Value.stems made listed.1
      rw [← List.append_assoc] at stems
      refine ⟨?_, listed.2⟩
      apply altered.stem stem stems.inside.of_append
      intro own before after assigned before_stem
      exact before_stem.assign stems assigned

/-- Everything in the tree of a document stems from what it mentions. -/
theorem tree_stems {statements : List Statement} {tree : Entries}
    (made : tree? statements = some tree) :
    Entries.Stem (mentions statements) [] tree := by
  let kept (draft : Draft) (others : List Statement) : Prop :=
    Entries.Stem (mentions statements) [] draft.entries ∧
      mentionsBelow (draft.opened.map Key.name) others ⊆ mentions statements
  have start : kept ⟨[], []⟩ statements := ⟨.nil, List.Subset.refl _⟩
  obtain ⟨opened, stem, -⟩ :=
    tree?_induction kept made start fun applied known => applied.stem known.1 known.2
  exact stem

end Sources

end LedgerBoard.Toml
