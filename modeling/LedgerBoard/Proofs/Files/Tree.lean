import Mathlib.Data.List.Basic
import LedgerBoard.Files.Tree

/-!
# What a change of a file tree changes

Putting a tree at a place and removing what is at a place change nothing elsewhere. What is
elsewhere is compared by `Tree.at?`, which sees a file with its octets but a directory without its
entries, because a directory on the way to the place does get another entry.
-/

namespace LedgerBoard.Tree

variable {tree node found : Tree} {name : String} {place other below : List String}

/-- Looking for a long place is looking twice. -/
theorem find?_append : find? (place ++ below) tree = (find? place tree).bind (find? below) := by
  induction place generalizing tree with
  | nil => rfl
  | cons name place ih =>
      simp only [List.cons_append, find?, Option.bind_assoc]
      exact Option.bind_congr fun inner _ => ih

/-- A file as it is, and a directory without its entries. -/
def top (tree : Tree) : Tree :=
  tree.withEntries []

/-- What is at a place, without what is below it. -/
def at? (place : List String) (tree : Tree) : Option Tree :=
  (tree.find? place).map top

def HasDirectory (place : List String) (tree : Tree) : Prop :=
  ∃ mode, tree.at? place = some (.directory mode [])

theorem at?_append (here : tree.find? place = some found) :
    tree.at? (place ++ below) = found.at? below := by
  rw [at?, find?_append, here, Option.bind_some, at?]

theorem at?_eq_none_iff : tree.at? place = none ↔ tree.find? place = none := by
  rw [at?, Option.map_eq_none_iff]

theorem at?_eq_file_iff {mode : Nat} {octets : List UInt8} :
    tree.at? place = some (.file mode octets) ↔ tree.find? place = some (.file mode octets) := by
  rw [at?, Option.map_eq_some_iff]
  constructor
  · rintro ⟨node, here, same⟩
    cases node with
    | file => rwa [← same]
    | directory => cases same
  · exact fun here => ⟨_, here, rfl⟩

theorem hasDirectory_iff :
    tree.HasDirectory place ↔
    ∃ mode entries, tree.find? place = some (.directory mode entries) := by
  simp only [HasDirectory, at?, Option.map_eq_some_iff]
  constructor
  · rintro ⟨mode, node, here, same⟩
    cases node with
    | file => cases same
    | directory mode entries => exact ⟨_, _, here⟩
  · rintro ⟨mode, entries, here⟩
    exact ⟨mode, _, here, rfl⟩

/-- What is present is a directory or a file. -/
theorem hasDirectory_or_file (present : tree.at? place ≠ none) :
    tree.HasDirectory place ∨ ∃ mode octets, tree.at? place = some (.file mode octets) := by
  obtain ⟨seen, here⟩ := Option.ne_none_iff_exists'.mp present
  obtain ⟨node, found, rfl⟩ := Option.map_eq_some_iff.mp here
  cases node with
  | file mode octets => exact .inr ⟨mode, octets, here⟩
  | directory mode entries => exact .inl ⟨mode, here⟩

/-- Whatever is below a place, there is a directory at the place. -/
theorem hasDirectory_of_below (here : tree.find? (place ++ below) = some found)
    (lower : below ≠ []) :
    tree.HasDirectory place := by
  rw [find?_append, Option.bind_eq_some_iff] at here
  obtain ⟨node, at_place, inside⟩ := here
  cases below with
  | nil => contradiction
  | cons name below =>
      cases node with
      | file => cases inside
      | directory mode entries => exact hasDirectory_iff.mpr ⟨_, _, at_place⟩

section Entries

variable {entries : List (String × Tree)} {wanted : String}

theorem lookup_cons_eq_ite :
    ((name, node) :: entries).lookup wanted =
      if wanted = name then some node else entries.lookup wanted := by
  by_cases same : wanted = name
  · rw [if_pos same, same, List.lookup_cons_self]
  · rw [if_neg same, List.lookup_cons, beq_false_of_ne same]

/-- An entry that was set is found, and all others stay. -/
theorem lookup_setEntry :
    (setEntry name node entries).lookup wanted =
      if wanted = name then some node else entries.lookup wanted := by
  induction entries with
  | nil => rw [setEntry, lookup_cons_eq_ite]
  | cons entry entries ih =>
      obtain ⟨key, value⟩ := entry
      by_cases same : key = name
      · rw [setEntry, if_pos same, lookup_cons_eq_ite, lookup_cons_eq_ite, same]
        split <;> rfl
      · rw [setEntry, if_neg same, lookup_cons_eq_ite, ih, lookup_cons_eq_ite]
        grind

/-- An entry that was removed is not found, and all others stay. -/
theorem lookup_removeEntry :
    (entries.filter fun entry => entry.1 ≠ name).lookup wanted =
      if wanted = name then none else entries.lookup wanted := by
  induction entries with
  | nil => simp
  | cons entry entries ih =>
      obtain ⟨key, value⟩ := entry
      by_cases same : key = name
      · rw [List.filter_cons_of_neg (by simp [same]), ih, lookup_cons_eq_ite]
        grind
      · rw [List.filter_cons_of_pos (by simp [same]), lookup_cons_eq_ite, ih, lookup_cons_eq_ite]
        grind

end Entries

@[simp] theorem at?_nil : tree.at? [] = some tree.top := rfl

theorem at?_cons : tree.at? (name :: place) = (tree.entries.lookup name).bind (at? place) := by
  rw [at?, find?, Option.map_bind]
  rfl

@[simp] theorem top_withEntries (entries : List (String × Tree)) :
    (tree.withEntries entries).top = tree.top := by
  cases tree <;> rfl

theorem hasDirectory_cons_iff : tree.HasDirectory (name :: place) ↔
    ∃ inner, tree.entries.lookup name = some inner ∧ inner.HasDirectory place := by
  simp only [HasDirectory, at?_cons, Option.bind_eq_some_iff]
  grind

theorem isDirectory_of_lookup (entry : tree.entries.lookup name = some found) :
    tree.isDirectory = true := by
  cases tree with
  | file => cases entry
  | directory => rfl

theorem HasDirectory.isDirectory (here : tree.HasDirectory []) : tree.isDirectory = true := by
  obtain ⟨mode, entries, ⟨⟩⟩ := hasDirectory_iff.mp here
  rfl

/-- What an entry is set to is seen below its name, and nowhere else. -/
theorem at?_withEntry {wanted : String} (changed : tree.isDirectory = true ∨ wanted ≠ name) :
    (tree.withEntries (setEntry name node tree.entries)).at? (wanted :: other) =
      if wanted = name then node.at? other else tree.at? (wanted :: other) := by
  cases tree with
  | file mode octets =>
      obtain ⟨⟨⟩⟩ | different := changed
      rw [if_neg different]
      rfl
  | directory mode entries =>
      simp only [withEntries, at?_cons, Tree.entries, lookup_setEntry]
      split <;> rfl

/-- An entry that is set to what agrees with it changes nothing. -/
theorem at?_withEntry_of_agree (entry : tree.entries.lookup name = some found)
    (agree : ∀ rest, other = name :: rest → node.at? rest = found.at? rest) :
    (tree.withEntries (setEntry name node tree.entries)).at? other = tree.at? other := by
  cases other with
  | nil => rw [at?_nil, at?_nil, top_withEntries]
  | cons wanted rest =>
      rw [at?_withEntry (.inl (isDirectory_of_lookup entry))]
      split
      case isFalse => rfl
      case isTrue same =>
        subst same
        rw [agree rest rfl, at?_cons, entry, Option.bind_some]

/-- What is put into a directory is there, with all that is below it. -/
theorem at?_put_below (here : tree.HasDirectory place) :
    (put node (place ++ [name]) tree).at? (place ++ name :: below) = node.at? below := by
  induction place generalizing tree with
  | nil =>
      rw [List.nil_append, List.nil_append, put, at?_withEntry (.inl here.isDirectory),
        if_pos rfl, put]
  | cons first place ih =>
      obtain ⟨inner, entry, inside⟩ := hasDirectory_cons_iff.mp here
      rw [List.cons_append, List.cons_append, put,
        at?_withEntry (.inl (isDirectory_of_lookup entry)), if_pos rfl, entry, Option.getD_some,
        ih inside]

/-- Nothing else changes when something is put into a directory. -/
theorem at?_put_elsewhere (here : tree.HasDirectory place)
    (elsewhere : ¬place ++ [name] <+: other) :
    (put node (place ++ [name]) tree).at? other = tree.at? other := by
  induction place generalizing tree other with
  | nil =>
      rw [List.nil_append, put]
      cases other with
      | nil => rw [at?_nil, at?_nil, top_withEntries]
      | cons wanted rest =>
          have different : wanted ≠ name := by
            rintro rfl
            exact elsewhere (List.prefix_append [wanted] rest)
          rw [at?_withEntry (.inr different), if_neg different]
  | cons first place ih =>
      obtain ⟨inner, entry, inside⟩ := hasDirectory_cons_iff.mp here
      rw [List.cons_append, put]
      apply at?_withEntry_of_agree entry
      rintro rest rfl
      rw [entry, Option.getD_some, ih inside]
      exact fun before => elsewhere (List.cons_prefix_cons.mpr ⟨rfl, before⟩)

/-- Where nothing is, something can be put without a change to what is there, even if there is no
directory to put it into. -/
theorem at?_put_of_missing (missing : tree.find? place = none) (present : tree.at? other ≠ none) :
    (put node place tree).at? other = tree.at? other := by
  induction place generalizing tree other with
  | nil => cases missing
  | cons name place ih =>
      rw [put]
      cases other with
      | nil => rw [at?_nil, at?_nil, top_withEntries]
      | cons wanted rest =>
          by_cases same : wanted = name
          case neg => rw [at?_withEntry (.inr same), if_neg same]
          subst same
          cases entry : tree.entries.lookup wanted with
          | none => rw [at?_cons, entry] at present; contradiction
          | some inner =>
              rw [find?, entry, Option.bind_some] at missing
              rw [at?_cons, entry, Option.bind_some] at present
              apply at?_withEntry_of_agree entry
              rintro rest ⟨⟩
              exact ih missing present

/-- Another mode changes nothing below a place. -/
theorem at?_withMode (mode : Nat) (lower : below ≠ []) :
    (tree.withMode mode).at? below = tree.at? below := by
  cases below with
  | nil => contradiction
  | cons name below => cases tree <;> rfl

/-- What is at a place gets another mode, and nothing else changes. -/
theorem at?_put_withMode (mode : Nat) (here : tree.find? place = some found) :
    (put (found.withMode mode) place tree).at? other =
      if other = place then some (found.withMode mode).top else tree.at? other := by
  rcases List.eq_nil_or_concat place with rfl | ⟨directory, name, rfl⟩
  · cases here
    split
    case isTrue same => rw [same, put, at?_nil]
    case isFalse lower => rw [put, at?_withMode mode lower]
  · rw [List.concat_eq_append] at here ⊢
    have inside := hasDirectory_of_below here (by simp)
    by_cases under : directory ++ [name] <+: other
    · obtain ⟨below, rfl⟩ := under
      rw [at?_append here, List.append_assoc, List.singleton_append, at?_put_below inside]
      cases below with
      | nil => rw [if_pos rfl, at?_nil]
      | cons next below =>
          rw [at?_withMode mode (by simp), if_neg]
          simp
    · rw [at?_put_elsewhere inside under, if_neg]
      rintro rfl
      exact under List.prefix_rfl

/-- Without an entry there is nothing at its name, and everywhere else what there was. -/
theorem at?_removeEntry {wanted : String} :
    (tree.remove [name]).at? (wanted :: other) =
      if wanted = name then none else tree.at? (wanted :: other) := by
  cases tree with
  | file mode octets => exact (ite_self _).symm
  | directory mode entries =>
      simp only [remove, withEntries, at?_cons, Tree.entries, lookup_removeEntry]
      split <;> rfl

theorem remove_cons (some_place : place ≠ []) : tree.remove (name :: place) =
    match tree.entries.lookup name with
    | some inner => tree.withEntries (setEntry name (remove place inner) tree.entries)
    | none => tree := by
  cases place with
  | nil => contradiction
  | cons => rfl

/-- Nothing is left where something is removed. -/
theorem at?_remove_below : (tree.remove (place ++ [name])).at? (place ++ name :: below) = none := by
  induction place generalizing tree with
  | nil => rw [List.nil_append, List.nil_append, at?_removeEntry, if_pos rfl]
  | cons first place ih =>
      rw [List.cons_append, List.cons_append, remove_cons (by simp)]
      cases entry : tree.entries.lookup first with
      | none => rw [at?_cons, entry, Option.bind_none]
      | some inner => rw [at?_withEntry (.inl (isDirectory_of_lookup entry)), if_pos rfl, ih]

/-- Nothing else changes when something is removed. -/
theorem at?_remove_elsewhere (elsewhere : ¬place <+: other) :
    (tree.remove place).at? other = tree.at? other := by
  induction place generalizing tree other with
  | nil => exact absurd List.nil_prefix elsewhere
  | cons name place ih =>
      by_cases last : place = []
      · subst last
        cases other with
        | nil => rw [remove, at?_nil, at?_nil, top_withEntries]
        | cons wanted rest =>
            rw [at?_removeEntry, if_neg]
            rintro rfl
            exact elsewhere (List.prefix_append [wanted] rest)
      · rw [remove_cons last]
        cases entry : tree.entries.lookup name with
        | none => rfl
        | some inner =>
            apply at?_withEntry_of_agree entry
            rintro rest rfl
            apply ih
            exact fun before => elsewhere (List.cons_prefix_cons.mpr ⟨rfl, before⟩)

end LedgerBoard.Tree
