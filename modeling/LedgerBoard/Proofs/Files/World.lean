import LedgerBoard.Proofs.Files.Path
import LedgerBoard.Proofs.Files.Tree
import LedgerBoard.Proofs.Outcome

/-!
# Where normal paths lead, and what the operations of a disk change

A normal path leads to its parts below the working directory, if the place before the last part is a
directory. Every operation that succeeds changes the tree at the place of its path alone, and one
that fails changes nothing.
-/

namespace LedgerBoard.World

open LedgerBoard.Path (Layout)

variable {world after : World} {path : Path} {place target : List String}

/-- Walking a long way is walking twice. -/
theorem walk_append (first second : List String) :
    walk world place (first ++ second) =
      walk world place first >>= fun middle => walk world middle second := by
  induction first generalizing place with
  | nil => rfl
  | cons name first ih =>
      simp only [List.cons_append, walk]
      split
      · rfl
      · rfl
      · split
        · exact ih
        · split <;> exact ih

/-- A name leads from a directory to what it names, whether or not it is there. -/
theorem walk_cons_eq_ok_iff {name : String} {names : List String}
    (no_dots : name ≠ "." ∧ name ≠ "..") :
    walk world place (name :: names) = .ok target ↔
      world.root.HasDirectory place ∧ walk world (place ++ [name]) names = .ok target := by
  rw [Tree.hasDirectory_iff]
  cases here : world.root.find? place with
  | none => simp [walk, here]
  | some node =>
      cases node with
      | file => simp [walk, here]
      | directory => simp [walk, here, no_dots]

theorem walk_dot_eq_ok_iff :
    walk world place ["."] = .ok target ↔ world.root.HasDirectory place ∧ target = place := by
  rw [Tree.hasDirectory_iff]
  cases here : world.root.find? place with
  | none => simp [walk, here]
  | some node =>
      cases node with
      | file => simp [walk, here]
      | directory => simp [walk, here, eq_comm]

/-- Names are walked down from directory to directory. Nothing needs to be at the last one. -/
theorem walk_names_eq_ok_iff {names : List String} {last : String}
    (no_dots : ∀ name ∈ names ++ [last], name ≠ "." ∧ name ≠ "..") :
    walk world place (names ++ [last]) = .ok target ↔
      world.root.HasDirectory (place ++ names) ∧ target = place ++ names ++ [last] := by
  induction names generalizing place with
  | nil =>
      rw [List.nil_append, walk_cons_eq_ok_iff (no_dots last (by simp)), walk]
      simp [eq_comm]
  | cons name names ih =>
      obtain ⟨no_dot, others⟩ := List.forall_mem_cons.mp no_dots
      have shift : place ++ [name] ++ names = place ++ name :: names := by simp
      rw [List.cons_append, walk_cons_eq_ok_iff no_dot, ih others, shift]
      refine ⟨And.right, fun reached => ⟨?_, reached⟩⟩
      obtain ⟨mode, entries, here⟩ := Tree.hasDirectory_iff.mp reached.1
      exact Tree.hasDirectory_of_below here (by simp)

/-- The place that a normal path leads to. -/
def placeOf (world : World) (path : Path) : List String :=
  world.base ++ path.parts

theorem placeOf_congr {before : World} (base : after.base = before.base) (path : Path) :
    after.placeOf path = before.placeOf path := by
  rw [placeOf, base, placeOf]

/-- The place of a layout is its name in the place of its parent. -/
theorem placeOf_layout (world : World) (layout : Layout) :
    world.placeOf layout.path = world.placeOf layout.parent ++ [String.ofList layout.name] := by
  rw [placeOf, placeOf, layout.isNormal_path.parts_eq, layout.isNormal_parent.parts_eq,
    layout.names_path, List.append_assoc]

/-- A parent is not below its own entry. -/
theorem parent_not_below (world : World) (layout : Layout) :
    ¬world.placeOf layout.path <+: world.placeOf layout.parent := by
  rw [placeOf_layout]
  intro below
  have longer := below.length_le
  rw [List.length_append, List.length_singleton] at longer
  omega

/-- Two names in a directory have nothing below them in common. -/
theorem siblings_apart (world : World) (first second : Layout) (same : first.parent = second.parent)
    (differ : first.name ≠ second.name) (below : List String) :
    ¬world.placeOf first.path <+: world.placeOf second.path ++ below := by
  rw [placeOf_layout, placeOf_layout, same, List.append_assoc, List.prefix_append_right_inj]
  intro above
  exact differ (String.ofList_injective (List.cons_prefix_cons.mp above).1)

/-- A normal path can be followed to its last name, and beyond it if it ends in a slash. -/
structure Reaches (world : World) (layout : Layout) : Prop where
  sound : isSound layout.path = true
  parent : world.root.HasDirectory (world.placeOf layout.parent)
  slash : layout.path.endsInSlash = true → world.root.HasDirectory (world.placeOf layout.path)

/-- Whether the path of a file can be followed depends on its directory alone. -/
theorem Reaches.congr {before : World} {layout : Layout} (reaches : before.Reaches layout)
    (base : after.base = before.base) (no_slash : layout.path.endsInSlash = false)
    (directory : after.root.HasDirectory (before.placeOf layout.parent)) :
    after.Reaches layout where
  sound := reaches.sound
  parent := by rwa [placeOf_congr base]
  slash := by simp [no_slash]

/-- A layout is located if its parent is a directory. -/
theorem locate_layout_eq_ok_iff {layout : Layout} :
    world.locate layout.path = .ok target ↔
    world.Reaches layout ∧ target = world.placeOf layout.path := by
  have relative := layout.isNormal_path.relative
  have some_text : layout.path.text.isEmpty = false := by simpa using layout.text_path_ne
  have no_dots :
      ∀ name ∈ layout.parent.names ++ [String.ofList layout.name], name ≠ "." ∧ name ≠ ".." := by
    rw [← layout.names_path]
    exact fun name mem => layout.isNormal_path.mem_names mem
  have walked {middle : List String} : walk world world.base layout.path.names = .ok middle ↔
      world.root.HasDirectory (world.placeOf layout.parent) ∧
      middle = world.placeOf layout.path := by
    rw [layout.names_path, walk_names_eq_ok_iff no_dots, placeOf_layout, placeOf,
      layout.isNormal_parent.parts_eq]
  have steps_eq : steps layout.path =
      if layout.path.endsInSlash then layout.path.names ++ ["."] else layout.path.names := rfl
  cases sound : isSound layout.path with
  | false =>
      simp only [locate, some_text, sound, Bool.not_false, Bool.false_eq_true, if_false, if_true,
        reduceCtorEq, false_iff]
      exact fun reached => absurd reached.1.sound (by simp [sound])
  | true =>
      simp only [locate, some_text, sound, relative, steps_eq, Bool.not_true, Bool.false_eq_true,
        if_false]
      cases slash : layout.path.endsInSlash with
      | false =>
          rw [if_neg Bool.false_ne_true, walked]
          constructor
          · rintro ⟨parent, there⟩
            exact ⟨⟨sound, parent, by simp [slash]⟩, there⟩
          · rintro ⟨reaches, there⟩
            exact ⟨reaches.parent, there⟩
      | true =>
          rw [if_pos rfl, walk_append, Outcome.bind_eq_ok_iff]
          constructor
          · rintro ⟨middle, names, dot⟩
            obtain ⟨parent, rfl⟩ := walked.mp names
            obtain ⟨directory, there⟩ := walk_dot_eq_ok_iff.mp dot
            exact ⟨⟨sound, parent, fun _ => directory⟩, there⟩
          · rintro ⟨reaches, there⟩
            exact ⟨_, walked.mpr ⟨reaches.parent, rfl⟩,
              walk_dot_eq_ok_iff.mpr ⟨reaches.slash slash, there⟩⟩

/-- What a disk can hold, its parent it can hold too. -/
theorem isSound_parent {layout : Layout} (sound : isSound layout.path = true) :
    isSound layout.parent = true := by
  simp only [isSound, Bool.and_eq_true, Bool.not_eq_true', List.all_eq_true, decide_eq_true_eq]
    at sound ⊢
  obtain ⟨⟨no_null, short⟩, short_names⟩ := sound
  obtain ⟨rest, text_eq⟩ := layout.text_path
  rw [text_eq] at no_null short
  refine ⟨⟨?_, ?_⟩, ?_⟩
  · rw [String.toList_append, List.contains_append, Bool.or_eq_false_iff] at no_null
    exact no_null.1
  · rw [String.utf8ByteSize_append] at short
    omega
  · intro name mem
    have parent_steps : steps layout.parent = layout.parent.names := by
      rw [steps, layout.endsInSlash_parent, if_neg Bool.false_ne_true]
      rfl
    have path_steps : name ∈ layout.path.names → name ∈ steps layout.path := by
      intro mem
      rw [steps]
      split
      · exact List.mem_append_left _ mem
      · exact mem
    apply short_names
    apply path_steps
    rw [layout.names_path]
    rw [parent_steps] at mem
    exact List.mem_append_left _ mem

/-- The way to a path leads through its parent. -/
theorem Reaches.parent_of {layout above : Layout} (reaches : world.Reaches layout)
    (same : above.path = layout.parent) :
    world.Reaches above where
  sound := by
    rw [same]
    exact isSound_parent reaches.sound
  parent := by
    have here := reaches.parent
    rw [← same, placeOf_layout] at here
    obtain ⟨mode, entries, found⟩ := Tree.hasDirectory_iff.mp here
    exact Tree.hasDirectory_of_below found (by simp)
  slash := by
    rw [same, layout.endsInSlash_parent]
    nofun

theorem status_eq_ok_iff {tree : Tree} :
    world.status path = .ok (target, tree) ↔
    world.locate path = .ok target ∧ world.root.find? target = some tree := by
  rw [status, Outcome.bind_eq_ok_iff]
  constructor
  · rintro ⟨there, located, found⟩
    split at found
    · cases found
      exact ⟨located, ‹_›⟩
    · cases found
  · rintro ⟨located, here⟩
    refine ⟨target, located, ?_⟩
    rw [here]
    rfl

/-- What was written is a file now, in a place that was no directory. -/
theorem write_eq_ok {octets : List UInt8} (written : world.write path octets = .ok after) :
    ∃ target mode, world.locate path = .ok target ∧ ¬world.root.HasDirectory target ∧
      after = world.put target (.file mode octets) := by
  obtain ⟨target, located, written⟩ := Outcome.bind_eq_ok_iff.mp written
  simp only [Tree.hasDirectory_iff]
  split at written
  case h_1 mode _ here =>
    cases written
    exact ⟨target, mode, located, by simp [here], rfl⟩
  case h_2 => cases written
  case h_3 here =>
    cases written
    exact ⟨target, _, located, by simp [here], rfl⟩

/-- A directory is made where nothing was. -/
theorem makeDirectory_eq_ok (made : world.makeDirectory path = .ok after) :
    ∃ target, world.root.find? target = none ∧ after = world.put target .empty := by
  obtain ⟨target, -, made⟩ := Outcome.bind_eq_ok_iff.mp made
  split at made
  case h_1 => cases made
  case h_2 here =>
    cases made
    exact ⟨target, here, rfl⟩

/-- Another mode is all that changes. -/
theorem setMode_eq_ok {mode : Nat} (changed : world.setMode path mode = .ok after) :
    ∃ target tree, world.locate path = .ok target ∧ world.root.find? target = some tree ∧
      after.base = world.base ∧
      ∀ other, after.root.at? other =
        if other = target then some (tree.withMode mode).top else world.root.at? other := by
  obtain ⟨⟨target, tree⟩, found, changed⟩ := Outcome.bind_eq_ok_iff.mp changed
  obtain ⟨located, here⟩ := status_eq_ok_iff.mp found
  cases changed
  exact ⟨target, tree, located, here, rfl, fun other => Tree.at?_put_withMode mode here⟩

/-- Nothing is at the place of a file that is not found, unless its path is not one that a disk can
hold. -/
theorem find?_of_missing {layout : Layout} (sound : isSound layout.path = true)
    (no_slash : layout.path.endsInSlash = false)
    (missing : ∀ found, world.status layout.path ≠ .ok found) :
    world.root.find? (world.placeOf layout.path) = none := by
  cases here : world.root.find? (world.placeOf layout.path) with
  | none => rfl
  | some tree =>
      have parent : world.root.HasDirectory (world.placeOf layout.parent) := by
        rw [placeOf_layout] at here
        exact Tree.hasDirectory_of_below here (by simp)
      have reaches : world.Reaches layout := ⟨sound, parent, by simp [no_slash]⟩
      have found := status_eq_ok_iff.mpr ⟨locate_layout_eq_ok_iff.mpr ⟨reaches, rfl⟩, here⟩
      exact absurd found (missing _)

/-- Octets can be put where nothing is. -/
theorem Reaches.write {layout : Layout} (reaches : world.Reaches layout)
    (missing : world.root.find? (world.placeOf layout.path) = none) (octets : List UInt8) :
    ∃ after, world.write layout.path octets = .ok after := by
  have located := locate_layout_eq_ok_iff.mpr ⟨reaches, rfl⟩
  refine ⟨world.put (world.placeOf layout.path) (.file Tree.fileMode octets),
    Outcome.bind_eq_ok_iff.mpr ⟨_, located, ?_⟩⟩
  rw [missing]
  rfl

/-- What is there can be given another mode. -/
theorem Reaches.setMode {layout : Layout} {tree : Tree} (reaches : world.Reaches layout)
    (here : world.root.find? (world.placeOf layout.path) = some tree) (mode : Nat) :
    ∃ after, world.setMode layout.path mode = .ok after := by
  have found := status_eq_ok_iff.mpr ⟨locate_layout_eq_ok_iff.mpr ⟨reaches, rfl⟩, here⟩
  exact ⟨_, Outcome.bind_eq_ok_iff.mpr ⟨_, found, rfl⟩⟩

theorem Reaches.read {layout : Layout} {mode : Nat} {octets : List UInt8}
    (reaches : world.Reaches layout)
    (file : world.root.find? (world.placeOf layout.path) = some (.file mode octets)) :
    world.read layout.path = .ok octets := by
  have found := status_eq_ok_iff.mpr ⟨locate_layout_eq_ok_iff.mpr ⟨reaches, rfl⟩, file⟩
  exact Outcome.bind_eq_ok_iff.mpr ⟨_, found, rfl⟩

/-- What is moved to another place is removed first, and takes the place of nothing that it may not
replace. -/
theorem rename_eq_ok {source : Path} (moved : world.rename source path = .ok after) :
    ∃ old tree new, world.status source = .ok (old, tree) ∧ world.locate path = .ok new ∧
      (old ≠ new → mayReplace tree (world.root.find? new) = true ∧
        after = { world with root := Tree.put tree new (Tree.remove old world.root) }) := by
  obtain ⟨⟨old, tree⟩, found, moved⟩ := Outcome.bind_eq_ok_iff.mp moved
  obtain ⟨new, located, moved⟩ := Outcome.bind_eq_ok_iff.mp moved
  refine ⟨old, tree, new, found, located, fun different => ?_⟩
  dsimp only at moved
  rw [if_neg different] at moved
  split at moved
  · cases moved
  split at moved
  · cases moved
  split at moved
  case isTrue replaces =>
    cases moved
    exact ⟨replaces, rfl⟩
  case isFalse => cases moved

/-- A directory replaces nothing but an empty directory. -/
theorem eq_of_mayReplace_directory {mode : Nat} {entries : List (String × Tree)} {old : Tree}
    (replaces : mayReplace (.directory mode entries) (some old) = true) :
    ∃ mode, old = .directory mode [] := by
  cases old with
  | file => cases replaces
  | directory mode entries =>
      cases entries with
      | nil => exact ⟨mode, rfl⟩
      | cons => cases replaces

/-- The working directory is the same, and what is there is still there. -/
structure Keeps (before after : World) : Prop where
  base : after.base = before.base
  places : ∀ place, before.root.at? place ≠ none → after.root.at? place = before.root.at? place

theorem Keeps.refl (world : World) : Keeps world world := ⟨rfl, fun _ _ => rfl⟩

theorem Keeps.trans {first second third : World} (one : Keeps first second)
    (two : Keeps second third) :
    Keeps first third where
  base := two.base.trans one.base
  places := by
    intro place present
    rw [two.places place (by rwa [one.places place present]), one.places place present]

/-- Making a directory keeps all that was there. -/
theorem makeDirectory_keeps (made : world.makeDirectory path = .ok after) : Keeps world after := by
  obtain ⟨target, missing, rfl⟩ := makeDirectory_eq_ok made
  exact ⟨rfl, fun place present => Tree.at?_put_of_missing missing present⟩

def HasFile (world : World) (place : List String) (octets : List UInt8) : Prop :=
  ∃ mode, world.root.at? place = some (.file mode octets)

/-- Every file is still where it was, with the same octets. -/
def KeepsFiles (before after : World) : Prop :=
  ∀ place octets, before.HasFile place octets → after.HasFile place octets

theorem Keeps.keepsFiles {before : World} (keeps : Keeps before after) :
    KeepsFiles before after := by
  rintro place octets ⟨mode, file⟩
  exact ⟨mode, by rw [keeps.places place (by rw [file]; nofun), file]⟩

theorem KeepsFiles.trans {first second third : World} (one : KeepsFiles first second)
    (two : KeepsFiles second third) :
    KeepsFiles first third :=
  fun place octets file => two place octets (one place octets file)

/-- Setting a mode keeps the contents of all files. -/
theorem setMode_keepsFiles {mode : Nat} (changed : world.setMode path mode = .ok after) :
    KeepsFiles world after := by
  obtain ⟨target, tree, -, here, -, at_other⟩ := setMode_eq_ok changed
  rintro place octets ⟨old, file⟩
  by_cases same : place = target
  · subst same
    rw [Tree.at?_eq_file_iff, here] at file
    cases file
    exact ⟨mode, by rw [at_other, if_pos rfl]; rfl⟩
  · exact ⟨old, by rw [at_other, if_neg same, file]⟩

theorem run_act (change : World → Except FileError World) :
    (act change).run world =
      match change world with
      | .ok after => (.ok (), after)
      | .error cause => (.error cause, world) := rfl

theorem run_isPresent (path : Path) :
    (disk.isPresent path).run world = (world.status path matches .ok _, world) := rfl

theorem run_isDirectory (path : Path) :
    (disk.isDirectory path).run world =
      (world.status path matches .ok (_, .directory _ _), world) := rfl

theorem run_bind {α β : Type} (action : StateM World α) (next : α → StateM World β) :
    (action >>= next).run world = (next (action.run world).1).run (action.run world).2 := rfl

/-- An action after which everything that was there is still there, whether or not it succeeds. -/
def Careful {α : Type} (action : StateM World α) : Prop :=
  ∀ world, Keeps world (action.run world).2

section Careful

variable {α β : Type} {action : StateM World α} {next : α → StateM World β}

theorem careful_pure (value : α) : Careful (pure value : StateM World α) := Keeps.refl

theorem Careful.bind (first : Careful action) (second : ∀ value, Careful (next value)) :
    Careful (action >>= next) :=
  fun world => (first world).trans (second _ _)

theorem careful_isDirectory (path : Path) : Careful (disk.isDirectory path) := Keeps.refl

theorem careful_act {change : World → Except FileError World}
    (keeps : ∀ world after, change world = .ok after → Keeps world after) :
    Careful (act change) := by
  intro world
  rw [run_act]
  cases made : change world with
  | ok after => exact keeps world after made
  | error cause => exact Keeps.refl world

theorem careful_makeDirectory (path : Path) : Careful (disk.makeDirectory path) := by
  simp only [disk]
  exact careful_act fun world after made => makeDirectory_keeps made

/-- Making directories takes nothing away, even if it fails on the way. -/
theorem careful_makeWay (limit : Nat) (path : Path) : Careful (disk.makeWay limit path) := by
  induction limit generalizing path with
  | zero => exact careful_pure _
  | succ limit ih =>
      have settle (cause : FileError) : Careful (do
          return if ← disk.isDirectory path then .ok () else .error cause :
            StateM World (Except FileError Unit)) :=
        (careful_isDirectory path).bind fun _ => careful_pure _
      rw [Disk.makeWay]
      split
      · exact careful_pure _
      refine (careful_makeDirectory path).bind fun made => ?_
      split
      case h_1 => exact careful_pure _
      case h_2 => exact settle .refused
      case h_3 =>
        split
        case h_1 => exact careful_pure _
        case h_2 parent _ =>
          refine (ih parent).bind fun opened => ?_
          split
          case h_1 => exact careful_pure _
          case h_2 =>
            refine (careful_makeDirectory path).bind fun again => ?_
            split
            case h_1 => exact careful_pure _
            case h_2 cause => exact settle cause

theorem careful_makeDirectories (path : Path) : Careful (disk.makeDirectories path) :=
  careful_makeWay _ path

end Careful

/-- A directory that is there need not be made. -/
theorem makeDirectories_of_directory {layout : Layout} (reaches : world.Reaches layout)
    (no_slash : layout.path.endsInSlash = false)
    (here : world.root.HasDirectory (world.placeOf layout.path)) :
    (disk.makeDirectories layout.path).run world = (.ok (), world) := by
  obtain ⟨mode, entries, found⟩ := Tree.hasDirectory_iff.mp here
  have located := locate_layout_eq_ok_iff.mpr ⟨reaches, rfl⟩
  have status := status_eq_ok_iff.mpr ⟨located, found⟩
  have some_text : layout.path.text.isEmpty = false := by simpa using layout.text_path_ne
  have made : world.makeDirectory layout.path = .error .refused := by
    simp only [makeDirectory, Path.withoutSlashes_eq_self no_slash, ite_self, located]
    simp [bind, Except.bind, found]
    rfl
  have run_made : (disk.makeDirectory layout.path).run world = (.error .refused, world) := by
    simp only [disk]
    rw [run_act, made]
  have run_directory : (disk.isDirectory layout.path).run world = (true, world) := by
    rw [run_isDirectory, status]
  rw [Disk.makeDirectories, Disk.makeWay, some_text, if_neg Bool.false_ne_true, run_bind, run_made]
  dsimp only
  rw [run_bind, run_directory]
  rfl

end LedgerBoard.World
