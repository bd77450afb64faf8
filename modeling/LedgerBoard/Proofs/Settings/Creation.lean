import LedgerBoard.Proofs.Settings.Writing

/-!
# A new template loses nothing

What is at the path of a new template is moved to a backup before the template is written. Any step
of this can fail. Whatever happens, the octets of every file are still there afterwards: where they
were, or in the backup.
-/

namespace LedgerBoard.Settings

open LedgerBoard.Path (Layout)

section Backup

variable {world moved : World} {layout : Layout}

/-- Whatever was at and below a path is at and below its backup, and nothing else has changed. -/
structure MovedAside (before after : World) (layout : Layout) : Prop where
  base : after.base = before.base
  reached : before.Reaches layout
  present : before.root.at? (before.placeOf layout.path) ≠ none
  gone : after.root.find? (before.placeOf layout.path) = none
  backup : ∀ below, after.root.at? (before.placeOf layout.backup.path ++ below) =
    before.root.at? (before.placeOf layout.path ++ below)
  others : ∀ other, ¬before.placeOf layout.path <+: other →
    ¬before.placeOf layout.backup.path <+: other →
    after.root.at? other = before.root.at? other
  /-- A directory replaces no file. -/
  replaced : before.root.HasDirectory (before.placeOf layout.path) →
    ∀ below mode octets, before.root.at? (before.placeOf layout.backup.path ++ below) ≠
      some (.file mode octets)

theorem rename_movedAside
    (renamed : world.rename layout.path (backupPath layout.path) = .ok moved) :
    MovedAside world moved layout := by
  rw [layout.backupPath_path] at renamed
  obtain ⟨old, tree, new, found, located, change⟩ := World.rename_eq_ok renamed
  obtain ⟨old_located, here⟩ := World.status_eq_ok_iff.mp found
  obtain ⟨reaches, rfl⟩ := World.locate_layout_eq_ok_iff.mp old_located
  obtain ⟨-, rfl⟩ := World.locate_layout_eq_ok_iff.mp located
  have path_place := world.placeOf_layout layout
  have backup_place : world.placeOf layout.backup.path =
      world.placeOf layout.parent ++ [String.ofList layout.backup.name] :=
    world.placeOf_layout layout.backup
  have backup_not_above : ¬world.placeOf layout.backup.path <+: world.placeOf layout.path := by
    have apart := world.siblings_apart layout.backup layout rfl layout.backup_name_ne []
    rwa [List.append_nil] at apart
  have places_differ : world.placeOf layout.path ≠ world.placeOf layout.backup.path := by
    intro same
    exact backup_not_above (same ▸ List.prefix_rfl)
  obtain ⟨replaces, rfl⟩ := change places_differ
  have directory :
      (world.root.remove (world.placeOf layout.path)).HasDirectory
        (world.placeOf layout.parent) := by
    obtain ⟨mode, parent⟩ := reaches.parent
    exact ⟨mode, (Tree.at?_remove_elsewhere (world.parent_not_below layout)).trans parent⟩
  have outside {other : List String} (apart : ¬world.placeOf layout.backup.path <+: other) :
      (Tree.put tree (world.placeOf layout.backup.path)
        (world.root.remove (world.placeOf layout.path))).at? other =
        (world.root.remove (world.placeOf layout.path)).at? other := by
    rw [backup_place] at apart ⊢
    exact Tree.at?_put_elsewhere directory apart
  refine ⟨rfl, reaches, by simp [Tree.at?, here], ?gone, ?backup, ?others, ?replaced⟩
  case gone =>
    rw [← Tree.at?_eq_none_iff, outside backup_not_above, path_place]
    exact Tree.at?_remove_below
  case backup =>
    intro below
    rw [backup_place, List.append_assoc, List.singleton_append, Tree.at?_append here]
    exact Tree.at?_put_below directory
  case others =>
    intro other not_path not_backup
    rw [outside not_backup, Tree.at?_remove_elsewhere not_path]
  case replaced =>
    rintro is_directory below mode octets file
    obtain ⟨_, _, found⟩ := Tree.hasDirectory_iff.mp is_directory
    cases here.symm.trans found
    rw [Tree.at?_eq_file_iff, Tree.find?_append] at file
    obtain ⟨old, at_backup, inside⟩ := Option.bind_eq_some_iff.mp file
    rw [at_backup] at replaces
    obtain ⟨mode, rfl⟩ := World.eq_of_mayReplace_directory replaces
    cases below <;> cases inside

/-- The way to the path is still there. -/
theorem MovedAside.reaches (aside : MovedAside world moved layout)
    (no_slash : layout.path.endsInSlash = false) :
    moved.Reaches layout := by
  apply aside.reached.congr aside.base no_slash
  obtain ⟨mode, parent⟩ := aside.reached.parent
  exact ⟨mode,
    (aside.others _ (world.parent_not_below layout) (world.parent_not_below layout.backup)).trans
      parent⟩

end Backup

/-- Settings are created at once, or after what was in the way was moved aside. -/
theorem run_create (path : Path) (force : Bool) (world : World) :
    (create World.disk path force).run world =
      match world.status path with
      | .error _ => (writeTemplate World.disk path).run world
      | .ok _ =>
          if force then
            match world.rename path (backupPath path) with
            | .error _ => (.error (.unwritable (backupPath path)), world)
            | .ok moved => (writeTemplate World.disk path).run moved
          else (.error (.alreadyThere path), world) := by
  rw [create, World.run_bind, World.run_isPresent]
  cases world.status path with
  | error cause => rfl
  | ok found =>
      cases force with
      | false => rfl
      | true =>
          simp only [if_true, World.run_bind, World.disk, World.run_act]
          cases world.rename path (backupPath path) <;> rfl

/-- The template is there and is loaded as the default settings. What it replaced is in the backup,
and nothing else that was there is changed, but for the mode of the directory. -/
structure Created (before after : World) (path : Path) : Prop where
  template :
    after.root.at? (before.placeOf path) = some (.file 0o600 settingsTemplate.toUTF8.toList)
  closed : 2 ≤ path.parts.length →
    after.root.at? (before.placeOf path).dropLast = some (.directory 0o700 [])
  directory : before.root.at? (before.placeOf path).dropLast ≠ none →
    before.root.HasDirectory (before.placeOf path).dropLast
  moved : before.root.at? (before.placeOf path) ≠ none → ∀ below,
    after.root.at? (before.placeOf (backupPath path) ++ below) =
      before.root.at? (before.placeOf path ++ below)
  others : ∀ other, before.root.at? other ≠ none → ¬before.placeOf path <+: other →
    (before.root.at? (before.placeOf path) ≠ none → ¬before.placeOf (backupPath path) <+: other) →
    (2 ≤ path.parts.length → other ≠ (before.placeOf path).dropLast) →
    after.root.at? other = before.root.at? other
  loads : ((loadFile World.disk path).run after).1 = .ok {}

/-- What is written where nothing was is a new template. -/
theorem created_of_missing {world after : World} {layout : Layout}
    (missing : ∀ found, world.status layout.path ≠ .ok found)
    (run : (writeTemplate World.disk layout.path).run world = (.ok (), after)) :
    Created world after layout.path := by
  have written := writeTemplate_written run
  have nothing :=
    Tree.at?_eq_none_iff.mpr (World.find?_of_missing written.sound written.no_slash missing)
  have parent : (world.placeOf layout.path).dropLast = world.placeOf layout.parent := by
    rw [World.placeOf_layout, List.dropLast_concat]
  refine ⟨written.template, ?closed, ?directory, fun present => absurd nothing present, ?others,
    written.loads⟩
  case closed =>
    rw [parent, ← hasParent_iff]
    exact written.closed
  case directory =>
    rw [parent]
    exact written.directory
  case others =>
    rw [parent, ← hasParent_iff]
    intro other present apart _ not_parent
    exact written.others other apart not_parent (.inr present)

/-- What is written after something was moved aside is a new template. -/
theorem created_of_movedAside {world moved after : World} {layout : Layout}
    (aside : MovedAside world moved layout)
    (run : (writeTemplate World.disk layout.path).run moved = (.ok (), after)) :
    Created world after layout.path := by
  have written := writeTemplate_written run
  have reaches := aside.reaches written.no_slash
  have place (path : Path) : moved.placeOf path = world.placeOf path :=
    World.placeOf_congr aside.base path
  have parent : (world.placeOf layout.path).dropLast = world.placeOf layout.parent := by
    rw [World.placeOf_layout, List.dropLast_concat]
  have others := written.others
  simp only [place] at others
  refine ⟨place _ ▸ written.template, ?closed, ?directory, ?moved, ?others, written.loads⟩
  case closed =>
    rw [parent, ← hasParent_iff, ← place]
    exact written.closed
  case directory =>
    rw [parent]
    exact fun _ => aside.reached.parent
  case moved =>
    intro _ below
    have not_path := world.siblings_apart layout layout.backup rfl layout.backup_name_ne.symm below
    have not_parent : world.placeOf layout.backup.path ++ below ≠ world.placeOf layout.parent := by
      intro same
      exact world.parent_not_below layout.backup ⟨below, same⟩
    rw [layout.backupPath_path, others _ not_path (fun _ => not_parent) (.inl reaches),
      aside.backup]
  case others =>
    rw [parent, ← hasParent_iff, layout.backupPath_path]
    intro other present not_path not_backup not_parent
    have same := aside.others other not_path (not_backup aside.present)
    rw [others other not_path not_parent (.inr (by rwa [same])), same]

/-- Nothing is in the way of the template where something was moved aside. -/
theorem writeTemplate_of_movedAside {world moved : World} {layout : Layout}
    (aside : MovedAside world moved layout) (no_slash : layout.path.endsInSlash = false) :
    ∃ after, (writeTemplate World.disk layout.path).run moved = (.ok (), after) := by
  apply writeTemplate_of_reaches (aside.reaches no_slash) no_slash
  rw [World.placeOf_congr aside.base, aside.gone]

/-- If the template cannot be written after a directory was moved aside, the path ends in a slash.
No file is lost: what was in the directory is in the backup. -/
theorem keepsFiles_of_movedAside {world moved after : World} {layout : Layout}
    {cause : SettingsError} (aside : MovedAside world moved layout)
    (run : (writeTemplate World.disk layout.path).run moved = (.error cause, after))
    {place : List String} {octets : List UInt8} (file : world.HasFile place octets) :
    after.HasFile place octets ∨ layout.path.endsInSlash = true ∧ ∃ below,
      place = world.placeOf layout.path ++ below ∧
      after.HasFile (world.placeOf layout.backup.path ++ below) octets := by
  have same_place : moved.placeOf layout.path = world.placeOf layout.path :=
    World.placeOf_congr aside.base _
  have slash : layout.path.endsInSlash = true := by
    cases no_slash : layout.path.endsInSlash with
    | true => rfl
    | false =>
        obtain ⟨_, done⟩ := writeTemplate_of_movedAside aside no_slash
        cases done.symm.trans run
  have missing : ∀ found, moved.status layout.path ≠ .ok found := by
    rintro ⟨target, tree⟩ found
    obtain ⟨located, here⟩ := World.status_eq_ok_iff.mp found
    obtain ⟨-, rfl⟩ := World.locate_layout_eq_ok_iff.mp located
    rw [same_place, aside.gone] at here
    cases here
  have kept := writeTemplate_keepsFiles missing run
  obtain ⟨mode, file⟩ := file
  by_cases below_path : world.placeOf layout.path <+: place
  · obtain ⟨below, rfl⟩ := below_path
    exact .inr ⟨slash, below, rfl, kept _ octets ⟨mode, (aside.backup below).trans file⟩⟩
  · refine .inl (kept place octets ⟨mode, ?_⟩)
    rw [aside.others place below_path, file]
    rintro ⟨below, rfl⟩
    exact aside.replaced (aside.reached.slash slash) below mode octets file

/-- A path without text leads nowhere. -/
theorem run_create_of_no_text (force : Bool) (world : World) :
    (create World.disk ⟨""⟩ force).run world = (.error (.unwritable ⟨""⟩), world) := by
  have nowhere : world.locate ⟨""⟩ = .error .missing := rfl
  have status : world.status ⟨""⟩ = .error .missing := by rw [World.status, nowhere]; rfl
  have written : world.write ⟨""⟩ settingsTemplate.toUTF8.toList = .error .missing := by
    rw [World.write, nowhere]; rfl
  have opening : (openParent World.disk ⟨""⟩).run world = (.ok (), world) := rfl
  rw [run_create, status]
  simp only [run_writeTemplate, opening, written]

/-- A new template loses nothing. What is at its path stays there, and the template is not written,
unless `force` is set. If the template is written, what was at its path is in the backup, and all
else is as it was. If it is not, every file is where it was, except that what was in a directory
whose path ends in a slash may be in the backup. -/
theorem create_loses_nothing {world after : World} {path : Path} {force : Bool}
    {outcome : Except SettingsError Unit} (normal : path.IsNormal)
    (run : (create World.disk path force).run world = (outcome, after)) :
    ((∃ found, world.status path = .ok found) → force = false →
      outcome = .error (.alreadyThere path) ∧ after = world) ∧
    (outcome = .ok () → Created world after path) ∧
    (∀ cause, outcome = .error cause → ∀ place octets, world.HasFile place octets →
      after.HasFile place octets ∨
      force = true ∧ path.endsInSlash = true ∧ ∃ below, place = world.placeOf path ++ below ∧
        after.HasFile (world.placeOf (backupPath path) ++ below) octets) := by
  by_cases no_text : path = ⟨""⟩
  · subst no_text
    rw [run_create_of_no_text] at run
    cases run
    refine ⟨?_, nofun, fun _ _ _ _ file => .inl file⟩
    rintro ⟨found, ⟨⟩⟩
  obtain ⟨layout, rfl⟩ := normal.exists_layout fun empty =>
    no_text (by cases path; cases empty; rfl)
  rw [run_create] at run
  cases status : world.status layout.path with
  | error cause =>
      rw [status] at run
      have missing : ∀ found, world.status layout.path ≠ .ok found := by simp [status]
      refine ⟨by rintro ⟨found, ⟨⟩⟩, ?_, fun cause _ place octets file => ?_⟩
      · rintro rfl
        exact created_of_missing missing run
      · exact .inl (writeTemplate_keepsFiles missing run place octets file)
  | ok found =>
      rw [status] at run
      cases force with
      | false =>
          cases run
          exact ⟨fun _ _ => ⟨rfl, rfl⟩, nofun, fun _ _ _ _ file => .inl file⟩
      | true =>
          refine ⟨fun _ => nofun, ?_⟩
          simp only [if_true] at run
          cases renamed : world.rename layout.path (backupPath layout.path) with
          | error cause =>
              rw [renamed] at run
              cases run
              exact ⟨nofun, fun _ _ _ _ file => .inl file⟩
          | ok moved =>
              rw [renamed] at run
              have aside := rename_movedAside renamed
              constructor
              · rintro rfl
                exact created_of_movedAside aside run
              · rintro cause rfl place octets file
                rw [layout.backupPath_path]
                exact (keepsFiles_of_movedAside aside run file).imp_right fun moved => ⟨rfl, moved⟩

/-- A file in a directory makes way for the template. -/
theorem create_loses_nothing_of_file :
    let world : World := ⟨.directory 0o755 [("d", .directory 0o755 [("c", .file 0o644 [1])])], []⟩
    ∃ after, (create World.disk ⟨"d/c"⟩ true).run world = (.ok (), after) ∧
      Created world after ⟨"d/c"⟩ := by
  intro world
  have normal : Path.IsNormal ⟨"d/c"⟩ := ⟨by decide, by decide⟩
  obtain ⟨layout, same⟩ := normal.exists_layout (by decide)
  let moved : World :=
    ⟨.directory 0o755 [("d", .directory 0o755 [("c.toml.backup", .file 0o644 [1])])], []⟩
  have renamed : world.rename layout.path (backupPath layout.path) = .ok moved := by
    rw [same]
    rfl
  have status : world.status ⟨"d/c"⟩ = .ok (["d", "c"], .file 0o644 [1]) := rfl
  obtain ⟨after, written⟩ :=
    writeTemplate_of_movedAside (rename_movedAside renamed) (by rw [same]; decide)
  rw [same] at renamed written
  have run : (create World.disk ⟨"d/c"⟩ true).run world = (.ok (), after) := by
    simp only [run_create, status, renamed, written, if_true]
  exact ⟨after, run, (create_loses_nothing normal run).2.1 rfl⟩

/-- A directory whose path ends in a slash is moved aside, though nothing can be written in its
place. -/
theorem create_moves_directory_and_fails :
    let world : World := ⟨.directory 0o755 [("d", .directory 0o755 [("x", .file 0o644 [1])])], []⟩
    Path.IsNormal ⟨"d/"⟩ ∧ ∃ cause after,
      (create World.disk ⟨"d/"⟩ true).run world = (.error cause, after) ∧
      world.HasFile ["d", "x"] [1] ∧ ¬after.HasFile ["d", "x"] [1] := by
  intro world
  refine ⟨⟨by decide, by decide⟩, _, _, rfl, ⟨0o644, rfl⟩, ?_⟩
  rintro ⟨mode, file⟩
  cases file

end LedgerBoard.Settings
