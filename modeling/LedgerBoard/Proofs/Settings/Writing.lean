import LedgerBoard.Proofs.Files.World
import LedgerBoard.Proofs.Settings.Template

/-!
# Writing the template

Writing the template makes its directory, fills the file and closes both to other users. Each of
these steps can fail, but not if the directory is there and the file is not. Where nothing was at
the path, no file is lost, whether or not the template is written.
-/

namespace LedgerBoard.Settings

open LedgerBoard.Path (Layout)
open World (Keeps Reaches)

variable {world after : World} {layout : Layout}

/-- The template is written once its parent is open, and then its mode is set. -/
theorem run_writeTemplate (path : Path) (world : World) :
    (writeTemplate World.disk path).run world =
      match (openParent World.disk path).run world with
      | (.error _, opened) => (.error (.unwritable path), opened)
      | (.ok _, opened) =>
          match opened.write path settingsTemplate.toUTF8.toList with
          | .error _ => (.error (.unwritable path), opened)
          | .ok filled =>
              match filled.setMode path 0o600 with
              | .error _ => (.error (.unwritable path), filled)
              | .ok closed => (.ok (), closed) := by
  rw [writeTemplate, World.run_bind]
  rcases (openParent World.disk path).run world with ⟨outcome | outcome, opened⟩
  · rfl
  simp only [World.run_bind, World.disk, World.run_act]
  cases opened.write path settingsTemplate.toUTF8.toList with
  | error cause => rfl
  | ok filled =>
      simp only [World.run_bind, World.run_act]
      cases filled.setMode path 0o600 <;> rfl

section Parent

variable {world opened : World} {layout : Layout} {outcome : Except FileError Unit}

/-- The template goes into a directory of its own, not the working directory. -/
def HasParent (layout : Layout) : Prop :=
  layout.parent.text ≠ ""

theorem hasParent_iff : HasParent layout ↔ 2 ≤ layout.path.parts.length := by
  rw [layout.isNormal_path.parts_eq, layout.names_path, List.length_append, List.length_singleton]
  constructor
  · intro some
    obtain ⟨above, same⟩ := layout.isNormal_parent.exists_layout some
    rw [← same, above.names_path, List.length_append, List.length_singleton]
    omega
  · intro long none
    have no_names : layout.parent.names = [] := by
      rw [← layout.parent.ofChars_toList, none]
      rfl
    simp [no_names] at long

theorem openParent_of_none (none : ¬HasParent layout) :
    openParent World.disk layout.path = pure (.ok ()) := by
  have no_text : layout.parent.text.isEmpty = true := by simpa [HasParent] using none
  rw [openParent, layout.parent?_path]
  exact if_pos no_text

/-- Making the directory leaves what was there, and makes nothing if the directory was there.
Closing it comes last. A directory that is there is in the way of neither. -/
theorem openParent_cases (some : HasParent layout)
    (run : (openParent World.disk layout.path).run world = (outcome, opened)) :
    ∃ (above : Layout) (made : World), above.path = layout.parent ∧ Keeps world made ∧
      (world.Reaches layout → made = world) ∧
      ((∃ cause, outcome = .error cause ∧ opened = made ∧ ¬world.Reaches layout) ∨
        outcome = .ok () ∧ made.setMode above.path 0o700 = .ok opened) := by
  obtain ⟨above, same⟩ := layout.isNormal_parent.exists_layout some
  have some_text : layout.parent.text.isEmpty = false := by simpa [HasParent] using some
  have careful := World.careful_makeDirectories above.path world
  have there (reaches : world.Reaches layout) :
      (World.disk.makeDirectories above.path).run world = (.ok (), world) := by
    apply World.makeDirectories_of_directory (reaches.parent_of same)
    · rw [same, layout.endsInSlash_parent]
    · rw [same]
      exact reaches.parent
  rw [openParent, layout.parent?_path, ← same] at run
  simp only [same ▸ some_text, Bool.false_eq_true, if_false, Disk.makePrivate, World.run_bind]
    at run
  cases made : (World.disk.makeDirectories above.path).run world with
  | mk result middle =>
    rw [made] at run careful there
    refine ⟨above, middle, same, careful, fun reaches => (Prod.mk.inj (there reaches)).2, ?_⟩
    cases result with
    | error cause =>
        cases run
        exact .inl ⟨cause, rfl, rfl, fun reaches => nomatch (Prod.mk.inj (there reaches)).1⟩
    | ok =>
        simp only [World.disk, World.run_act] at run
        cases changed : middle.setMode above.path 0o700 with
        | ok closed =>
            rw [changed] at run
            cases run
            exact .inr ⟨rfl, rfl⟩
        | error cause =>
            rw [changed] at run
            cases run
            refine .inl ⟨cause, rfl, rfl, fun reaches => ?_⟩
            obtain ⟨mode, entries, here⟩ := Tree.hasDirectory_iff.mp reaches.parent
            rw [← same] at here
            obtain ⟨closed, set⟩ := (reaches.parent_of same).setMode here 0o700
            rw [(Prod.mk.inj (there reaches)).2, set] at changed
            cases changed

/-- No file is lost when the directory is made and closed, whether or not that succeeds. -/
theorem openParent_keepsFiles
    (run : (openParent World.disk layout.path).run world = (outcome, opened)) :
    World.KeepsFiles world opened := by
  by_cases parent : HasParent layout
  · obtain ⟨above, made, -, keeps, -, ⟨cause, -, rfl, -⟩ | ⟨-, changed⟩⟩ :=
      openParent_cases parent run
    · exact keeps.keepsFiles
    · exact keeps.keepsFiles.trans (World.setMode_keepsFiles changed)
  · rw [openParent_of_none parent] at run
    cases run
    exact (Keeps.refl world).keepsFiles

/-- The directory of a file is closed to other users, and all else that was there is as it was.
There is nothing new if the directory was there. -/
structure Opened (before after : World) (layout : Layout) : Prop where
  base : after.base = before.base
  closed : HasParent layout →
    ∃ tree, after.root.at? (before.placeOf layout.parent) = some (Tree.withMode 0o700 tree).top ∧
      (before.root.HasDirectory (before.placeOf layout.parent) → tree.isDirectory = true)
  others : ∀ other, (HasParent layout → other ≠ before.placeOf layout.parent) →
    before.Reaches layout ∨ before.root.at? other ≠ none →
    after.root.at? other = before.root.at? other

/-- A parent that could be opened is a directory that only its owner may use. -/
theorem openParent_opened (run : (openParent World.disk layout.path).run world = (.ok (), opened)) :
    Opened world opened layout := by
  by_cases parent : HasParent layout
  case neg =>
    rw [openParent_of_none parent] at run
    cases run
    exact ⟨rfl, fun some => absurd some parent, fun _ _ _ => rfl⟩
  obtain ⟨above, made, same, keeps, exact_if, ⟨cause, ⟨⟩, -⟩ | ⟨-, changed⟩⟩ :=
    openParent_cases parent run
  obtain ⟨target, tree, located, here, base, at_other⟩ := World.setMode_eq_ok changed
  obtain ⟨-, rfl⟩ := World.locate_layout_eq_ok_iff.mp located
  have place : made.placeOf above.path = world.placeOf layout.parent := by
    rw [same, World.placeOf_congr keeps.base]
  rw [place] at at_other
  constructor
  · exact base.trans keeps.base
  · intro _
    refine ⟨tree, by rw [at_other, if_pos rfl], ?_⟩
    rintro ⟨mode, was⟩
    have still := (keeps.places _ (by rw [was]; nofun)).trans was
    rw [Tree.at?, ← place, here] at still
    cases tree with
    | file => cases still
    | directory => rfl
  · intro other apart known
    rw [at_other, if_neg (apart parent)]
    rcases known with reaches | present
    · rw [exact_if reaches]
    · exact keeps.places other present

/-- Nothing is in the way of closing a directory that is there. -/
theorem openParent_of_reaches (reaches : world.Reaches layout) :
    ∃ opened, (openParent World.disk layout.path).run world = (.ok (), opened) := by
  cases run : (openParent World.disk layout.path).run world with
  | mk outcome opened =>
    by_cases parent : HasParent layout
    · obtain ⟨-, -, -, -, -, ⟨-, -, -, unreached⟩ | ⟨rfl, -⟩⟩ := openParent_cases parent run
      · exact absurd reaches unreached
      · exact ⟨opened, rfl⟩
    · rw [openParent_of_none parent] at run
      cases run
      exact ⟨world, rfl⟩

/-- A directory that was there still is. -/
theorem Opened.hasDirectory (opening : Opened world opened layout)
    (reaches : world.Reaches layout) :
    opened.root.HasDirectory (world.placeOf layout.parent) := by
  by_cases parent : HasParent layout
  · obtain ⟨tree, at_parent, directory⟩ := opening.closed parent
    have is_directory := directory reaches.parent
    cases tree with
    | file => cases is_directory
    | directory => exact ⟨_, at_parent⟩
  · obtain ⟨mode, here⟩ := reaches.parent
    exact ⟨mode, (opening.others _ (fun some => absurd some parent) (.inl reaches)).trans here⟩

end Parent

section File

variable {world opened filled after : World} {layout : Layout}

/-- A file is put where no directory is, at a path that names a file, and nothing else changes. -/
structure Filled (before after : World) (layout : Layout) (mode : Nat) (octets : List UInt8) :
    Prop where
  base : after.base = before.base
  reaches : before.Reaches layout
  no_slash : layout.path.endsInSlash = false
  file : after.root.at? (before.placeOf layout.path) = some (.file mode octets)
  others : ∀ other, ¬before.placeOf layout.path <+: other →
    after.root.at? other = before.root.at? other

section Filled

variable {mode old : Nat} {octets : List UInt8}

/-- What was written fills the file. -/
theorem write_filled (written : opened.write layout.path octets = .ok filled) :
    ∃ mode, Filled opened filled layout mode octets := by
  obtain ⟨target, mode, located, no_directory, rfl⟩ := World.write_eq_ok written
  obtain ⟨reaches, rfl⟩ := World.locate_layout_eq_ok_iff.mp located
  refine ⟨mode, rfl, reaches, ?no_slash, ?file, ?others⟩
  case no_slash =>
    rw [← Bool.not_eq_true]
    exact fun slash => no_directory (reaches.slash slash)
  case file =>
    rw [World.placeOf_layout]
    exact Tree.at?_put_below reaches.parent
  case others =>
    rw [World.placeOf_layout]
    exact fun other apart => Tree.at?_put_elsewhere reaches.parent apart

/-- The path leads to the file. -/
theorem Filled.leads (full : Filled opened filled layout mode octets) : filled.Reaches layout ∧
    filled.root.find? (filled.placeOf layout.path) = some (.file mode octets) := by
  obtain ⟨parent_mode, here⟩ := full.reaches.parent
  have parent := (full.others _ (opened.parent_not_below layout)).trans here
  refine ⟨full.reaches.congr full.base full.no_slash ⟨parent_mode, parent⟩, ?_⟩
  rw [World.placeOf_congr full.base]
  exact Tree.at?_eq_file_iff.mp full.file

theorem Filled.setMode (full : Filled opened filled layout old octets)
    (set : filled.setMode layout.path mode = .ok after) :
    Filled opened after layout mode octets := by
  obtain ⟨target, tree, located, here, base, at_other⟩ := World.setMode_eq_ok set
  obtain ⟨-, rfl⟩ := World.locate_layout_eq_ok_iff.mp located
  rw [full.leads.2] at here
  cases here
  rw [World.placeOf_congr full.base] at at_other
  refine ⟨base.trans full.base, full.reaches, full.no_slash, ?file, ?others⟩
  case file =>
    rw [at_other, if_pos rfl]
    rfl
  case others =>
    intro other apart
    rw [at_other, if_neg, full.others other apart]
    rintro rfl
    exact apart List.prefix_rfl

end Filled

/-- The template is written in three steps. The last one does not fail if the others do not. -/
theorem writeTemplate_cases {outcome : Except SettingsError Unit}
    (run : (writeTemplate World.disk layout.path).run world = (outcome, after)) :
    (∃ opened, (openParent World.disk layout.path).run world = (.ok (), opened) ∧
        Filled opened after layout 0o600 settingsTemplate.toUTF8.toList ∧ outcome = .ok ()) ∨
      ∃ opening, (openParent World.disk layout.path).run world = (opening, after) ∧
        outcome = .error (.unwritable layout.path) ∧
        (opening = .ok () → ∃ cause,
          after.write layout.path settingsTemplate.toUTF8.toList = .error cause) := by
  rw [run_writeTemplate] at run
  cases opening : (openParent World.disk layout.path).run world with
  | mk result opened =>
    rw [opening] at run
    cases result with
    | error cause =>
        cases run
        exact .inr ⟨_, rfl, rfl, nofun⟩
    | ok =>
        cases written : opened.write layout.path settingsTemplate.toUTF8.toList with
        | error cause =>
            simp only [written] at run
            cases run
            exact .inr ⟨_, rfl, rfl, fun _ => ⟨cause, written⟩⟩
        | ok filled =>
            obtain ⟨mode, full⟩ := write_filled written
            obtain ⟨closed, set⟩ := full.leads.1.setMode full.leads.2 0o600
            simp only [written, set] at run
            cases run
            exact .inl ⟨_, rfl, full.setMode set, rfl⟩

/-- The template is at its place, in a directory that is closed to other users. All else that was
there is as it was, and there is nothing new elsewhere if the directory was there. -/
structure Written (before after : World) (layout : Layout) : Prop where
  sound : World.isSound layout.path = true
  no_slash : layout.path.endsInSlash = false
  template :
    after.root.at? (before.placeOf layout.path) = some (.file 0o600 settingsTemplate.toUTF8.toList)
  directory : before.root.at? (before.placeOf layout.parent) ≠ none →
    before.root.HasDirectory (before.placeOf layout.parent)
  closed : HasParent layout →
    after.root.at? (before.placeOf layout.parent) = some (.directory 0o700 [])
  others : ∀ other, ¬before.placeOf layout.path <+: other →
    (HasParent layout → other ≠ before.placeOf layout.parent) →
    before.Reaches layout ∨ before.root.at? other ≠ none →
    after.root.at? other = before.root.at? other
  loads : ((loadFile World.disk layout.path).run after).1 = .ok {}

/-- A template that could be written is complete, and only its owner may use it. -/
theorem writeTemplate_written
    (run : (writeTemplate World.disk layout.path).run world = (.ok (), after)) :
    Written world after layout := by
  obtain ⟨opened, run_opened, full, -⟩ | ⟨-, -, ⟨⟩, -⟩ := writeTemplate_cases run
  have opening := openParent_opened run_opened
  have place (path : Path) : opened.placeOf path = world.placeOf path :=
    World.placeOf_congr opening.base path
  have others (other : List String) (apart : ¬world.placeOf layout.path <+: other) :
      after.root.at? other = opened.root.at? other := full.others other (by rwa [place])
  obtain ⟨parent_mode, parent⟩ := full.reaches.parent
  rw [place] at parent
  refine ⟨full.reaches.sound, full.no_slash, place _ ▸ full.file, ?directory, ?closed, ?others,
    ?loads⟩
  case directory =>
    intro present
    rcases Tree.hasDirectory_or_file present with directory | ⟨mode, octets, file⟩
    · exact directory
    · obtain ⟨_, file⟩ := openParent_keepsFiles run_opened _ octets ⟨mode, file⟩
      cases file.symm.trans parent
  case closed =>
    intro has_parent
    obtain ⟨tree, at_parent, -⟩ := opening.closed has_parent
    rw [others _ (world.parent_not_below layout), parent]
    rw [parent] at at_parent
    cases tree with
    | file => cases at_parent
    | directory => exact at_parent
  case others =>
    intro other apart not_parent known
    rw [others other apart, opening.others other not_parent known]
  case loads => rw [run_loadFile (full.leads.1.read full.leads.2), ofOctets_settingsTemplate]

/-- No file is lost when the template is written to where nothing is, whether or not that
succeeds. -/
theorem writeTemplate_keepsFiles {outcome : Except SettingsError Unit}
    (missing : ∀ found, world.status layout.path ≠ .ok found)
    (run : (writeTemplate World.disk layout.path).run world = (outcome, after)) :
    World.KeepsFiles world after := by
  obtain ⟨opened, opening, full, -⟩ | ⟨opening, opened, -⟩ := writeTemplate_cases run
  case inr => exact openParent_keepsFiles opened
  have nothing := World.find?_of_missing full.reaches.sound full.no_slash missing
  rintro other octets ⟨mode, file⟩
  obtain ⟨mode', still⟩ := openParent_keepsFiles opening other octets ⟨mode, file⟩
  refine ⟨mode', ?_⟩
  rw [full.others, still]
  rw [World.placeOf_congr (openParent_opened opening).base]
  rintro ⟨below, rfl⟩
  rw [Tree.at?_eq_file_iff, Tree.find?_append, nothing] at file
  cases file

/-- Nothing is in the way of writing the template into a directory that is there. -/
theorem writeTemplate_of_reaches (reaches : world.Reaches layout)
    (no_slash : layout.path.endsInSlash = false)
    (missing : world.root.find? (world.placeOf layout.path) = none) :
    ∃ after, (writeTemplate World.disk layout.path).run world = (.ok (), after) := by
  cases run : (writeTemplate World.disk layout.path).run world with
  | mk outcome after =>
    obtain ⟨-, -, -, rfl⟩ | ⟨_, run_opened, -, unwritable⟩ := writeTemplate_cases run
    · exact ⟨after, rfl⟩
    obtain ⟨_, done⟩ := openParent_of_reaches reaches
    obtain ⟨rfl, rfl⟩ := Prod.mk.inj (run_opened.symm.trans done)
    have opening := openParent_opened run_opened
    have not_parent : world.placeOf layout.path ≠ world.placeOf layout.parent := by
      intro same
      exact world.parent_not_below layout (same ▸ List.prefix_rfl)
    have still_missing : after.root.find? (after.placeOf layout.path) = none := by
      rw [World.placeOf_congr opening.base, ← Tree.at?_eq_none_iff,
        opening.others _ (fun _ => not_parent) (.inl reaches), Tree.at?_eq_none_iff, missing]
    obtain ⟨filled, written⟩ :=
      (reaches.congr opening.base no_slash (opening.hasDirectory reaches)).write still_missing _
    obtain ⟨cause, failed⟩ := unwritable rfl
    cases written.symm.trans failed

end File

end LedgerBoard.Settings
