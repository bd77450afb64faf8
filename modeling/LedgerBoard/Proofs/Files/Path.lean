import Mathlib.Data.List.Basic
import Mathlib.Data.List.Induction
import Mathlib.Data.List.TakeWhile
import LedgerBoard.Files.Path
import LedgerBoard.Settings.Store

/-!
# How a normal path is written

A path is normal when it is relative and none of its parts is a dot or a double dot. Such a path,
unless it is empty, is the path of a directory, slashes, a name and perhaps slashes at the end.
`Layout` has these parts, and from them follow the parent of the path and the path of its backup.
-/

namespace LedgerBoard.Path

def ofChars (text : List Char) : Path := ⟨String.ofList text⟩

variable {first second text : List Char} {count : Nat}

theorem ofChars_toList (path : Path) : ofChars path.text.toList = path := by
  rw [ofChars, String.ofList_toList]

@[simp] theorem text_ofChars : (ofChars text).text.toList = text := String.toList_ofList

/-- The parts of a path between its slashes, dots among them. -/
def names (path : Path) : List String :=
  path.pieces.filter (· ≠ "")

/-- A slash divides the names of a path. -/
theorem names_append_slash :
    (ofChars (first ++ '/' :: second)).names = (ofChars first).names ++ (ofChars second).names := by
  simp only [names, pieces, text_ofChars, List.splitOn_append_cons_self, List.map_append,
    List.filter_append]

@[simp] theorem names_nil : (ofChars []).names = [] := rfl

theorem names_of_no_slash (some_text : text ≠ []) (no_slash : '/' ∉ text) :
    (ofChars text).names = [String.ofList text] := by
  have not_empty : String.ofList text ≠ "" := by
    rintro empty
    exact some_text (by simpa using congrArg String.toList empty)
  rw [names, pieces, text_ofChars, List.splitOn_eq_singleton no_slash, List.map_singleton,
    List.filter_cons_of_pos (by simpa using not_empty), List.filter_nil]

theorem names_slashes_append :
    (ofChars (List.replicate count '/' ++ text)).names = (ofChars text).names := by
  induction count with
  | zero => rfl
  | succ count ih =>
      rw [List.replicate_succ, List.cons_append, ← List.nil_append ('/' :: _), names_append_slash,
        names_nil, ih, List.nil_append]

/-- Slashes at the end add no name. -/
theorem names_append_slashes :
    (ofChars (text ++ List.replicate count '/')).names = (ofChars text).names := by
  cases count with
  | zero => rw [List.replicate_zero, List.append_nil]
  | succ count =>
      have nothing : (ofChars (List.replicate count '/')).names = [] := by
        rw [← List.append_nil (List.replicate count '/'), names_slashes_append, names_nil]
      rw [List.replicate_succ, names_append_slash, nothing, List.append_nil]

/-- A name behind the way to a directory is one more name. -/
theorem names_lead_name {lead name : List Char} {gap tail : Nat} (gap_iff : gap = 0 ↔ lead = [])
    (some_name : name ≠ []) (no_slash : '/' ∉ name) :
    (ofChars (lead ++ List.replicate gap '/' ++ (name ++ List.replicate tail '/'))).names =
      (ofChars lead).names ++ [String.ofList name] := by
  have last : (ofChars (name ++ List.replicate tail '/')).names = [String.ofList name] := by
    rw [names_append_slashes, names_of_no_slash some_name no_slash]
  cases gap with
  | zero =>
      rw [gap_iff.mp rfl, List.replicate_zero, List.nil_append, List.nil_append, last, names_nil,
        List.nil_append]
  | succ count =>
      rw [List.append_assoc, List.replicate_succ, List.cons_append, names_append_slash,
        names_slashes_append, last]

/-- A relative path whose parts are names: none is a dot or a double dot. -/
structure IsNormal (path : Path) : Prop where
  relative : path.isAbsolute = false
  no_dots : ∀ piece ∈ path.pieces, piece ≠ "." ∧ piece ≠ ".."

theorem IsNormal.mem_names {path : Path} (normal : path.IsNormal) {name : String}
    (mem : name ∈ path.names) :
    name ≠ "." ∧ name ≠ ".." :=
  normal.no_dots name (List.mem_of_mem_filter mem)

theorem isNormal_of_names {path : Path} (relative : path.isAbsolute = false)
    (no_dots : ∀ name ∈ path.names, name ≠ "." ∧ name ≠ "..") : path.IsNormal where
  relative := relative
  no_dots := by
    intro piece mem
    by_cases empty : piece = ""
    · subst empty
      decide
    · exact no_dots piece (List.mem_filter.mpr ⟨mem, decide_eq_true empty⟩)

/-- The parts of a normal path are its names. -/
theorem IsNormal.parts_eq {path : Path} (normal : path.IsNormal) : path.parts = path.names := by
  apply List.filter_congr
  intro piece mem
  simp [(normal.no_dots piece mem).1]

theorem withoutSlashes_eq_self {path : Path} (no_slash : path.endsInSlash = false) :
    path.withoutSlashes = path := by
  have kept : path.text.toList.reverse.dropWhile (· == '/') = path.text.toList.reverse := by
    rw [List.dropWhile_eq_self_iff]
    intro some_text
    rw [endsInSlash, ← List.head?_reverse, List.head?_eq_getElem?] at no_slash
    simpa [List.getElem?_eq_getElem some_text] using no_slash
  rw [withoutSlashes, kept, List.reverse_reverse, String.ofList_toList]

/-- The parts of the text of a normal path. -/
structure Layout where
  /-- The way to the directory of the last name. -/
  lead : List Char
  gap : Nat
  name : List Char
  tail : Nat
  lead_starts : lead.head? ≠ some '/'
  lead_ends : lead.getLast? ≠ some '/'
  gap_iff : gap = 0 ↔ lead = []
  some_name : name ≠ []
  no_slash : '/' ∉ name
  no_dots : String.ofList name ≠ "." ∧ String.ofList name ≠ ".."
  lead_no_dots : ∀ name ∈ (ofChars lead).names, name ≠ "." ∧ name ≠ ".."

namespace Layout

variable (layout : Layout)

/-- What stands in front of the name. -/
def front : List Char :=
  layout.lead ++ List.replicate layout.gap '/'

def path : Path :=
  ofChars (layout.front ++ (layout.name ++ List.replicate layout.tail '/'))

def parent : Path :=
  ofChars layout.lead

theorem names_path : layout.path.names = layout.parent.names ++ [String.ofList layout.name] :=
  names_lead_name layout.gap_iff layout.some_name layout.no_slash

theorem isNormal_parent : layout.parent.IsNormal := by
  apply isNormal_of_names _ layout.lead_no_dots
  simpa [isAbsolute, parent] using layout.lead_starts

/-- A layout spells a normal path. -/
theorem isNormal_path : layout.path.IsNormal := by
  apply isNormal_of_names
  · have start : (layout.front ++ layout.name).head? ≠ some '/' := by
      cases lead : layout.lead with
      | nil =>
          rw [front, lead, layout.gap_iff.mpr lead, List.replicate_zero, List.append_nil,
            List.nil_append]
          intro slash
          exact layout.no_slash (List.mem_of_mem_head? slash)
      | cons c rest => simpa [front, lead] using layout.lead_starts
    have some_start : layout.front ++ layout.name ≠ [] := by simp [layout.some_name]
    rw [isAbsolute, path, text_ofChars, ← List.append_assoc,
      List.head?_append_of_ne_nil _ some_start]
    exact beq_false_of_ne start
  · rw [names_path]
    simp only [List.forall_mem_append, List.forall_mem_singleton]
    exact ⟨layout.lead_no_dots, layout.no_dots⟩

theorem text_path_ne : layout.path.text ≠ "" := by
  intro empty
  have := congrArg String.toList empty
  simp [path, layout.some_name] at this

theorem text_path : ∃ rest, layout.path.text = layout.parent.text ++ rest := by
  refine ⟨String.ofList (List.replicate layout.gap '/' ++
    (layout.name ++ List.replicate layout.tail '/')), ?_⟩
  simp only [path, parent, front, ofChars, ← String.ofList_append, List.append_assoc]

theorem dropIdle_eq_self {text : List Char} (solid : text.head? ≠ some '/')
    (no_dot : ¬['.', '/'] <+: text) :
    dropIdle text = text := by
  unfold dropIdle
  split
  · simp at solid
  · simp at no_dot
  · rfl

theorem dropIdle_slashes_append {count : Nat} {text : List Char} :
    dropIdle (List.replicate count '/' ++ text) = dropIdle text := by
  induction count with
  | zero => rfl
  | succ count ih => rw [List.replicate_succ, List.cons_append, dropIdle, ih]

/-- Nothing is dropped from the end of a text that ends in a name. -/
theorem dropIdle_reverse {text : List Char} (ends : text.getLast? ≠ some '/')
    (no_dots : ∀ name ∈ (ofChars text).names, name ≠ "." ∧ name ≠ "..") :
    dropIdle text.reverse = text.reverse := by
  apply dropIdle_eq_self
  · rwa [List.head?_reverse]
  · rintro ⟨rest, same⟩
    have text_eq : text = rest.reverse ++ '/' :: ['.'] := by
      rw [← List.reverse_reverse text, ← same]
      simp
    have dot : (ofChars ['.']).names = ["."] := by decide
    have := no_dots "." (by rw [text_eq, names_append_slash, dot]; simp)
    exact this.1 rfl

/-- The last name of a layout is split off. -/
theorem splitLast_path : layout.path.splitLast = (layout.front.reverse, layout.name.reverse) := by
  have bare_names : (ofChars (layout.front ++ layout.name)).names = layout.path.names := by
    rw [path, ← List.append_assoc, names_append_slashes]
  have ends : (layout.front ++ layout.name).getLast? ≠ some '/' := by
    rw [List.getLast?_append_of_ne_nil _ layout.some_name]
    exact fun slash => layout.no_slash (List.mem_of_mem_getLast? slash)
  have bare :
      dropIdle layout.path.text.toList.reverse = layout.name.reverse ++ layout.front.reverse := by
    rw [path, text_ofChars, ← List.append_assoc, List.reverse_append, List.reverse_replicate,
      dropIdle_slashes_append, dropIdle_reverse ends, List.reverse_append]
    rw [bare_names]
    exact fun name mem => layout.isNormal_path.mem_names mem
  have in_name : ∀ c ∈ layout.name.reverse, decide (c ≠ '/') = true := by
    intro c mem
    rw [decide_eq_true_iff]
    rintro rfl
    exact layout.no_slash (List.mem_reverse.mp mem)
  have front_ends : layout.front.reverse = [] ∨ ∃ rest, layout.front.reverse = '/' :: rest := by
    rw [front, List.reverse_append, List.reverse_replicate]
    cases gap : layout.gap with
    | zero => simp [layout.gap_iff.mp gap]
    | succ count => exact .inr ⟨_, rfl⟩
  rw [splitLast, bare, List.dropWhile_append_of_pos in_name, List.takeWhile_append_of_pos in_name]
  rcases front_ends with none | ⟨rest, some⟩
  · simp [none]
  · simp [some]

/-- The parent of a layout is what stands in front of its last name. -/
theorem parent?_path : layout.path.parent? = some layout.parent := by
  have cut : dropIdle layout.front.reverse = layout.lead.reverse := by
    rw [front, List.reverse_append, List.reverse_replicate, dropIdle_slashes_append,
      dropIdle_reverse layout.lead_ends layout.lead_no_dots]
  have kept : (layout.lead.reverse.isEmpty && !layout.front.reverse.isEmpty) = false := by
    cases lead : layout.lead with
    | nil => simp [front, lead, layout.gap_iff.mpr lead]
    | cons c rest => simp
  have some_name : layout.name.reverse.isEmpty = false := by simpa using layout.some_name
  simp only [parent?, splitLast_path, cut, kept, some_name, Bool.false_eq_true, if_false,
    List.reverse_reverse]
  rfl

theorem endsInSlash_parent : layout.parent.endsInSlash = false := by
  rw [endsInSlash, parent, text_ofChars]
  exact beq_false_of_ne layout.lead_ends

/-- What a name has beyond its stem is a dot and an extension without dots. -/
theorem stem_eq (name : List Char) :
    stem name = name ∨ ∃ extension, '.' ∉ extension ∧ name = stem name ++ '.' :: extension := by
  have back_eq := List.takeWhile_append_dropWhile (p := (· ≠ '.')) (l := name.reverse)
  have stop := List.head?_dropWhile_not (· ≠ '.') name.reverse
  simp only [stem]
  cases rest : name.reverse.dropWhile (· ≠ '.') with
  | nil => exact .inl rfl
  | cons c more =>
      by_cases first : more = []
      · simp [first]
      · rw [rest] at stop
        have dot : c = '.' := by simpa using stop
        refine .inr ⟨(name.reverse.takeWhile (· ≠ '.')).reverse, ?_, ?_⟩
        · intro mem
          simpa using List.mem_takeWhile_imp (List.mem_reverse.mp mem)
        · rw [rest, dot] at back_eq
          simpa [first] using (congrArg List.reverse back_eq).symm

theorem mem_of_mem_stem {name : List Char} {c : Char} (mem : c ∈ stem name) : c ∈ name := by
  rcases stem_eq name with same | ⟨extension, -, same⟩
  · rwa [← same]
  · rw [same]
    exact List.mem_append_left _ mem

/-- The layout of the backup of a path. -/
def backup : Layout where
  lead := layout.lead
  gap := layout.gap
  name := stem layout.name ++ ".toml.backup".toList
  tail := 0
  lead_starts := layout.lead_starts
  lead_ends := layout.lead_ends
  gap_iff := layout.gap_iff
  some_name := by simp
  no_slash := by
    rw [List.mem_append, not_or]
    exact ⟨fun mem => layout.no_slash (mem_of_mem_stem mem), by decide⟩
  no_dots := by
    constructor <;>
    · intro dots
      have := congrArg (List.length ∘ String.toList) dots
      simp at this
  lead_no_dots := layout.lead_no_dots

/-- The backup of a layout is a layout in the same place. -/
theorem backupPath_path : Settings.backupPath layout.path = layout.backup.path := by
  have some_name :
      (layout.name.isEmpty || layout.name == ['.', '.'] || layout.name == ['.']) = false := by
    obtain ⟨no_dot, no_dots⟩ := layout.no_dots
    have not_dot : layout.name ≠ ['.'] := fun same => no_dot (by rw [same])
    have not_dots : layout.name ≠ ['.', '.'] := fun same => no_dots (by rw [same])
    simp [layout.some_name, not_dot, not_dots]
  have name : layout.path.fileName? = some layout.name := by
    rw [fileName?, splitLast_path, List.reverse_reverse, some_name, if_neg Bool.false_ne_true]
  have new_text : String.ofList (layout.front ++ stem layout.name) ++ "." ++ "toml.backup" =
      String.ofList (layout.front ++ (stem layout.name ++ ".toml.backup".toList)) := by
    apply String.toList_injective
    simp
  simp only [Settings.backupPath, withExtension, name, splitLast_path, List.reverse_reverse,
    new_text]
  rw [Layout.path, backup, List.replicate_zero, List.append_nil]
  rfl

/-- The backup has another name, because its extension has a dot in it. -/
theorem backup_name_ne : layout.backup.name ≠ layout.name := by
  change stem layout.name ++ ".toml.backup".toList ≠ layout.name
  intro same
  rcases stem_eq layout.name with whole | ⟨extension, no_dot, cut⟩
  · rw [whole] at same
    simpa using congrArg List.length same
  · have new_extension : ".toml.backup".toList = '.' :: extension :=
      List.append_cancel_left (same.trans cut)
    apply no_dot
    rw [← (List.cons.inj new_extension).2]
    decide

end Layout

/-- Every text ends in some slashes. -/
theorem exists_slashes (text : List Char) :
    ∃ front count, text = front ++ List.replicate count '/' ∧ front.getLast? ≠ some '/' := by
  induction text using List.reverseRecOn with
  | nil => exact ⟨[], 0, rfl, by simp⟩
  | append_singleton text c ih =>
      by_cases slash : c = '/'
      · obtain ⟨front, count, rfl, ends⟩ := ih
        refine ⟨front, count + 1, ?_, ends⟩
        rw [slash, List.append_assoc, List.replicate_succ']
      · exact ⟨text ++ [c], 0, by simp, by simpa using slash⟩

/-- Every text ends in a part without slashes, behind a slash or nothing. -/
theorem exists_last_name (text : List Char) :
    ∃ front name, text = front ++ name ∧ '/' ∉ name ∧ (front = [] ∨ front.getLast? = some '/') := by
  induction text using List.reverseRecOn with
  | nil => exact ⟨[], [], rfl, by simp, .inl rfl⟩
  | append_singleton text c ih =>
      by_cases slash : c = '/'
      · exact ⟨text ++ [c], [], by simp, by simp, .inr (by simpa using slash)⟩
      · obtain ⟨front, name, rfl, no_slash, ends⟩ := ih
        refine ⟨front, name ++ [c], by simp, ?_, ends⟩
        simpa [no_slash] using Ne.symm slash

/-- Every normal path that is not empty has a layout. -/
theorem IsNormal.exists_layout {path : Path} (normal : path.IsNormal) (some_text : path.text ≠ "") :
    ∃ layout : Layout, layout.path = path := by
  obtain ⟨body, tail, text_eq, body_ends⟩ := exists_slashes path.text.toList
  obtain ⟨front, name, rfl, no_slash, front_ends⟩ := exists_last_name body
  obtain ⟨lead, gap, rfl, lead_ends⟩ := exists_slashes front
  have path_eq :
      path = ofChars (lead ++ List.replicate gap '/' ++ (name ++ List.replicate tail '/')) := by
    rw [← List.append_assoc, ← text_eq, ofChars_toList]
  have starts : path.text.toList.head? ≠ some '/' := by simpa [isAbsolute] using normal.relative
  have no_gap : lead = [] → gap = 0 := by
    rintro rfl
    cases gap with
    | zero => rfl
    | succ count => simp [path_eq, List.replicate_succ] at starts
  have some_name : name ≠ [] := by
    rintro rfl
    have nothing : lead ++ List.replicate gap '/' = [] := by
      rw [List.append_nil] at body_ends
      exact front_ends.resolve_right body_ends
    cases tail with
    | zero =>
        rw [nothing] at text_eq
        exact some_text (String.toList_eq_nil_iff.mp text_eq)
    | succ count =>
        rw [text_eq, nothing] at starts
        exact starts rfl
  have gap_iff : gap = 0 ↔ lead = [] := by
    refine ⟨?_, no_gap⟩
    rintro rfl
    rw [List.replicate_zero, List.append_nil] at front_ends
    exact front_ends.resolve_right lead_ends
  have lead_starts : lead.head? ≠ some '/' := by
    cases lead with
    | nil => simp
    | cons c rest => simpa [path_eq] using starts
  have names_eq : path.names = (ofChars lead).names ++ [String.ofList name] := by
    rw [path_eq]
    exact names_lead_name gap_iff some_name no_slash
  refine ⟨⟨lead, gap, name, tail, lead_starts, lead_ends, gap_iff, some_name, no_slash, ?last,
    ?others⟩, path_eq.symm⟩
  case last => exact normal.mem_names (by rw [names_eq]; simp)
  case others =>
    intro other mem
    exact normal.mem_names (by rw [names_eq]; exact List.mem_append_left _ mem)

end LedgerBoard.Path
