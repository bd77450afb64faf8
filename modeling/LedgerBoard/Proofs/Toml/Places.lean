import LedgerBoard.Proofs.Outcome
import LedgerBoard.Proofs.Toml.Mentions
import LedgerBoard.Proofs.Toml.Rest
import LedgerBoard.Toml.Document

/-!
# Places in a document

A reader hands back the rest of its text, or the place of its fault; either is what the document
ends with, and so are the places of the keys and nodes that the reader finds. No place points beside
the document, whatever is wrong with it. The facts about readers are stated for an end of the
document as their text, so that they need not say where in the document a reader started.
-/

namespace LedgerBoard.Toml

variable {whole text : List Char}

/-- A reading that leaves an end of a text, or is at fault there, and finds only what is `kept`. -/
inductive StaysIn (whole : List Char) {α : Type} (kept : α → Prop) : Reading α → Prop where
  | found {value : α} {rest : List Char} (value_kept : kept value) (rest_in : rest <:+ whole) :
      StaysIn whole kept (.ok (value, rest))
  | fault {place : Place} (place_in : place <:+ whole) : StaysIn whole kept (.error place)

namespace StaysIn

variable {α β : Type} {kept : α → Prop} {reading : Reading α}

theorem of_ok (stays : StaysIn whole kept reading) {value : α} {rest : List Char}
    (read : reading = .ok (value, rest)) : kept value ∧ rest <:+ whole := by
  cases stays with
  | found value_kept rest_in =>
      cases read
      exact ⟨value_kept, rest_in⟩
  | fault place_in => cases read

theorem of_error (stays : StaysIn whole kept reading) {place : Place}
    (failed : reading = .error place) :
    place <:+ whole := by
  cases stays with
  | found value_kept rest_in => cases failed
  | fault place_in =>
      cases failed
      exact place_in

theorem map {other : β → Prop} {change : α × List Char → β × List Char}
    (stays : StaysIn whole kept reading)
    (keeps : ∀ value rest, kept value →
      other (change (value, rest)).1 ∧ (change (value, rest)).2 = rest) :
    StaysIn whole other (reading.map change) := by
  cases stays with
  | @found value rest value_kept rest_in =>
      obtain ⟨other_kept, same⟩ := keeps value rest value_kept
      rw [← same] at rest_in
      exact .found other_kept rest_in
  | fault place_in => exact .fault place_in

end StaysIn

/-- A key that is written in a text. -/
def Key.LiesIn (whole : List Char) (key : Key) : Prop :=
  key.place <:+ whole

section Texts

theorem readCodePoint_staysIn (inside : text <:+ whole) (count : Nat) :
    StaysIn whole (fun _ => True) (readCodePoint count text) := by
  rw [readCodePoint]
  split
  · split
    · exact .found trivial ((List.drop_suffix _ _).trans inside)
    · exact .fault inside
  · exact .fault inside

theorem readEscape_staysIn (inside : text <:+ whole) :
    StaysIn whole (fun _ => True) (readEscape text) := by
  rw [readEscape.eq_def]
  split
  case h_8 rest => exact readCodePoint_staysIn (tail_suffix inside) 4
  case h_9 rest => exact readCodePoint_staysIn (tail_suffix inside) 8
  case h_10 => exact .fault (tail_suffix inside)
  case h_11 => exact .fault inside
  all_goals exact .found trivial (tail_suffix inside)

theorem withChar_staysIn {reading : Reading (List Char)}
    (stays : StaysIn whole (fun _ => True) reading) (c : Char) :
    StaysIn whole (fun _ => True) (withChar c reading) :=
  stays.map fun _ _ _ => ⟨trivial, rfl⟩

theorem readShort_staysIn (quote : Quote) (inside : text <:+ whole) :
    StaysIn whole (fun _ => True) (readShort quote text) := by
  fun_induction readShort quote text with
  | case1 => exact .fault inside
  | case2 rest => exact .found trivial (tail_suffix inside)
  | case3 c rest open_ escaped place failed =>
      exact .fault ((readEscape_staysIn (tail_suffix inside)).of_error failed)
  | case4 c rest open_ escaped found behind read ih =>
      apply withChar_staysIn
      exact ih ((readEscape_staysIn (tail_suffix inside)).of_ok read).2
  | case5 c rest open_ plain is_plain ih => exact withChar_staysIn (ih (tail_suffix inside)) c
  | case6 c rest open_ plain no_plain => exact .fault inside

theorem readLong_staysIn (quote : Quote) (inside : text <:+ whole) :
    StaysIn whole (fun _ => True) (readLong quote text) := by
  fun_induction readLong quote text with
  | case1 text found closed => exact .found trivial ((closing?_suffix closed).trans inside)
  | case2 text no_end rest ended ih =>
      exact withChar_staysIn (ih ((lineEnd?_suffix ended).trans inside)) '\n'
  | case3 => exact .fault inside
  | case4 c rest no_line escaped behind line no_end ih =>
      exact ih ((afterEscapedLine?_suffix line).trans (tail_suffix inside))
  | case5 c rest no_line escaped no_escaped_line place failed no_end =>
      exact .fault ((readEscape_staysIn (tail_suffix inside)).of_error failed)
  | case6 c rest no_line escaped no_escaped_line found behind read no_end ih =>
      exact withChar_staysIn (ih ((readEscape_staysIn (tail_suffix inside)).of_ok read).2) found
  | case7 c rest no_line plain is_plain no_end ih =>
      exact withChar_staysIn (ih (tail_suffix inside)) c
  | case8 => exact .fault inside

theorem readText_staysIn (quote : Quote) (inside : text <:+ whole) :
    StaysIn whole (fun _ => True) (readText quote text) := by
  simp only [readText]
  refine (?_ : StaysIn whole (fun _ => True) _).map fun _ _ _ => ⟨trivial, rfl⟩
  split
  · rename_i behind opened
    have behind_in := (afterMarks?_suffix opened).trans inside
    apply readLong_staysIn
    cases ended : lineEnd? behind with
    | none => exact behind_in
    | some rest => exact (lineEnd?_suffix ended).trans behind_in
  · exact readShort_staysIn quote ((List.drop_suffix 1 text).trans inside)

theorem readKeyPart_staysIn (inside : text <:+ whole) :
    StaysIn whole (Key.LiesIn whole) (readKeyPart text) := by
  rw [readKeyPart.eq_def]
  simp only
  split
  · exact (readShort_staysIn .basic (tail_suffix inside)).map fun _ _ _ => ⟨inside, rfl⟩
  · exact (readShort_staysIn .literal (tail_suffix inside)).map fun _ _ _ => ⟨inside, rfl⟩
  · split
    · exact .fault inside
    · exact .found inside ((List.dropWhile_suffix _).trans inside)

theorem readKeyParts_staysIn (limit : Nat) (inside : text <:+ whole) :
    StaysIn whole (fun path => ∀ key ∈ path, key.LiesIn whole) (readKeyParts limit text) := by
  fun_induction readKeyParts limit text with
  | case1 text => exact .fault inside
  | case2 limit text place failed =>
      exact .fault ((readKeyPart_staysIn ((skipGaps_suffix text).trans inside)).of_error failed)
  | case3 limit text key rest read behind point ih =>
      have part := (readKeyPart_staysIn ((skipGaps_suffix text).trans inside)).of_ok read
      have behind_in := tail_suffix (point ▸ (skipGaps_suffix rest).trans part.2)
      refine (ih behind_in).map ?_
      intro keys rest keys_in
      exact ⟨List.forall_mem_cons.mpr ⟨part.1, keys_in⟩, rfl⟩
  | case4 limit text key rest read no_point =>
      have part := (readKeyPart_staysIn ((skipGaps_suffix text).trans inside)).of_ok read
      exact .found (List.forall_mem_singleton.mpr part.1) ((skipGaps_suffix rest).trans part.2)

theorem readKey_staysIn (inside : text <:+ whole) :
    StaysIn whole (fun path => ∀ key ∈ path, key.LiesIn whole) (readKey text) :=
  readKeyParts_staysIn _ inside

end Texts

/-- A node that is written in a text, with all keys and nodes in it. -/
inductive Node.LiesIn (whole : List Char) : Node → Prop where
  | scalar {place : Place} {value : Scalar} (place_in : place <:+ whole) :
      LiesIn whole (.scalar place value)
  | array {place : Place} {items : List Node} (place_in : place <:+ whole)
      (items_in : ∀ item ∈ items, LiesIn whole item) : LiesIn whole (.array place items)
  | table {place : Option Place} {origin : Origin} {entries : List (Key × Node)}
      (place_in : ∀ start ∈ place, start <:+ whole)
      (keys_in : ∀ entry ∈ entries, entry.1.LiesIn whole)
      (nodes_in : ∀ entry ∈ entries, LiesIn whole entry.2) :
        LiesIn whole (.table place origin entries)
  | elements {tables : List Node} (tables_in : ∀ table ∈ tables, LiesIn whole table) :
      LiesIn whole (.elements tables)

/-- Entries that are written in a text. -/
def Entries.LieIn (whole : List Char) (entries : Entries) : Prop :=
  ∀ entry ∈ entries, entry.1.LiesIn whole ∧ entry.2.LiesIn whole

theorem Node.LiesIn.ofEntries {entries : Entries} (entries_in : entries.LieIn whole)
    {place : Option Place} (place_in : ∀ start ∈ place, start <:+ whole) (origin : Origin) :
    (Node.table place origin entries).LiesIn whole :=
  .table place_in (fun entry mem => (entries_in entry mem).1) fun entry mem =>
    (entries_in entry mem).2

namespace Entries

variable {entries inner changed : Entries} {key : Key} {node : Node}

theorem LieIn.nil : LieIn whole [] := by
  intro entry mem
  cases mem

theorem LieIn.of_table {place : Option Place} {origin : Origin}
    (lies : (Node.table place origin entries).LiesIn whole) :
    (∀ start ∈ place, start <:+ whole) ∧ entries.LieIn whole := by
  cases lies with
  | table place_in keys_in nodes_in =>
      exact ⟨place_in, fun entry mem => ⟨keys_in entry mem, nodes_in entry mem⟩⟩

theorem LieIn.node_at (entries_in : entries.LieIn whole) {name : String}
    (found : entries.node? name = some node) :
    node.LiesIn whole := by
  obtain ⟨key, mem, -⟩ := mem_of_node? found
  exact (entries_in _ mem).2

theorem LieIn.snoc (entries_in : entries.LieIn whole) (key_in : key.LiesIn whole)
    (node_in : node.LiesIn whole) :
    LieIn whole (entries ++ [(key, node)]) := by
  intro entry mem
  rcases List.mem_append.mp mem with mem | mem
  · exact entries_in entry mem
  · cases List.mem_singleton.mp mem
    exact ⟨key_in, node_in⟩

theorem LieIn.withNode (entries_in : entries.LieIn whole) (name : String)
    (node_in : node.LiesIn whole) :
    (entries.withNode name node).LieIn whole := by
  intro entry mem
  obtain ⟨old, old_mem, rfl⟩ := List.mem_map.mp mem
  refine ⟨(entries_in old old_mem).1, ?_⟩
  simp only
  split
  · exact node_in
  · exact (entries_in old old_mem).2

theorem LieIn.without (entries_in : entries.LieIn whole) (name : String) :
    (entries.without name).LieIn whole :=
  fun entry mem => entries_in entry (List.mem_filter.mp mem).1

/-- What is changed at the end of a path stays in the text with all that was there. -/
theorem Altered.lieIn {route own : Origin} {change : Origin → Entries → Option Entries}
    {path : List Key} (altered : Altered route change path own entries changed)
    (entries_in : entries.LieIn whole) (path_in : ∀ key ∈ path, key.LiesIn whole)
    (changes : ∀ own before after, change own before = some after → before.LieIn whole →
      after.LieIn whole) :
    changed.LieIn whole := by
  induction altered with
  | here at_end => exact changes _ _ _ at_end entries_in
  | missing missing altered ih =>
      have inner_in := ih .nil fun key mem => path_in key (List.mem_cons_of_mem _ mem)
      exact entries_in.snoc (path_in _ List.mem_cons_self) (.ofEntries inner_in (by simp) _)
  | table found altered ih =>
      obtain ⟨place_in, before_in⟩ := LieIn.of_table (entries_in.node_at found)
      have inner_in := ih before_in fun key mem => path_in key (List.mem_cons_of_mem _ mem)
      exact entries_in.withNode _ (.ofEntries inner_in place_in _)
  | elements found altered ih =>
      cases entries_in.node_at found with
      | elements tables_in =>
          simp only [List.forall_mem_append, List.forall_mem_singleton] at tables_in
          obtain ⟨place_in, before_in⟩ := LieIn.of_table tables_in.2
          have inner_in := ih before_in fun key mem => path_in key (List.mem_cons_of_mem _ mem)
          refine entries_in.withNode _ (.elements ?_)
          simp only [List.forall_mem_append, List.forall_mem_singleton]
          exact ⟨tables_in.1, .ofEntries inner_in place_in _⟩

theorem LieIn.assign {path : List Key} {own : Origin} (entries_in : entries.LieIn whole)
    (path_in : ∀ key ∈ path, key.LiesIn whole) (key_in : key.LiesIn whole)
    (node_in : node.LiesIn whole) (assigned : entries.assign path key node own = some changed) :
    changed.LieIn whole := by
  refine (altered_of_alter assigned).lieIn entries_in path_in ?_
  intro own before after put before_in
  rw [Option.ite_none_right_eq_some] at put
  obtain ⟨missing, rfl⟩ := insert?_eq_some put.2
  exact before_in.snoc key_in node_in

theorem LieIn.openTable {place : Place} {path : List Key} (entries_in : entries.LieIn whole)
    (place_in : place <:+ whole) (path_in : ∀ key ∈ path, key.LiesIn whole)
    (key_in : key.LiesIn whole) (opened : entries.openTable place path key = some changed) :
    changed.LieIn whole := by
  refine (altered_of_alter opened).lieIn entries_in path_in ?_
  intro own before after put before_in
  split at put
  · cases put
    exact before_in.snoc key_in (.ofEntries .nil (by simpa using place_in) _)
  · rename_i found
    cases put
    obtain ⟨-, own_in⟩ := LieIn.of_table (before_in.node_at found)
    exact (before_in.without _).snoc key_in (.ofEntries own_in (by simpa using place_in) _)
  · cases put

theorem LieIn.openElement {place : Place} {path : List Key} (entries_in : entries.LieIn whole)
    (place_in : place <:+ whole) (path_in : ∀ key ∈ path, key.LiesIn whole)
    (key_in : key.LiesIn whole) (opened : entries.openElement place path key = some changed) :
    changed.LieIn whole := by
  have fresh_in : (Node.table (some place) .header []).LiesIn whole :=
    .ofEntries .nil (by simpa using place_in) _
  refine (altered_of_alter opened).lieIn entries_in path_in ?_
  intro own before after put before_in
  split at put
  · cases put
    exact before_in.snoc key_in (.elements (List.forall_mem_singleton.mpr fresh_in))
  · rename_i found
    cases put
    cases before_in.node_at found with
    | elements tables_in =>
        refine before_in.withNode _ (.elements ?_)
        simp only [List.forall_mem_append, List.forall_mem_singleton]
        exact ⟨tables_in, fresh_in⟩
  · cases put

end Entries

section Values

variable {readItem : List Char → Reading Node}

theorem readQuantity_staysIn (inside : text <:+ whole) :
    StaysIn whole (Node.LiesIn whole) (readQuantity text) := by
  rw [readQuantity]
  split
  · rename_i moment
    exact .found (.scalar inside) ((afterMoment?_suffix moment).trans inside)
  · rename_i number
    exact .found (.scalar inside) ((readNumber?_suffix number).trans inside)
  · rename_i number
    exact .found (.scalar inside) ((readNumber?_suffix number).trans inside)
  · exact .fault inside

theorem readBoolean_staysIn (inside : text <:+ whole) :
    StaysIn whole (Node.LiesIn whole) (readBoolean text) := by
  rw [readBoolean.eq_def]
  split
  · exact .found (.scalar inside) (List.IsSuffix.trans ⟨['t', 'r', 'u', 'e'], rfl⟩ inside)
  · exact .found (.scalar inside) (List.IsSuffix.trans ⟨['f', 'a', 'l', 's', 'e'], rfl⟩ inside)
  · exact .fault inside

theorem readScalar_staysIn (inside : text <:+ whole) :
    StaysIn whole (Node.LiesIn whole) (readScalar text) := by
  rw [readScalar.eq_def]
  simp only
  split
  · exact (readText_staysIn .basic inside).map fun _ _ _ => ⟨.scalar inside, rfl⟩
  · exact (readText_staysIn .literal inside).map fun _ _ _ => ⟨.scalar inside, rfl⟩
  · split
    · exact readQuantity_staysIn inside
    · exact readBoolean_staysIn inside
  · exact .fault inside

/-- A reader of nodes that never leaves the text. -/
def ReadsWithin (whole : List Char) (readItem : List Char → Reading Node) : Prop :=
  ∀ text, text <:+ whole → StaysIn whole (Node.LiesIn whole) (readItem text)

theorem readItems_staysIn (within : ReadsWithin whole readItem) (inside : text <:+ whole) :
    StaysIn whole (fun items => ∀ item ∈ items, item.LiesIn whole) (readItems readItem text) := by
  fun_induction readItems readItem text with
  | case1 text place failed => exact .fault ((suffix_of_skipSpace (.inr failed)).trans inside)
  | case2 text rest skipped =>
      exact .found nofun (tail_suffix ((suffix_of_skipSpace (.inl skipped)).trans inside))
  | case3 text start solid skipped place failed =>
      exact .fault ((within _ ((suffix_of_skipSpace (.inl skipped)).trans inside)).of_error failed)
  | case4 text start solid skipped item rest read place failed =>
      exact .fault ((suffix_of_skipSpace (.inl skipped)).trans inside)
  | case5 text start solid skipped item rest read behind closed =>
      have start_in := (suffix_of_skipSpace (.inl skipped)).trans inside
      have first := (within _ start_in).of_ok read
      have behind_in := tail_suffix ((suffix_of_skipSpace (.inl closed)).trans first.2)
      exact .found (List.forall_mem_singleton.mpr first.1) behind_in
  | case6 text start solid skipped item rest read behind comma shorter ih =>
      have start_in := (suffix_of_skipSpace (.inl skipped)).trans inside
      have first := (within _ start_in).of_ok read
      have behind_in := tail_suffix ((suffix_of_skipSpace (.inl comma)).trans first.2)
      refine (ih behind_in).map ?_
      intro items rest items_in
      exact ⟨List.forall_mem_cons.mpr ⟨first.1, items_in⟩, rfl⟩
  | case7 text start solid skipped item rest read behind comma not_shorter =>
      exact .fault ((suffix_of_skipSpace (.inl skipped)).trans inside)
  | case8 text start solid skipped item rest read behind no_end no_comma skipped_behind =>
      have start_in := (suffix_of_skipSpace (.inl skipped)).trans inside
      exact .fault
        ((suffix_of_skipSpace (.inl skipped_behind)).trans ((within _ start_in).of_ok read).2)

/-- A path with its node, both written in a text. -/
def PairLiesIn (whole : List Char) (pair : List Key × Node) : Prop :=
  (∀ key ∈ pair.1, key.LiesIn whole) ∧ pair.2.LiesIn whole

theorem readPair_staysIn (within : ReadsWithin whole readItem) (inside : text <:+ whole) :
    StaysIn whole (PairLiesIn whole) (readPair readItem text) := by
  have key_stays := readKey_staysIn inside
  rw [readPair]
  split
  · rename_i failed
    exact .fault (key_stays.of_error failed)
  · rename_i path rest read
    obtain ⟨path_in, rest_in⟩ := key_stays.of_ok read
    refine (within _ ((skipGaps_suffix rest).trans (tail_suffix rest_in))).map ?_
    intro node behind node_in
    exact ⟨⟨path_in, node_in⟩, rfl⟩
  · rename_i read
    exact .fault (key_stays.of_ok read).2

theorem readPairs_staysIn (within : ReadsWithin whole readItem) (inside : text <:+ whole) :
    StaysIn whole (fun pairs => ∀ pair ∈ pairs, PairLiesIn whole pair)
      (readPairs readItem text) := by
  fun_induction readPairs readItem text with
  | case1 text place failed => exact .fault ((readPair_staysIn within inside).of_error failed)
  | case2 text pair rest read behind closed =>
      have first := (readPair_staysIn within inside).of_ok read
      have behind_in := tail_suffix (closed ▸ (skipGaps_suffix rest).trans first.2)
      exact .found (List.forall_mem_singleton.mpr first.1) behind_in
  | case3 text pair rest read behind comma shorter ih =>
      have first := (readPair_staysIn within inside).of_ok read
      have behind_in := tail_suffix (comma ▸ (skipGaps_suffix rest).trans first.2)
      refine (ih behind_in).map ?_
      intro pairs rest pairs_in
      exact ⟨List.forall_mem_cons.mpr ⟨first.1, pairs_in⟩, rfl⟩
  | case4 text pair rest read behind comma not_shorter => exact .fault inside
  | case5 text pair rest read no_end no_comma =>
      exact .fault ((skipGaps_suffix rest).trans ((readPair_staysIn within inside).of_ok read).2)

/-- The last part of a path and the parts before it are parts of the path. -/
theorem forall_of_getLast? {path : List Key} {key : Key} (last : path.getLast? = some key)
    (path_in : ∀ part ∈ path, part.LiesIn whole) :
    (∀ part ∈ path.dropLast, part.LiesIn whole) ∧ key.LiesIn whole :=
  ⟨fun part mem => path_in part (List.dropLast_subset path mem),
    path_in key (List.mem_of_getLast? last)⟩

theorem Entries.LieIn.withPair {pair : List Key × Node} {entries changed : Entries}
    (entries_in : entries.LieIn whole) (pair_in : PairLiesIn whole pair)
    (put : entries.withPair pair = some changed) : changed.LieIn whole := by
  rw [Entries.withPair] at put
  split at put
  · rename_i key last
    obtain ⟨parents_in, key_in⟩ := forall_of_getLast? last pair_in.1
    exact entries_in.assign parents_in key_in pair_in.2 put
  · cases put

theorem Entries.LieIn.withPairs {pairs : List (List Key × Node)} {entries changed : Entries}
    (entries_in : entries.LieIn whole) (pairs_in : ∀ pair ∈ pairs, PairLiesIn whole pair)
    (put : pairs.foldlM Entries.withPair entries = some changed) : changed.LieIn whole := by
  induction pairs generalizing entries with
  | nil =>
      cases put
      exact entries_in
  | cons pair pairs ih =>
      obtain ⟨pair_in, others_in⟩ := List.forall_mem_cons.mp pairs_in
      rw [List.foldlM_cons] at put
      obtain ⟨between, first, others⟩ := Option.bind_eq_some_iff.mp put
      exact ih (entries_in.withPair pair_in first) others_in others

theorem readInline_staysIn (within : ReadsWithin whole readItem) (inside : text <:+ whole) :
    StaysIn whole (Entries.LieIn whole) (readInline readItem text) := by
  rw [readInline]
  split
  · rename_i rest closed
    exact .found .nil (tail_suffix (closed ▸ (skipGaps_suffix text).trans inside))
  · have pairs_stay := readPairs_staysIn within inside
    split
    · rename_i failed
      exact .fault (pairs_stay.of_error failed)
    · rename_i read
      split
      · rename_i made
        obtain ⟨pairs_in, rest_in⟩ := pairs_stay.of_ok read
        exact .found (Entries.LieIn.nil.withPairs pairs_in made) rest_in
      · exact .fault inside

theorem readValue_readsWithin (limit : Nat) : ReadsWithin whole (readValue limit) := by
  induction limit with
  | zero => exact fun text inside => .fault inside
  | succ limit ih =>
      intro text inside
      rw [readValue.eq_def]
      simp only
      split
      · split
        · exact .fault inside
        · refine (readItems_staysIn ih (tail_suffix inside)).map ?_
          intro items rest items_in
          exact ⟨.array inside items_in, rfl⟩
      · split
        · exact .fault inside
        · refine (readInline_staysIn ih (tail_suffix inside)).map ?_
          intro entries rest entries_in
          exact ⟨.ofEntries entries_in (by simpa using inside) _, rfl⟩
      · exact readScalar_staysIn inside

end Values

namespace Draft

/-- A draft of what is written in a text. -/
structure LiesIn (whole : List Char) (draft : Draft) : Prop where
  entries_in : draft.entries.LieIn whole
  opened_in : ∀ key ∈ draft.opened, key.LiesIn whole

variable {draft next : Draft} {path : List Key}

theorem splitPath?_lieIn {parents : List Key} {key : Key}
    (split : splitPath? path = some (parents, key)) (path_in : ∀ part ∈ path, part.LiesIn whole) :
    (∀ part ∈ parents, part.LiesIn whole) ∧ key.LiesIn whole := by
  obtain ⟨last, found, same⟩ := Option.map_eq_some_iff.mp split
  cases same
  exact forall_of_getLast? found path_in

theorem LiesIn.openHeader {place : Place} {element : Bool} (lies : draft.LiesIn whole)
    (place_in : place <:+ whole) (path_in : ∀ key ∈ path, key.LiesIn whole)
    (opened : draft.openHeader place element path = some next) :
    next.LiesIn whole := by
  obtain ⟨⟨parents, key⟩, split, opened⟩ := Option.bind_eq_some_iff.mp opened
  obtain ⟨parents_in, key_in⟩ := splitPath?_lieIn split path_in
  cases element with
  | true =>
      obtain ⟨entries, put, same⟩ := Option.bind_eq_some_iff.mp opened
      cases same
      exact ⟨lies.entries_in.openElement place_in parents_in key_in put, path_in⟩
  | false =>
      obtain ⟨entries, put, same⟩ := Option.bind_eq_some_iff.mp opened
      cases same
      exact ⟨lies.entries_in.openTable place_in parents_in key_in put, path_in⟩

theorem LiesIn.assign {node : Node} (lies : draft.LiesIn whole)
    (path_in : ∀ key ∈ path, key.LiesIn whole) (node_in : node.LiesIn whole)
    (assigned : draft.assign path node = some next) : next.LiesIn whole := by
  simp only [Draft.assign, Option.bind_eq_bind, Option.bind_eq_some_iff, Prod.exists] at assigned
  obtain ⟨parents, key, split, entries, put, same⟩ := assigned
  obtain ⟨parents_in, key_in⟩ := splitPath?_lieIn split path_in
  cases same
  refine ⟨?_, lies.opened_in⟩
  refine (Entries.altered_of_alter put).lieIn lies.entries_in lies.opened_in ?_
  intro own before after put_below before_in
  exact before_in.assign parents_in key_in node_in put_below

end Draft

section Documents

theorem skipLineRest_staysIn {α : Type} {kept : α → Prop} {value : α} (value_kept : kept value)
    (inside : text <:+ whole) : StaysIn whole kept ((skipLineRest text).map (value, ·)) := by
  cases skipped : skipLineRest text with
  | ok rest => exact .found value_kept ((suffix_of_skipLineRest (.inl skipped)).trans inside)
  | error place => exact .fault ((suffix_of_skipLineRest (.inr skipped)).trans inside)

theorem readHeader_staysIn (element : Bool) (inside : text <:+ whole) :
    StaysIn whole (fun path => ∀ key ∈ path, key.LiesIn whole) (readHeader element text) := by
  have key_stays := readKey_staysIn inside
  rw [readHeader]
  split
  · rename_i failed
    exact .fault (key_stays.of_error failed)
  · rename_i path rest read
    obtain ⟨path_in, rest_in⟩ := key_stays.of_ok read
    split
    · exact skipLineRest_staysIn path_in (tail_suffix rest_in)
    · exact skipLineRest_staysIn path_in (tail_suffix (tail_suffix rest_in))
    · exact .fault rest_in

theorem readAssignment_staysIn (inside : text <:+ whole) :
    StaysIn whole (PairLiesIn whole) (readAssignment text) := by
  have pair_stays := readPair_staysIn (readValue_readsWithin nestingLimit) inside
  rw [readAssignment]
  split
  · rename_i failed
    exact .fault (pair_stays.of_error failed)
  · rename_i read
    obtain ⟨pair_in, rest_in⟩ := pair_stays.of_ok read
    exact skipLineRest_staysIn pair_in rest_in

theorem conclude_staysIn {place rest : List Char} {made : Option Draft} (place_in : place <:+ whole)
    (rest_in : rest <:+ whole) (made_in : ∀ draft, made = some draft → draft.LiesIn whole) :
    StaysIn whole (Draft.LiesIn whole) (conclude place rest made) := by
  cases made with
  | none => exact .fault place_in
  | some draft => exact .found (made_in draft rfl) rest_in

theorem readStatement_staysIn {draft : Draft} (lies : draft.LiesIn whole)
    (inside : text <:+ whole) :
    StaysIn whole (Draft.LiesIn whole) (readStatement draft text) := by
  have header {element : Bool} {path : List Key} {rest tail : List Char} (tail_in : tail <:+ whole)
      (read : readHeader element tail = .ok (path, rest)) :
      StaysIn whole (Draft.LiesIn whole)
        (conclude text rest (draft.openHeader text element path)) := by
    obtain ⟨path_in, rest_in⟩ := (readHeader_staysIn element tail_in).of_ok read
    exact conclude_staysIn inside rest_in fun next opened => lies.openHeader inside path_in opened
  rw [readStatement.eq_def]
  split
  · have tail_in := tail_suffix (tail_suffix inside)
    split
    · rename_i failed
      exact .fault ((readHeader_staysIn true tail_in).of_error failed)
    · rename_i read
      exact header tail_in read
  · have tail_in := tail_suffix inside
    split
    · rename_i failed
      exact .fault ((readHeader_staysIn false tail_in).of_error failed)
    · rename_i read
      exact header tail_in read
  · have pair_stays := readAssignment_staysIn inside
    split
    · rename_i failed
      exact .fault (pair_stays.of_error failed)
    · rename_i read
      obtain ⟨⟨path_in, node_in⟩, rest_in⟩ := pair_stays.of_ok read
      exact conclude_staysIn inside rest_in fun next assigned =>
        lies.assign path_in node_in assigned

/-- A statement, or a line without one. -/
theorem nextStatement_staysIn {draft : Draft} (lies : draft.LiesIn whole) (inside : text <:+ whole)
    (blank : Prop) [Decidable blank] :
    StaysIn whole (Draft.LiesIn whole)
      (if blank then (skipLineRest text).map (draft, ·) else readStatement draft text) := by
  split
  · exact skipLineRest_staysIn lies inside
  · exact readStatement_staysIn lies inside

theorem readStatements_staysIn {draft : Draft} (lies : draft.LiesIn whole)
    (inside : text <:+ whole) :
    (∀ entries, readStatements draft text = .ok entries → entries.LieIn whole) ∧
      ∀ place, readStatements draft text = .error place → place <:+ whole := by
  fun_induction readStatements draft text with
  | case1 draft text done =>
      refine ⟨?_, nofun⟩
      intro entries same
      cases same
      exact lies.entries_in
  | case2 draft text c tail start_eq start next place failed =>
      have start_in : c :: tail <:+ whole := start_eq ▸ (skipGaps_suffix text).trans inside
      refine ⟨nofun, ?_⟩
      intro other same
      cases same
      exact (nextStatement_staysIn lies start_in _).of_error failed
  | case3 draft text c tail start_eq start next after rest read shorter ih =>
      have start_in : c :: tail <:+ whole := start_eq ▸ (skipGaps_suffix text).trans inside
      obtain ⟨after_in, rest_in⟩ := (nextStatement_staysIn lies start_in _).of_ok read
      exact ih after_in rest_in
  | case4 draft text c tail start_eq start next after rest read not_shorter =>
      have start_in : c :: tail <:+ whole := start_eq ▸ (skipGaps_suffix text).trans inside
      refine ⟨nofun, ?_⟩
      intro other same
      cases same
      exact start_in

/-- Everything that is read of a document lies in it, and so does the place of a fault. -/
theorem readDocument_staysIn (text : List Char) :
    (∀ entries, readDocument text = .ok entries → entries.LieIn text) ∧
      ∀ place, readDocument text = .error place → place <:+ text := by
  have nothing : Draft.LiesIn text ⟨[], []⟩ := ⟨.nil, nofun⟩
  rw [readDocument.eq_def]
  simp only
  split
  · exact readStatements_staysIn nothing (List.suffix_cons _ _)
  · exact readStatements_staysIn nothing (List.suffix_refl _)

end Documents

end LedgerBoard.Toml
