import LedgerBoard.Proofs.Json.Elements

/-!
# Records read back

A record is given by all of its fields in the order of their declaration. `WritesRecord` and
`WritesInOrder` say which objects and which arrays write it. Both are read as fields that say the
same about every name: for objects this goes in both directions, so that an object that writes no
record is not read.
-/

namespace LedgerBoard.Json

/-- Members that write a record: a known member has the value of its field, no field is written
twice, and a field that is left out is absent. -/
structure WritesRecord (schema : Schema) (record : Fields) (members : List Member) : Prop where
  written {member : Member} {kind : Kind} (mem : member ∈ members)
    (known : schema.kind? member.name = some kind) :
    ∃ value, (member.name, value) ∈ record ∧ Holds schema member.name kind value member.value
  once {name : String} (known : (schema.kind? name).isSome = true) :
    (members.map Member.name).count name ≤ 1
  omitted {name : String} {value : Option Scalar} (mem : (name, value) ∈ record)
    (left_out : name ∉ members.map Member.name) : value = none

/-- The names of the fields in the order of their declaration. -/
def Schema.names (schema : Schema) : List String :=
  schema.required :: schema.optional.map Prod.fst

/-- What fields say about every name that a record has. -/
def Schema.view (schema : Schema) (fields : Fields) : Fields :=
  schema.names.map fun name => (name, (fields.lookup name).join)

/-- Fields that are known and have a value of their type. -/
def Typed (schema : Schema) (fields : Fields) : Prop :=
  ∀ entry ∈ fields, ∃ kind text,
    schema.kind? entry.1 = some kind ∧ Holds schema entry.1 kind entry.2 text

section Schema

variable {schema : Schema} {record fields : Fields} {name : String} {value : Option Scalar}

theorem mem_names_iff : name ∈ schema.names ↔ (schema.kind? name).isSome = true := by
  rw [Schema.names, Schema.kind?, List.mem_cons]
  split
  · rename_i required
    simp [required]
  · rename_i other
    rw [← Option.ne_none_iff_isSome, ne_eq, lookup_eq_none_iff_not_mem]
    simp [other]

theorem kind?_of_declared (distinct : schema.names.Nodup) :
    ∀ entry ∈ (schema.required, Kind.text) :: schema.optional,
      schema.kind? entry.1 = some entry.2 := by
  rintro ⟨name, kind⟩ mem
  rw [Schema.names, List.nodup_cons] at distinct
  rcases List.mem_cons.mp mem with required | optional
  · cases required
    exact if_pos rfl
  · have other : name ≠ schema.required := by
      rintro rfl
      exact distinct.1 (List.mem_map_of_mem optional)
    rw [Schema.kind?, if_neg other]
    exact (lookup_eq_some_iff_mem distinct.2).mpr optional

theorem mem_view_iff :
    (name, value) ∈ schema.view fields ↔
    name ∈ schema.names ∧ value = (fields.lookup name).join := by
  simp only [Schema.view, List.mem_map, Prod.mk.injEq]
  constructor
  · rintro ⟨name, mem, rfl, rfl⟩
    exact ⟨mem, rfl⟩
  · rintro ⟨mem, rfl⟩
    exact ⟨name, mem, rfl, rfl⟩

theorem eq_view_iff (named : record.map Prod.fst = schema.names) :
    record = schema.view fields ↔
      ∀ {name value}, (name, value) ∈ record → value = (fields.lookup name).join := by
  constructor
  · intro same name value mem
    rw [same] at mem
    exact (mem_view_iff.mp mem).2
  · intro agree
    rw [Schema.view, ← named, List.map_map]
    conv => lhs; rw [← List.map_id record]
    refine List.map_congr_left fun entry mem => ?_
    exact Prod.ext rfl (agree mem)

end Schema

section Objects

variable {schema : Schema} {record fields : Fields} {members : List Member} {text gap : List Char}

theorem readDocument_eq_ok_iff :
    readDocument schema text = .ok fields ↔
      ∃ rest, readRecord schema text = .ok (fields, rest) ∧ skipSpace rest = [] := by
  rw [readDocument, Outcome.bind_eq_ok_iff]
  constructor
  · rintro ⟨⟨found, rest⟩, read, ended⟩
    simp only at ended
    split at ended
    · rename_i nothing_left
      cases ended
      exact ⟨rest, read, List.isEmpty_iff.mp nothing_left⟩
    · cases ended
  · rintro ⟨rest, read, nothing_left⟩
    refine ⟨(fields, rest), read, ?_⟩
    simp only [nothing_left]
    rfl

theorem Gap.skipSpace_self (is_gap : Gap gap) : skipSpace gap = [] := by
  have skips := is_gap.skipSpace_append []
  rwa [List.append_nil] at skips

theorem readRecord_object_iff (schema : Schema) (object : ObjectText members text) :
    ∃ after, Gap after ∧ ∀ {fields last}, readRecord schema text = .ok (fields, last) ↔
      last = after ∧ Completes schema [] members fields := by
  cases object with
  | @empty before gap after gap_before is_gap gap_after =>
      refine ⟨after, gap_after, ?_⟩
      intro fields last
      rw [readRecord, gap_before.skipSpace_append, skipSpace_of_solid rfl]
      simp only
      rw [readMembers_gap is_gap]
      exact readMembers_closing_iff List.nodup_nil
  | @filled _ before text after gap_before listed gap_after =>
      refine ⟨after, gap_after, ?_⟩
      intro fields last
      rw [readRecord, gap_before.skipSpace_append, skipSpace_of_solid rfl]
      refine readMembers_listed listed ?_ true
      exact List.nodup_nil

/-- An object is read as the fields that its members give. -/
theorem readDocument_object_iff (object : ObjectText members text) :
    readDocument schema text = .ok fields ↔ Completes schema [] members fields := by
  rcases readRecord_object_iff schema object with ⟨after, gap_after, read_iff⟩
  rw [readDocument_eq_ok_iff]
  constructor
  · rintro ⟨rest, read, -⟩
    exact (read_iff.mp read).2
  · intro completes
    exact ⟨after, read_iff.mpr ⟨rfl, completes⟩, gap_after.skipSpace_self⟩

namespace Gathers

theorem names (gathers : Gathers schema members fields) :
    fields.map Prod.fst = (members.map Member.name).filter fun name =>
      (schema.kind? name).isSome := by
  induction gathers with
  | done => rfl
  | unknown unknown others ih => simpa [unknown] using ih
  | known known holds others ih => simpa [known] using ih

theorem typed (gathers : Gathers schema members fields) : Typed schema fields := by
  induction gathers with
  | done => nofun
  | unknown unknown others ih => exact ih
  | known known holds others ih =>
      intro entry mem
      rcases List.mem_cons.mp mem with rfl | later
      · exact ⟨_, _, known, holds⟩
      · exact ih entry later

theorem exists_value (gathers : Gathers schema members fields) {member : Member} {kind : Kind}
    (mem : member ∈ members) (known : schema.kind? member.name = some kind) :
    ∃ value, (member.name, value) ∈ fields ∧ Holds schema member.name kind value member.value := by
  induction gathers with
  | done => cases mem
  | unknown unknown others ih =>
      rcases List.mem_cons.mp mem with rfl | later
      · simp [unknown] at known
      · exact ih later
  | known same holds others ih =>
      rcases List.mem_cons.mp mem with rfl | later
      · cases known.symm.trans same
        exact ⟨_, List.mem_cons_self, holds⟩
      · rcases ih later with ⟨value, value_mem, holds⟩
        exact ⟨value, List.mem_cons_of_mem _ value_mem, holds⟩

/-- Members whose values stand in a record are read as fields of it. -/
theorem exists_of_written
    (written : ∀ member ∈ members, ∀ kind, schema.kind? member.name = some kind →
      ∃ value, (member.name, value) ∈ record ∧ Holds schema member.name kind value member.value) :
    ∃ fields, Gathers schema members fields ∧ fields ⊆ record := by
  induction members with
  | nil => exact ⟨[], .done, List.nil_subset _⟩
  | cons member members ih =>
      rcases ih fun other mem => written other (List.mem_cons_of_mem _ mem) with
        ⟨fields, gathers, subset⟩
      cases kind_eq : schema.kind? member.name with
      | none => exact ⟨fields, .unknown kind_eq gathers, subset⟩
      | some kind =>
          rcases written member List.mem_cons_self kind kind_eq with ⟨value, mem, holds⟩
          exact ⟨_, .known kind_eq holds gathers, List.cons_subset.mpr ⟨mem, subset⟩⟩

end Gathers

theorem nodup_known_iff :
    ((members.map Member.name).filter fun name => (schema.kind? name).isSome).Nodup ↔
      ∀ {name}, (schema.kind? name).isSome = true → (members.map Member.name).count name ≤ 1 := by
  rw [List.nodup_iff_count]
  constructor
  · intro once name known
    rw [← List.count_filter (p := fun name => (schema.kind? name).isSome) known]
    exact once name
  · intro once name
    by_cases known : (schema.kind? name).isSome = true
    · rw [List.count_filter (p := fun name => (schema.kind? name).isSome) known]
      exact once known
    · rw [List.count_eq_zero_of_not_mem]
      · exact Nat.zero_le 1
      · exact fun mem => known (List.mem_filter.mp mem).2

theorem Completes.typed (completes : Completes schema [] members fields) : Typed schema fields := by
  rcases completes with ⟨more, rfl, gathers, -, -⟩
  exact gathers.typed

/-- Members that write a record are read as fields that show it. A field that was not read was not
written. -/
theorem WritesRecord.completes (writes : WritesRecord schema record members)
    (named : record.map Prod.fst = schema.names) (distinct : schema.names.Nodup) {scalar : Scalar}
    (required : (schema.required, some scalar) ∈ record) :
    ∃ fields, Completes schema [] members fields ∧ record = schema.view fields := by
  rcases Gathers.exists_of_written fun member mem kind known => writes.written mem known with
    ⟨fields, gathers, subset⟩
  have fields_distinct : (fields.map Prod.fst).Nodup := by
    rw [gathers.names, nodup_known_iff]
    exact writes.once
  have shows : record = schema.view fields := by
    rw [eq_view_iff named]
    intro name value mem
    cases looked_up : fields.lookup name with
    | none =>
        have left_out : name ∉ members.map Member.name := by
          intro member_mem
          rw [lookup_eq_none_iff_not_mem, gathers.names, List.mem_filter, ← mem_names_iff, ← named]
            at looked_up
          exact looked_up ⟨member_mem, List.mem_map_of_mem mem⟩
        exact writes.omitted mem left_out
    | some other =>
        have other_mem := subset ((lookup_eq_some_iff_mem fields_distinct).mp looked_up)
        rw [← named] at distinct
        rw [← lookup_eq_some_iff_mem distinct] at mem other_mem
        exact Option.some.inj (mem.symm.trans other_mem)
  refine ⟨fields, ⟨fields, rfl, gathers, fields_distinct, ?_⟩, shows⟩
  rw [Option.isSome_iff_ne_none]
  intro no_entry
  have no_value := (eq_view_iff named).mp shows required
  rw [no_entry] at no_value
  cases no_value

/-- Members that are read write the record that their fields show. -/
theorem Completes.writesRecord (completes : Completes schema [] members fields)
    (named : record.map Prod.fst = schema.names) (shows : record = schema.view fields) :
    WritesRecord schema record members := by
  rcases completes with ⟨more, same, gathers, fields_distinct, -⟩
  rw [List.nil_append] at same
  subst same
  have once := fields_distinct
  rw [gathers.names, nodup_known_iff] at once
  refine ⟨?_, once, ?_⟩
  · intro member kind mem known
    rcases gathers.exists_value mem known with ⟨value, value_mem, holds⟩
    refine ⟨value, ?_, holds⟩
    rw [shows, mem_view_iff, mem_names_iff,
      (lookup_eq_some_iff_mem fields_distinct).mpr value_mem, known]
    exact ⟨rfl, rfl⟩
  · intro name value mem left_out
    have not_mem : name ∉ fields.map Prod.fst := by
      rw [gathers.names]
      exact fun mem => left_out (List.mem_filter.mp mem).1
    rw [(eq_view_iff named).mp shows mem, lookup_eq_none_iff_not_mem.mpr not_mem]
    rfl

end Objects

namespace WritesInOrder

variable {schema : Schema} {record : Fields} {values : List (List Char)} {text : List Char}

theorem typed (writes : WritesInOrder schema record values) :
    Typed schema (record.take values.length) := by
  induction writes with
  | cut absent => nofun
  | field known holds others ih =>
      intro entry mem
      rcases List.mem_cons.mp mem with rfl | later
      · exact ⟨_, _, known, holds⟩
      · exact ih entry later

theorem absent (writes : WritesInOrder schema record values) :
    ∀ entry ∈ record.drop values.length, entry.2 = none := by
  induction writes with
  | cut absent => exact absent
  | field known holds others ih => exact ih

/-- The fields that are written show the whole record, since the others are absent. -/
theorem eq_view (writes : WritesInOrder schema record values)
    (named : record.map Prod.fst = schema.names) (distinct : schema.names.Nodup) :
    record = schema.view (record.take values.length) := by
  rw [eq_view_iff named]
  intro name value mem
  have parts := List.take_append_drop values.length record
  rw [← named, ← parts, List.map_append, List.nodup_append] at distinct
  rw [← parts, List.mem_append] at mem
  rcases mem with written | left_out
  · rw [(lookup_eq_some_iff_mem distinct.1).mpr written]
    rfl
  · have not_mem : name ∉ (record.take values.length).map Prod.fst :=
      fun mem => distinct.2.2 _ mem _ (List.mem_map_of_mem left_out) rfl
    rw [lookup_eq_none_iff_not_mem.mpr not_mem]
    exact writes.absent _ left_out

/-- An array is read as the fields that its elements stand for. -/
theorem readDocument_eq (writes : WritesInOrder schema record values)
    (array : ArrayText values text) (named : record.map Prod.fst = schema.names)
    (distinct : schema.names.Nodup) :
    readDocument schema text = .ok (record.take values.length) := by
  cases array with
  | @filled before text after gap_before listed gap_after =>
      have declared_names :
          ((schema.required, Kind.text) :: schema.optional).map Prod.fst = record.map Prod.fst :=
        named.symm
      have elements : ∃ between, Gap between ∧
          readElements schema true ((schema.required, .text) :: schema.optional)
            (text ++ ']' :: after) =
            .ok (record.take values.length, between ++ ']' :: after) :=
        readElements_listed listed writes declared_names (kind?_of_declared distinct) .nil true
      rcases elements with ⟨between, gap_between, read⟩
      have some_field : (record.take values.length).isEmpty = false := by
        cases listed with
        | last => cases writes with | field => rfl
        | more => cases writes with | field => rfl
      have ended : readArrayEnd (between ++ ']' :: after) = .ok after := by
        rw [readArrayEnd, gap_between.skipSpace_append, skipSpace_of_solid rfl]
        rfl
      have read_array :
          readArray schema (text ++ ']' :: after) = .ok (record.take values.length, after) := by
        rw [readArray, read]
        simp only [bind, Except.bind, some_field, ended]
        rfl
      rw [readDocument_eq_ok_iff]
      refine ⟨after, ?_, gap_after.skipSpace_self⟩
      rw [readRecord, gap_before.skipSpace_append, skipSpace_of_solid rfl]
      exact read_array

end WritesInOrder

end LedgerBoard.Json
