import LedgerBoard.Proofs.Json.Field

/-!
# Members read back

The members of an object are read one after the other, and each adds its field to those that were
found before it. `readMembers_listed` says in one go what becomes of them all: the known members
give their fields in order, and reading succeeds exactly if no field is given twice and the required
one is among them.
-/

namespace LedgerBoard.Json

/-- The fields that members are read as, where each known member has a value of its type. -/
inductive Gathers (schema : Schema) : List Member → Fields → Prop where
  | done : Gathers schema [] []
  | unknown {member : Member} {members : List Member} {fields : Fields}
      (unknown : schema.kind? member.name = none) (others : Gathers schema members fields) :
      Gathers schema (member :: members) fields
  | known {member : Member} {members : List Member} {fields : Fields} {kind : Kind}
      {value : Option Scalar} (known : schema.kind? member.name = some kind)
      (holds : Holds schema member.name kind value member.value)
      (others : Gathers schema members fields) :
      Gathers schema (member :: members) ((member.name, value) :: fields)

/-- What becomes of the fields found so far when one more member is read. -/
inductive Takes (schema : Schema) (found : Fields) (member : Member) : Fields → Prop where
  | unknown (unknown : schema.kind? member.name = none) : Takes schema found member found
  | known {kind : Kind} {value : Option Scalar} (known : schema.kind? member.name = some kind)
      (fresh : member.name ∉ found.map Prod.fst)
      (holds : Holds schema member.name kind value member.value) :
      Takes schema found member (found ++ [(member.name, value)])

theorem lookup_eq_none_iff_not_mem {α : Type} {entries : List (String × α)} {name : String} :
    entries.lookup name = none ↔ name ∉ entries.map Prod.fst := by
  rw [List.lookup_eq_none_iff, List.mem_map]
  constructor
  · rintro no_entry ⟨entry, mem, rfl⟩
    exact absurd (no_entry entry mem) (by simp)
  · intro not_mem entry mem
    rw [bne_iff_ne]
    rintro rfl
    exact not_mem ⟨entry, mem, rfl⟩

theorem lookup_eq_some_iff_mem {α : Type} {entries : List (String × α)}
    (distinct : (entries.map Prod.fst).Nodup) {name : String} {value : α} :
    entries.lookup name = some value ↔ (name, value) ∈ entries := by
  rw [List.lookup_eq_some_iff]
  constructor
  · rintro ⟨before, after, rfl, -⟩
    simp
  · intro mem
    rcases List.append_of_mem mem with ⟨before, after, rfl⟩
    refine ⟨before, after, rfl, fun entry entry_mem => ?_⟩
    rw [List.map_append, List.nodup_append] at distinct
    rw [bne_iff_ne]
    exact (distinct.2.2 _ (List.mem_map_of_mem entry_mem) _ List.mem_cons_self).symm

section Members

variable {schema : Schema} {found fields : Fields} {member : Member} {members : List Member}
  {gap before between name text tail rest last : List Char} {first : Bool}

theorem readColon_gap (gap_between : Gap between) (rest : List Char) :
    readColon (between ++ ':' :: rest) = .ok rest := by
  rw [readColon, gap_between.skipSpace_append, skipSpace_of_solid rfl]
  rfl

theorem takes_unknown_iff (unknown : schema.kind? member.name = none) :
    Takes schema found member fields ↔ fields = found := by
  constructor
  · intro takes
    cases takes with
    | unknown => rfl
    | known known => simp [unknown] at known
  · rintro rfl
    exact .unknown unknown

theorem takes_known_iff {kind : Kind} (known : schema.kind? member.name = some kind) :
    Takes schema found member fields ↔ member.name ∉ found.map Prod.fst ∧
      ∃ value, fields = found ++ [(member.name, value)] ∧
      Holds schema member.name kind value member.value := by
  constructor
  · intro takes
    cases takes with
    | unknown unknown => simp [known] at unknown
    | known same fresh holds =>
        cases known.symm.trans same
        exact ⟨fresh, _, rfl, holds⟩
  · rintro ⟨fresh, value, rfl, holds⟩
    exact .known known fresh holds

theorem readMember_eq_ok_iff (spelling : Spelling member.name.toList name)
    (gap_between : Gap between) (is_gap : Gap gap) (written : Written .value member.value)
    (ends : Ends rest) :
    readMember schema found (name ++ '"' :: (between ++ ':' :: (gap ++ (member.value ++ rest)))) =
        .ok (fields, last) ↔ last = rest ∧ Takes schema found member fields := by
  rw [readMember, spelling.read]
  simp only [String.ofList_toList, readColon_gap gap_between]
  cases kind_eq : schema.kind? member.name with
  | none =>
      have skips : skipValue [] (gap ++ (member.value ++ rest)) = .ok rest := by
        rw [written.skips is_gap ends, skipAfter]
      simp only [Except.bind, Except.map, skips, Except.ok.injEq, Prod.mk.injEq,
        takes_unknown_iff kind_eq]
      constructor
      · rintro ⟨rfl, rfl⟩
        exact ⟨rfl, rfl⟩
      · rintro ⟨rfl, rfl⟩
        exact ⟨rfl, rfl⟩
  | some kind =>
      simp only [takes_known_iff kind_eq, ← lookup_eq_none_iff_not_mem]
      cases found.lookup member.name with
      | some value =>
          simp only [Option.isSome_some, if_true]
          constructor
          · intro impossible
            cases impossible
          · rintro ⟨-, fresh, -⟩
            cases fresh
      | none =>
          simp only [Option.isSome_none, if_neg Bool.false_ne_true, true_and]
          rw [Outcome.map_eq_ok_iff]
          constructor
          · rintro ⟨⟨value, behind⟩, read, same⟩
            cases same
            rcases (readField_eq_ok_iff is_gap written ends).mp read with ⟨same, holds⟩
            exact ⟨same, value, rfl, holds⟩
          · rintro ⟨same, value, rfl, holds⟩
            exact ⟨(value, last), (readField_eq_ok_iff is_gap written ends).mpr ⟨same, holds⟩, rfl⟩

/-- What stands before a member or an element: a comma, unless it is the first. -/
def separator (first : Bool) : List Char :=
  if first then [] else [',']

theorem nextMember_gap (is_gap : Gap gap) :
    nextMember first (gap ++ text) = nextMember first text := by
  rw [nextMember.eq_def, nextMember.eq_def, is_gap.skipSpace_append]

theorem readMembers_gap (is_gap : Gap gap) :
    readMembers schema found first (gap ++ text) = readMembers schema found first text := by
  rw [readMembers, readMembers, is_gap.skipSpace_append, nextMember_gap is_gap]

theorem nextMember_separator (gap_before : Gap before) :
    nextMember first (separator first ++ (before ++ '"' :: tail)) = .ok tail := by
  cases first with
  | true =>
      rw [separator, if_pos rfl, List.nil_append, nextMember_gap gap_before]
      rfl
  | false =>
      have comma : skipSpace (',' :: (before ++ '"' :: tail)) = ',' :: (before ++ '"' :: tail) :=
        skipSpace_of_solid rfl _
      have quote : skipSpace (before ++ '"' :: tail) = '"' :: tail := by
        rw [gap_before.skipSpace_append, skipSpace_of_solid rfl]
      show nextMember false (',' :: (before ++ '"' :: tail)) = _
      rw [nextMember.eq_def, comma]
      simp only
      rw [quote]
      rfl

theorem readMembers_quote (gap_before : Gap before) :
    readMembers schema found first (separator first ++ (before ++ '"' :: tail)) =
      (readMember schema found tail).bind fun (next, rest) =>
        readMembers schema next false rest := by
  have no_closing :
      ∀ rest, skipSpace (separator first ++ (before ++ '"' :: tail)) ≠ '\x7d' :: rest := by
    intro rest closing
    cases first with
    | true =>
        rw [separator, if_pos rfl, List.nil_append, gap_before.skipSpace_append,
          skipSpace_of_solid rfl] at closing
        cases closing
    | false => cases closing
  rw [readMembers]
  split
  · rename_i closing
    exact absurd closing (no_closing _)
  · split
    · rename_i next
      rw [nextMember_separator gap_before] at next
      cases next
    · rename_i next
      rw [nextMember_separator gap_before] at next
      cases next
      split
      · rename_i read
        rw [read]
        rfl
      · rename_i read
        rw [read]
        rfl

/-- Reading goes through a member exactly if it can be taken. -/
theorem MemberText.readMembers_iff (member_text : MemberText member text) (ends : Ends rest) :
    readMembers schema found first (separator first ++ (text ++ rest)) = .ok (fields, last) ↔
      ∃ next, Takes schema found member next ∧
      readMembers schema next false rest = .ok (fields, last) := by
  cases member_text with
  | @parts before name between gap after gap_before spelling gap_between is_gap written gap_after =>
      simp only [List.append_assoc, List.cons_append]
      rw [readMembers_quote gap_before]
      refine Outcome.bind_eq_ok_iff.trans ?_
      have ends_after := gap_after.ends ends
      constructor
      · rintro ⟨⟨next, behind⟩, read, go_on⟩
        rcases (readMember_eq_ok_iff spelling gap_between is_gap written ends_after).mp read with
          ⟨rfl, takes⟩
        refine ⟨next, takes, ?_⟩
        rw [← readMembers_gap gap_after]
        exact go_on
      · rintro ⟨next, takes, go_on⟩
        rw [← readMembers_gap gap_after] at go_on
        exact ⟨(next, after ++ rest),
          (readMember_eq_ok_iff spelling gap_between is_gap written ends_after).mpr ⟨rfl, takes⟩,
          go_on⟩

/-- What the fields found so far become when the members up to the closing bracket are read. -/
def Completes (schema : Schema) (found : Fields) (members : List Member) (fields : Fields) : Prop :=
  ∃ more, fields = found ++ more ∧ Gathers schema members more ∧ (fields.map Prod.fst).Nodup ∧
    (fields.lookup schema.required).isSome = true

theorem Takes.distinct {next : Fields} (takes : Takes schema found member next)
    (distinct : (found.map Prod.fst).Nodup) : (next.map Prod.fst).Nodup := by
  cases takes with
  | unknown => exact distinct
  | known known fresh holds =>
      rw [List.map_append, List.nodup_append]
      refine ⟨distinct, by simp, ?_⟩
      intro other mem name last_mem same
      rw [List.map_singleton, List.mem_singleton] at last_mem
      rw [same, last_mem] at mem
      exact fresh mem

theorem completes_cons :
    Completes schema found (member :: members) fields ↔
      ∃ next, Takes schema found member next ∧ Completes schema next members fields := by
  constructor
  · rintro ⟨more, rfl, gathers, distinct, complete⟩
    cases gathers with
    | unknown unknown others =>
        exact ⟨found, .unknown unknown, more, rfl, others, distinct, complete⟩
    | @known _ _ later kind value known holds others =>
        have fresh : member.name ∉ found.map Prod.fst := by
          rw [List.map_append, List.nodup_append] at distinct
          exact fun mem => distinct.2.2 _ mem _ List.mem_cons_self rfl
        exact ⟨_, .known known fresh holds, later, by simp, others, distinct, complete⟩
  · rintro ⟨next, takes, more, rfl, gathers, distinct, complete⟩
    cases takes with
    | unknown unknown => exact ⟨more, rfl, .unknown unknown gathers, distinct, complete⟩
    | known known fresh holds => exact ⟨_, by simp, .known known holds gathers, distinct, complete⟩

theorem readMembers_closing_iff (distinct : (found.map Prod.fst).Nodup) :
    readMembers schema found first ('\x7d' :: rest) = .ok (fields, last) ↔
      last = rest ∧ Completes schema found [] fields := by
  rw [readMembers, skipSpace_of_solid rfl]
  simp only
  split
  · rename_i complete
    simp only [Except.ok.injEq, Prod.mk.injEq]
    constructor
    · rintro ⟨rfl, rfl⟩
      exact ⟨rfl, [], by simp, .done, distinct, complete⟩
    · rintro ⟨rfl, more, rfl, gathers, -, -⟩
      cases gathers
      exact ⟨by simp, rfl⟩
  · rename_i incomplete
    constructor
    · intro impossible
      cases impossible
    · rintro ⟨-, more, rfl, gathers, -, complete⟩
      cases gathers
      rw [List.append_nil] at complete
      exact absurd complete incomplete

/-- Members up to and with the closing bracket are read as the fields that they give, unless a field
is given twice or the required one is not given. -/
theorem readMembers_listed (listed : Listed MemberText members text)
    (distinct : (found.map Prod.fst).Nodup) (first : Bool) :
    readMembers schema found first (separator first ++ (text ++ '\x7d' :: rest)) =
      .ok (fields, last) ↔
      last = rest ∧ Completes schema found members fields := by
  induction listed generalizing found first with
  | @last member text member_text =>
      rw [member_text.readMembers_iff (ends_cons (by decide)), completes_cons, ← exists_and_left]
      refine exists_congr fun next => ?_
      rw [and_left_comm]
      exact and_congr_right fun takes => readMembers_closing_iff (takes.distinct distinct)
  | @more member members text others member_text listed ih =>
      rw [List.append_assoc, List.cons_append, member_text.readMembers_iff (ends_comma _),
        completes_cons, ← exists_and_left]
      refine exists_congr fun next => ?_
      rw [and_left_comm]
      exact and_congr_right fun takes => ih (takes.distinct distinct) false

end Members

end LedgerBoard.Json
