import LedgerBoard.Json.Record
import LedgerBoard.Proofs.Json.Skip

/-!
# Fields read back

The value of a field is read from exactly the texts that write a value of its type: the spellings of
a text, or the decimal numeral of an integer in range. An optional field may be null instead. Of
every other JSON value nothing is read.
-/

namespace LedgerBoard.Json

open Number

/-- The texts that write a value of a type. A text has many spellings, but an integer only one:
numbers with a point or an exponent, and the zero with a sign, are no integers. -/
inductive Writes : Kind → Scalar → List Char → Prop where
  | text {value : String} {body : List Char} (spelling : Spelling value.toList body) :
      Writes .text (.text value) ('"' :: (body ++ ['"']))
  | unsigned (value : UInt64) : Writes .unsigned (.integer value.toNat) (decimalInt value.toNat)
  | signed (value : Int64) : Writes .signed (.integer value.toInt) (decimalInt value.toInt)

/-- The texts that write what stands in a field of a record. -/
inductive Holds (schema : Schema) (name : String) (kind : Kind) :
    Option Scalar → List Char → Prop where
  | value {scalar : Scalar} {text : List Char} (writes : Writes kind scalar text) :
      Holds schema name kind (some scalar) text
  | null (optional : name ≠ schema.required) : Holds schema name kind none "null".toList

/-- Text that begins with a part of some kind, and not with a gap. -/
def BeginsWith (first : Char → Prop) (text : List Char) : Prop :=
  ∃ c tail, text = c :: tail ∧ isSpace c = false ∧ first c

def IsMark (c : Char) : Prop :=
  c = '-' ∨ c.isDigit = true

instance : DecidablePred IsMark :=
  fun _ => inferInstanceAs (Decidable (_ ∨ _))

section Written

variable {text : List Char}

theorem NumberText.begins (number : NumberText text) :
    BeginsWith (fun c => IsMark c ∧ c ≠ '"' ∧ c ≠ 'n') text := by
  rcases number.exists_mark with ⟨c, tail, rfl, mark⟩
  have other := not_mem_of_mark mark
  simp only [List.mem_cons, List.not_mem_nil, or_false, not_or] at other
  exact ⟨c, tail, rfl, by simp [isSpace, other], mark, other.2.2.2.2.2.2.2.2.1,
    other.2.2.2.2.2.2.2.2.2.1⟩

/-- JSON values are told apart by their first character. -/
theorem Written.cases_first (written : Written .value text) :
    (∃ body, text = '"' :: (body ++ ['"']) ∧ TextBody body) ∨ NumberText text ∨
      text = "null".toList ∨ BeginsWith (fun c => ¬IsMark c ∧ c ≠ '"' ∧ c ≠ 'n') text := by
  cases written with
  | word listed =>
      simp only [List.mem_cons, List.not_mem_nil, or_false] at listed
      rcases listed with rfl | rfl | rfl
      · exact .inr (.inr (.inl rfl))
      · exact .inr (.inr (.inr ⟨'t', _, rfl, rfl, by decide⟩))
      · exact .inr (.inr (.inr ⟨'f', _, rfl, rfl, by decide⟩))
  | number number_text => exact .inr (.inl number_text)
  | text text_body => exact .inl ⟨_, rfl, text_body⟩
  | empty bracket is_gap =>
      exact .inr (.inr (.inr ⟨bracket.opening, _, rfl, by cases bracket <;> decide⟩))
  | @filled bracket _ _ =>
      exact .inr (.inr (.inr ⟨bracket.opening, _, rfl, by cases bracket <;> decide⟩))

theorem Written.text_or_other (written : Written .value text) :
    (∃ body, text = '"' :: (body ++ ['"']) ∧ TextBody body) ∨ BeginsWith (· ≠ '"') text := by
  rcases written.cases_first with is_text | number | rfl | ⟨c, tail, rfl, solid, -, other, -⟩
  · exact .inl is_text
  · rcases number.begins with ⟨c, tail, rfl, solid, -, other, -⟩
    exact .inr ⟨c, tail, rfl, solid, other⟩
  · exact .inr ⟨'n', _, rfl, rfl, by decide⟩
  · exact .inr ⟨c, tail, rfl, solid, other⟩

theorem Written.number_or_other (written : Written .value text) :
    NumberText text ∨ BeginsWith (¬IsMark ·) text := by
  rcases written.cases_first with ⟨body, rfl, -⟩ | number | rfl | ⟨c, tail, rfl, solid, other, -⟩
  · exact .inr ⟨'"', _, rfl, rfl, by decide⟩
  · exact .inl number
  · exact .inr ⟨'n', _, rfl, rfl, by decide⟩
  · exact .inr ⟨c, tail, rfl, solid, other⟩

theorem Written.null_or_other (written : Written .value text) :
    text = "null".toList ∨ BeginsWith (· ≠ 'n') text := by
  rcases written.cases_first with ⟨body, rfl, -⟩ | number | rfl | ⟨c, tail, rfl, solid, -, -, other⟩
  · exact .inr ⟨'"', _, rfl, rfl, by decide⟩
  · rcases number.begins with ⟨c, tail, rfl, solid, -, -, other⟩
    exact .inr ⟨c, tail, rfl, solid, other⟩
  · exact .inl rfl
  · exact .inr ⟨c, tail, rfl, solid, other⟩

end Written

theorem numberText_decimalInt (value : Int) : NumberText (decimalInt value) := by
  cases value with
  | ofNat n =>
      have number := NumberText.parts (.inl rfl) (wholeDigits_decimal n) (.inl rfl) (.inl rfl)
      show NumberText (decimal n)
      simpa using number
  | negSucc n =>
      have number := NumberText.parts (.inr rfl) (wholeDigits_decimal (n + 1)) (.inl rfl) (.inl rfl)
      simpa [decimalInt] using number

section Field

variable {kind : Kind} {scalar : Scalar} {text gap rest last : List Char}

theorem Writes.written (writes : Writes kind scalar text) : Written .value text := by
  cases writes with
  | text spelling => exact .text spelling.body
  | unsigned value => exact .number (numberText_decimalInt _)
  | signed value => exact .number (numberText_decimalInt _)

theorem writes_text_iff {body : List Char} :
    Writes .text scalar ('"' :: (body ++ ['"'])) ↔
      ∃ value, scalar = .text value ∧ Spelling value.toList body := by
  constructor
  · intro writes
    generalize same : '"' :: (body ++ ['"']) = text at writes
    cases writes with
    | text spelling =>
        rw [List.append_cancel_right (List.cons.inj same).2]
        exact ⟨_, rfl, spelling⟩
  · rintro ⟨value, rfl, spelling⟩
    exact .text spelling

/-- A text is read from a value exactly if the value spells it. -/
theorem readScalar_text_iff (is_gap : Gap gap) (written : Written .value text) :
    readScalar .text (gap ++ (text ++ rest)) = .ok (scalar, last) ↔
      last = rest ∧ Writes .text scalar text := by
  rcases written.text_or_other with ⟨body, rfl, text_body⟩ | ⟨c, tail, rfl, solid, other⟩
  · rw [readScalar, is_gap.skipSpace_append, List.cons_append, skipSpace_of_solid rfl,
      writes_text_iff]
    simp only [if_true]
    rw [List.append_assoc, List.singleton_append, Outcome.map_eq_ok_iff]
    constructor
    · rintro ⟨⟨found, tail⟩, read, same⟩
      rcases text_body.read_eq_ok_iff.mp read with ⟨rfl, spelling⟩
      cases same
      exact ⟨rfl, _, rfl, by rwa [String.toList_ofList]⟩
    · rintro ⟨rfl, value, rfl, spelling⟩
      exact ⟨(value.toList, last), spelling.read last, by rw [String.ofList_toList]⟩
  · rw [readScalar, is_gap.skipSpace_append, List.cons_append, skipSpace_of_solid solid]
    simp only [if_true, if_neg other]
    constructor
    · intro impossible
      cases impossible
    · rintro ⟨-, writes⟩
      cases writes
      exact absurd rfl other

theorem unsigned_admits_iff {value : Int} :
    Kind.unsigned.admits value = true ↔ 0 ≤ value ∧ value ≤ 0xFFFFFFFFFFFFFFFF := by
  simp only [Kind.admits, Bool.and_eq_true, decide_eq_true_eq]
  simp only [maxWord]
  omega

theorem signed_admits_iff {value : Int} :
    Kind.signed.admits value = true ↔ -0x8000000000000000 ≤ value ∧ value ≤ 0x7FFFFFFFFFFFFFFF := by
  simp only [Kind.admits, Bool.and_eq_true, decide_eq_true_eq]
  simp only [maxSigned]
  omega

theorem fitsWord_of_admits {value : Int} (admitted : kind.admits value = true) :
    FitsWord value := by
  simp only [FitsWord, maxSigned, maxWord]
  cases kind with
  | text => cases admitted
  | unsigned =>
      rw [unsigned_admits_iff] at admitted
      omega
  | signed =>
      rw [signed_admits_iff] at admitted
      omega

/-- Integers are written as the decimal numerals of those that the type admits. -/
theorem writes_integer_iff (no_text : kind ≠ .text) :
    Writes kind scalar text ↔
      ∃ value, scalar = .integer value ∧ kind.admits value = true ∧ text = decimalInt value := by
  constructor
  · intro writes
    cases writes with
    | text spelling => exact absurd rfl no_text
    | unsigned value =>
        have small := value.toNat_lt
        exact ⟨value.toNat, rfl, unsigned_admits_iff.mpr (by omega), rfl⟩
    | signed value =>
        have low := value.le_toInt
        have high := value.toInt_lt
        exact ⟨value.toInt, rfl, signed_admits_iff.mpr (by omega), rfl⟩
  · rintro ⟨value, rfl, admitted, rfl⟩
    cases kind with
    | text => exact absurd rfl no_text
    | unsigned =>
        rw [unsigned_admits_iff] at admitted
        have same : ((UInt64.ofNat value.toNat).toNat : Int) = value := by
          rw [UInt64.toNat_ofNat_of_lt' (by rw [UInt64.size]; omega)]
          omega
        rw [← same]
        exact .unsigned _
    | signed =>
        rw [signed_admits_iff] at admitted
        have same : (Int64.ofInt value).toInt = value :=
          Int64.toInt_ofInt_of_le (by omega) (by omega)
        rw [← same]
        exact .signed _

theorem readInteger_eq_ok_iff :
    readInteger kind text = .ok (scalar, last) ↔
      ∃ value, scalar = .integer value ∧ kind.admits value = true ∧
        readNumber text = .ok (.integer value, last) := by
  rw [readInteger.eq_def]
  split
  · rename_i failed
    simp [failed]
  · rename_i value tail read
    split
    · rename_i admitted
      simp only [read, Except.ok.injEq, Prod.mk.injEq, Numeral.integer.injEq]
      constructor
      · rintro ⟨rfl, rfl⟩
        exact ⟨value, rfl, admitted, rfl, rfl⟩
      · rintro ⟨_, rfl, -, rfl, rfl⟩
        exact ⟨rfl, rfl⟩
    · rename_i refused
      constructor
      · intro impossible
        cases impossible
      · rintro ⟨other, -, admitted, again⟩
        rw [read] at again
        cases again
        exact absurd admitted refused
  · rename_i numeral tail no_integer read
    constructor
    · intro impossible
      cases impossible
    · rintro ⟨value, -, -, again⟩
      rw [read] at again
      cases again
      exact absurd rfl (no_integer value)

/-- An integer is read from a value exactly if the value is its numeral and the type admits it. -/
theorem readScalar_integer_iff (no_text : kind ≠ .text) (is_gap : Gap gap)
    (written : Written .value text) (ends : Ends rest) :
    readScalar kind (gap ++ (text ++ rest)) = .ok (scalar, last) ↔
    last = rest ∧ Writes kind scalar text := by
  rw [writes_integer_iff no_text]
  rcases written.number_or_other with number | ⟨c, tail, rfl, solid, other⟩
  · rcases number.begins with ⟨c, tail, rfl, solid, mark, -⟩
    have read :
        readScalar kind (gap ++ (c :: tail ++ rest)) = readInteger kind (c :: tail ++ rest) := by
      rw [readScalar, is_gap.skipSpace_append, List.cons_append, skipSpace_of_solid solid]
      simp only [if_neg no_text]
      exact if_pos mark
    rw [read, readInteger_eq_ok_iff]
    constructor
    · rintro ⟨value, rfl, admitted, read⟩
      rcases (number.read_eq_integer_iff ends).mp read with ⟨same, spelled, -⟩
      exact ⟨same, value, rfl, admitted, spelled⟩
    · rintro ⟨same, value, rfl, admitted, spelled⟩
      exact ⟨value, rfl, admitted,
        (number.read_eq_integer_iff ends).mpr ⟨same, spelled, fitsWord_of_admits admitted⟩⟩
  · rw [readScalar, is_gap.skipSpace_append, List.cons_append, skipSpace_of_solid solid]
    have no_mark : ¬(c = '-' ∨ c.isDigit = true) := other
    simp only [if_neg no_text, if_neg no_mark]
    constructor
    · intro impossible
      cases impossible
    · rintro ⟨-, value, -, -, spelled⟩
      rcases (numberText_decimalInt value).begins with ⟨first, behind, split, -, mark, -⟩
      rw [← spelled] at split
      rw [(List.cons.inj split).1] at other
      exact absurd mark other

theorem readScalar_eq_ok_iff (is_gap : Gap gap) (written : Written .value text) (ends : Ends rest) :
    readScalar kind (gap ++ (text ++ rest)) = .ok (scalar, last) ↔
    last = rest ∧ Writes kind scalar text := by
  by_cases is_text : kind = .text
  · subst is_text
    exact readScalar_text_iff is_gap written
  · exact readScalar_integer_iff is_text is_gap written ends

/-- A text writes at most one value of a type. -/
theorem Writes.unique {other : Scalar} (writes : Writes kind scalar text)
    (writes_other : Writes kind other text) : scalar = other := by
  have read {value : Scalar} (writes : Writes kind value text) :
      readScalar kind ([] ++ (text ++ [','])) = .ok (value, [',']) :=
    (readScalar_eq_ok_iff .nil writes.written (ends_comma [])).mpr ⟨rfl, writes⟩
  cases (read writes).symm.trans (read writes_other)
  rfl

theorem not_writes_null : ¬Writes kind scalar "null".toList := by
  intro writes
  have no_number (value : Int) : "null".toList ≠ decimalInt value := by
    intro same
    rcases (numberText_decimalInt value).begins with ⟨c, tail, split, -, -, -, other⟩
    rw [← same] at split
    exact other (List.cons.inj split).1.symm
  generalize null : "null".toList = text at writes
  cases writes with
  | text spelling => cases null
  | unsigned value => exact no_number _ null
  | signed value => exact no_number _ null

theorem readOptional_null (is_gap : Gap gap) :
    readOptional kind (gap ++ ("null".toList ++ rest)) = .ok (none, rest) := by
  rw [readOptional, is_gap.skipSpace_append]
  rfl

theorem readOptional_of_other (is_gap : Gap gap) (other : BeginsWith (· ≠ 'n') text) :
    readOptional kind (gap ++ (text ++ rest)) =
      (readScalar kind (text ++ rest)).map fun (value, rest) => (some value, rest) := by
  rcases other with ⟨c, tail, rfl, solid, no_null⟩
  rw [readOptional, is_gap.skipSpace_append, List.cons_append, skipSpace_of_solid solid]
  split
  · rename_i null
    exact absurd (List.cons.inj null).1 no_null
  · rfl

/-- Where there can be no null, a value stands in the field. -/
theorem holds_some_iff {schema : Schema} {name : String} {value : Option Scalar}
    (no_null : name = schema.required ∨ text ≠ "null".toList) :
    Holds schema name kind value text ↔
    ∃ scalar, value = some scalar ∧ Writes kind scalar text := by
  constructor
  · intro holds
    cases holds with
    | value writes => exact ⟨_, rfl, writes⟩
    | null optional =>
        rcases no_null with is_required | no_null
        · exact absurd is_required optional
        · exact absurd rfl no_null
  · rintro ⟨scalar, rfl, writes⟩
    exact .value writes

theorem holds_null_iff {schema : Schema} {name : String} {value : Option Scalar}
    (optional : name ≠ schema.required) :
    Holds schema name kind value "null".toList ↔ value = none := by
  constructor
  · intro holds
    generalize null : "null".toList = text at holds
    cases holds with
    | value writes => exact absurd (null ▸ writes) not_writes_null
    | null => rfl
  · rintro rfl
    exact .null optional

/-- What stands in a field is read exactly from the texts that write it. -/
theorem readField_eq_ok_iff {schema : Schema} {name : String} {value : Option Scalar}
    (is_gap : Gap gap) (written : Written .value text) (ends : Ends rest) :
    readField schema name kind (gap ++ (text ++ rest)) = .ok (value, last) ↔
      last = rest ∧ Holds schema name kind value text := by
  have scalar_iff {before : List Char} (gap_before : Gap before) :
      ((readScalar kind (before ++ (text ++ rest))).map fun (value, rest) => (some value, rest)) =
        .ok (value, last) ↔ last = rest ∧ ∃ scalar,
          value = some scalar ∧ Writes kind scalar text := by
    rw [Outcome.map_eq_ok_iff]
    constructor
    · rintro ⟨⟨scalar, tail⟩, read, same⟩
      cases same
      rcases (readScalar_eq_ok_iff gap_before written ends).mp read with ⟨same, writes⟩
      exact ⟨same, scalar, rfl, writes⟩
    · rintro ⟨same, scalar, rfl, writes⟩
      exact ⟨(scalar, last), (readScalar_eq_ok_iff gap_before written ends).mpr ⟨same, writes⟩, rfl⟩
  by_cases is_required : name = schema.required
  · rw [readField, if_pos is_required, scalar_iff is_gap, holds_some_iff (.inl is_required)]
  · rw [readField, if_neg is_required]
    rcases written.null_or_other with rfl | other
    · rw [readOptional_null is_gap, holds_null_iff is_required]
      simp only [Except.ok.injEq, Prod.mk.injEq]
      constructor
      · rintro ⟨rfl, rfl⟩
        exact ⟨rfl, rfl⟩
      · rintro ⟨rfl, rfl⟩
        exact ⟨rfl, rfl⟩
    · have no_null : text ≠ "null".toList := by
        rintro rfl
        rcases other with ⟨c, tail, split, -, no_null⟩
        exact no_null (List.cons.inj split).1.symm
      rw [readOptional_of_other is_gap other, ← List.nil_append (text ++ rest), scalar_iff .nil,
        holds_some_iff (.inr no_null)]

end Field

end LedgerBoard.Json
