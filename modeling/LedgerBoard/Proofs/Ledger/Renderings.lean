import LedgerBoard.Ledger.Event
import LedgerBoard.Proofs.Json.Documents

/-!
# Events read back

An event stands for the fields of a record, and a payload may write this record in many ways.
Whatever way it chooses, the event is read back; an object that writes the record of no event is
rejected.
-/

namespace LedgerBoard

open Json

/-- The fields that a block stands for, in the order of their declaration. -/
def Block.record (block : Block) : Fields :=
  [("hash", some (.text block.hash)),
    ("index", block.index.map fun height => .integer height.toNat),
    ("timestamp", block.timestamp.map fun time => .integer time.toInt),
    ("author", block.author.map .text),
    ("bodyLength", block.bodyLength.map fun count => .integer count.toNat),
    ("prevBlockHash", block.prevBlockHash.map .text)]

/-- The fields that a transaction stands for, in the order of their declaration. -/
def Transaction.record (transaction : Transaction) : Fields :=
  [("txHash", some (.text transaction.txHash)),
    ("branchId", transaction.branchId.map .text),
    ("timestamp", transaction.timestamp.map fun time => .integer time.toInt),
    ("author", transaction.author.map .text),
    ("bodyLength", transaction.bodyLength.map fun count => .integer count.toNat)]

section Fields

variable {schema : Schema} {fields : Fields} {name : String} {kind : Kind}

/-- What stands in a field of known type is nothing, or a value of this type. -/
theorem Json.Typed.cases_join (typed : Typed schema fields)
    (known : schema.kind? name = some kind) :
    (fields.lookup name).join = none ∨
      ∃ scalar text, (fields.lookup name).join = some scalar ∧ Writes kind scalar text := by
  cases looked_up : fields.lookup name with
  | none => exact .inl rfl
  | some value =>
      rcases List.lookup_eq_some_iff.mp looked_up with ⟨before, after, rfl, -⟩
      rcases typed _ (List.mem_append_right _ List.mem_cons_self) with ⟨other, text, same, holds⟩
      rw [known] at same
      cases same
      cases holds with
      | value writes => exact .inr ⟨_, text, rfl, writes⟩
      | null => exact .inl rfl

theorem Json.Fields.text?_eq (fields : Fields) (name : String) :
    fields.text? name = match (fields.lookup name).join with
      | some (.text value) => some value
      | _ => none := by
  rw [Fields.text?]
  rcases fields.lookup name with _ | _ | _ | _ <;> rfl

theorem Json.Fields.integer?_eq (fields : Fields) (name : String) :
    fields.integer? name = match (fields.lookup name).join with
      | some (.integer value) => some value
      | _ => none := by
  rw [Fields.integer?]
  rcases fields.lookup name with _ | _ | _ | _ <;> rfl

theorem text?_eq_iff (typed : Typed schema fields) (known : schema.kind? name = some .text)
    {value : Option String} :
    fields.text? name = value ↔ value.map Scalar.text = (fields.lookup name).join := by
  rw [Fields.text?_eq]
  rcases typed.cases_join known with empty | ⟨scalar, text, stored, writes⟩
  · rw [empty]
    cases value <;> simp
  · cases writes with
    | text =>
        rw [stored]
        cases value <;> simp [eq_comm]

theorem text?_eq_some_iff (typed : Typed schema fields) (known : schema.kind? name = some .text)
    {identifier value : String} (identified : fields.text? name = some identifier) :
    identifier = value ↔ some (Scalar.text value) = (fields.lookup name).join := by
  have stored : fields.text? name = some value ↔
      some (Scalar.text value) = (fields.lookup name).join :=
    text?_eq_iff typed known
  rw [identified, Option.some.injEq] at stored
  exact stored

theorem word?_eq_iff (typed : Typed schema fields) (known : schema.kind? name = some .unsigned)
    {value : Option UInt64} :
    fields.word? name = value ↔
      (value.map fun word => Scalar.integer word.toNat) = (fields.lookup name).join := by
  rw [Fields.word?, Fields.integer?_eq]
  rcases typed.cases_join known with empty | ⟨scalar, text, stored, writes⟩
  · rw [empty]
    cases value <;> simp
  · cases writes with
    | unsigned word =>
        rw [stored]
        have same : ∀ other : UInt64, word = other ↔ (other.toNat : Int) = word.toNat := by
          intro other
          rw [Int.natCast_inj, UInt64.toNat_inj, eq_comm]
        cases value <;> simp [same]

theorem time?_eq_iff (typed : Typed schema fields) (known : schema.kind? name = some .signed)
    {value : Option Int64} :
    (fields.integer? name).map Int64.ofInt = value ↔
      (value.map fun time => Scalar.integer time.toInt) = (fields.lookup name).join := by
  rw [Fields.integer?_eq]
  rcases typed.cases_join known with empty | ⟨scalar, text, stored, writes⟩
  · rw [empty]
    cases value <;> simp
  · cases writes with
    | signed time =>
        rw [stored]
        cases value <;> simp [eq_comm, Int64.toInt_inj]

end Fields

/-- A text with a character that is not blank. -/
def HasInk (text : String) : Prop :=
  ∃ c ∈ text.toList, Text.isBlank c = false

theorem hasInk_iff {text : String} : HasInk text ↔ Text.isBlankText text = false := by
  rw [Text.isBlankText, List.all_eq_false, HasInk]
  simp only [Bool.not_eq_true]

theorem Topic.readFields_eq_ok_iff {topic : Topic} {payload identifier : String} {fields : Fields} :
    topic.readFields payload = .ok (identifier, fields) ↔
      readDocument topic.schema payload.toList = .ok fields ∧
        fields.text? topic.schema.required = some identifier ∧ HasInk identifier := by
  rw [Topic.readFields, hasInk_iff]
  cases readDocument topic.schema payload.toList with
  | error fault => simp
  | ok found =>
      simp only [Except.ok.injEq]
      constructor
      · intro read
        split at read
        · cases read
        · rename_i not_blank
          simp only [Except.ok.injEq, Prod.mk.injEq] at read
          rcases read with ⟨rfl, rfl⟩
          refine ⟨rfl, ?_, by simpa using not_blank⟩
          cases named : found.text? topic.schema.required with
          | none => exact absurd (by rw [named]; rfl) not_blank
          | some identifier => rfl
      · rintro ⟨rfl, named, not_blank⟩
        simp [named, not_blank]

/-- How the events of a topic are made of fields, and which fields they stand for. -/
structure Account {Event : Type} (topic : Topic) (build : String → Fields → Event)
    (record : Event → Fields) (identifier : Event → String) : Prop where
  named (event : Event) : (record event).map Prod.fst = topic.schema.names
  identified (event : Event) :
    (topic.schema.required, some (.text (identifier event))) ∈ record event
  build_eq_iff {fields : Fields} {event : Event} {name : String} (typed : Typed topic.schema fields)
    (identified : fields.text? topic.schema.required = some name) :
    build name fields = event ↔ record event = topic.schema.view fields

def Block.ofFields (hash : String) (fields : Fields) : Block where
  hash := hash
  index := fields.word? "index"
  timestamp := (fields.integer? "timestamp").map Int64.ofInt
  author := fields.text? "author"
  bodyLength := fields.word? "bodyLength"
  prevBlockHash := fields.text? "prevBlockHash"

def Transaction.ofFields (txHash : String) (fields : Fields) : Transaction where
  txHash := txHash
  branchId := fields.text? "branchId"
  timestamp := (fields.integer? "timestamp").map Int64.ofInt
  author := fields.text? "author"
  bodyLength := fields.word? "bodyLength"

theorem Block.account : Account .blocks Block.ofFields Block.record Block.hash where
  named block := rfl
  identified block := List.mem_cons_self
  build_eq_iff := by
    rintro fields ⟨hash, index, timestamp, author, bodyLength, prevBlockHash⟩ name typed identified
    simp only [Block.ofFields, Block.mk.injEq, Block.record, Schema.view, Schema.names,
      Topic.schema, List.map_cons, List.map_nil, List.cons.injEq, Prod.mk.injEq, true_and, and_true]
    exact and_congr (text?_eq_some_iff typed rfl identified) <|
      and_congr (word?_eq_iff typed rfl) <|
      and_congr (time?_eq_iff typed rfl) <| and_congr (text?_eq_iff typed rfl) <|
      and_congr (word?_eq_iff typed rfl) (text?_eq_iff typed rfl)

theorem Transaction.account :
    Account .transactions Transaction.ofFields Transaction.record Transaction.txHash where
  named transaction := rfl
  identified transaction := List.mem_cons_self
  build_eq_iff := by
    rintro fields ⟨txHash, branchId, timestamp, author, bodyLength⟩ name typed identified
    simp only [Transaction.ofFields, Transaction.mk.injEq, Transaction.record, Schema.view,
      Schema.names, Topic.schema, List.map_cons, List.map_nil, List.cons.injEq, Prod.mk.injEq,
      true_and, and_true]
    exact and_congr (text?_eq_some_iff typed rfl identified) <|
      and_congr (text?_eq_iff typed rfl) <|
      and_congr (time?_eq_iff typed rfl) <|
        and_congr (text?_eq_iff typed rfl) (word?_eq_iff typed rfl)

/-- The payloads of a topic are read as the events that they write, in whatever way they do it, and
objects with a fault are rejected. -/
structure ReadsBack {Event : Type} (topic : Topic) (record : Event → Fields)
    (identifier : Event → String) (read : String → Except EventError Event) : Prop where
  /-- Members in any order, with absent fields left out or null, and with unknown members among
  them. -/
  object {event : Event} {members : List Member} {payload : String}
    (named : HasInk (identifier event)) (object : ObjectText members payload.toList)
    (writes : WritesRecord topic.schema (record event) members) :
    read payload = .ok event
  /-- Values in the order of declaration, which may end where all the fields that are left are
  absent. -/
  array {event : Event} {values : List (List Char)} {payload : String}
    (named : HasInk (identifier event)) (array : ArrayText values payload.toList)
    (writes : WritesInOrder topic.schema (record event) values) :
    read payload = .ok event
  /-- A known name twice. -/
  repeated {members : List Member} {payload name : String}
    (object : ObjectText members payload.toList) (known : (topic.schema.kind? name).isSome = true)
    (twice : 2 ≤ (members.map Member.name).count name) :
    ∃ cause, read payload = .error cause
  /-- No identifier. -/
  unidentified {members : List Member} {payload : String}
    (object : ObjectText members payload.toList)
    (left_out : topic.schema.required ∉ members.map Member.name) :
      ∃ cause, read payload = .error cause
  /-- An identifier of nothing but blanks. -/
  blank {members : List Member} {payload : String} (object : ObjectText members payload.toList)
    {member : Member} (mem : member ∈ members) (identifies : member.name = topic.schema.required)
    {name : String}
    (writes : Writes .text (.text name) member.value) (no_ink : ¬HasInk name) :
    ∃ cause, read payload = .error cause
  /-- A value of another type, or out of the range of its type, or null where a text is required. -/
  mistyped {members : List Member} {payload : String} (object : ObjectText members payload.toList)
    {member : Member} (mem : member ∈ members) {kind : Kind}
    (known : topic.schema.kind? member.name = some kind)
    (other : ∀ value, ¬Holds topic.schema member.name kind value member.value) :
    ∃ cause, read payload = .error cause

section Account

variable {Event : Type} {topic : Topic} {build : String → Fields → Event} {record : Event → Fields}
  {identifier : Event → String} {read : String → Except EventError Event}

theorem Topic.distinct_names (topic : Topic) : topic.schema.names.Nodup := by
  cases topic <;> decide

theorem Account.identifies (account : Account topic build record identifier) {event : Event}
    {fields : Fields} (typed : Typed topic.schema fields)
    (shows : record event = topic.schema.view fields) :
    fields.text? topic.schema.required = some (identifier event) := by
  have mem := account.identified event
  rw [shows, mem_view_iff] at mem
  exact (text?_eq_iff typed (if_pos rfl)).mpr mem.2

/-- A record has nothing but the identifier in its required field. -/
theorem Account.eq_of_required (account : Account topic build record identifier) {event : Event}
    {value : Option Scalar} (mem : (topic.schema.required, value) ∈ record event) :
    value = some (.text (identifier event)) := by
  have distinct := topic.distinct_names
  rw [← account.named event] at distinct
  have identified := account.identified event
  rw [← lookup_eq_some_iff_mem distinct] at mem identified
  exact Option.some.inj (mem.symm.trans identified)

variable (account : Account topic build record identifier)
  (reads : ∀ payload, read payload =
    (topic.readFields payload).map fun (name, fields) => build name fields)

include account reads

/-- Fields are read as the event whose record they show, unless its identifier is blank. -/
theorem Account.read_eq_ok_iff {payload : String} {event : Event} {fields : Fields}
    (typed : Typed topic.schema fields)
    (document : readDocument topic.schema payload.toList = .ok fields) :
    read payload = .ok event ↔
    record event = topic.schema.view fields ∧ HasInk (identifier event) := by
  rw [reads, Outcome.map_eq_ok_iff]
  constructor
  · rintro ⟨⟨name, found⟩, fields_read, built⟩
    rcases Topic.readFields_eq_ok_iff.mp fields_read with ⟨found_read, identified, named⟩
    cases document.symm.trans found_read
    have shows := (account.build_eq_iff typed identified).mp built
    cases identified.symm.trans (account.identifies typed shows)
    exact ⟨shows, named⟩
  · rintro ⟨shows, named⟩
    have identified := account.identifies typed shows
    exact ⟨(identifier event, fields), Topic.readFields_eq_ok_iff.mpr ⟨document, identified, named⟩,
      (account.build_eq_iff typed identified).mpr shows⟩

/-- An object is read as an event exactly if it writes the record of this event, and the event is
named. -/
theorem Account.read_object_iff {payload : String} {event : Event} {members : List Member}
    (object : ObjectText members payload.toList) :
    read payload = .ok event ↔
      WritesRecord topic.schema (record event) members ∧ HasInk (identifier event) := by
  constructor
  · intro read_event
    have fields_read := read_event
    rw [reads, Outcome.map_eq_ok_iff] at fields_read
    rcases fields_read with ⟨⟨name, fields⟩, fields_read, -⟩
    have document := (Topic.readFields_eq_ok_iff.mp fields_read).1
    have completes := (readDocument_object_iff object).mp document
    rcases (account.read_eq_ok_iff reads completes.typed document).mp read_event with ⟨shows, named⟩
    exact ⟨completes.writesRecord (account.named event) shows, named⟩
  · rintro ⟨writes, named⟩
    rcases writes.completes (account.named event) topic.distinct_names
      (account.identified event) with
      ⟨fields, completes, shows⟩
    have document := (readDocument_object_iff object).mpr completes
    exact (account.read_eq_ok_iff reads completes.typed document).mpr ⟨shows, named⟩

theorem Account.read_array {payload : String} {event : Event} {values : List (List Char)}
    (array : ArrayText values payload.toList)
    (writes : WritesInOrder topic.schema (record event) values)
    (named : HasInk (identifier event)) : read payload = .ok event := by
  have fields_named := account.named event
  have document := writes.readDocument_eq array fields_named topic.distinct_names
  have shows := writes.eq_view fields_named topic.distinct_names
  exact (account.read_eq_ok_iff reads writes.typed document).mpr ⟨shows, named⟩

/-- An object is rejected if it writes the record of no event. -/
theorem Account.rejects_object {payload : String} {members : List Member}
    (object : ObjectText members payload.toList)
    (no_event : ∀ event, HasInk (identifier event) →
      ¬WritesRecord topic.schema (record event) members) :
    ∃ cause, read payload = .error cause := by
  cases outcome : read payload with
  | error cause => exact ⟨cause, rfl⟩
  | ok event =>
      rcases (account.read_object_iff reads object).mp outcome with ⟨writes, named⟩
      exact absurd writes (no_event event named)

theorem Account.readsBack : ReadsBack topic record identifier read where
  object named object writes := (account.read_object_iff reads object).mpr ⟨writes, named⟩
  array named array writes := account.read_array reads array writes named
  repeated := by
    intro members payload name object known twice
    refine account.rejects_object reads object fun event _ writes => ?_
    have once := writes.once known
    omega
  unidentified := by
    intro members payload object left_out
    refine account.rejects_object reads object fun event _ writes => ?_
    cases writes.omitted (account.identified event) left_out
  blank := by
    intro members payload object member mem identifies name writes_name no_ink
    refine account.rejects_object reads object fun event named writes => ?_
    have known : topic.schema.kind? member.name = some .text := if_pos identifies
    rcases writes.written mem known with ⟨value, value_mem, holds⟩
    rcases (holds_some_iff (.inl identifies)).mp holds with ⟨scalar, rfl, writes_scalar⟩
    cases writes_scalar.unique writes_name
    rw [identifies] at value_mem
    cases account.eq_of_required value_mem
    exact no_ink named
  mistyped := by
    intro members payload object member mem kind known other
    refine account.rejects_object reads object fun event _ writes => ?_
    rcases writes.written mem known with ⟨value, -, holds⟩
    exact other value holds

end Account

/-- Every rendering of an event is read back, and objects that render none are rejected. -/
theorem every_rendering_is_read_back :
    ReadsBack .blocks Block.record Block.hash Block.ofPayload ∧
      ReadsBack .transactions Transaction.record Transaction.txHash Transaction.ofPayload :=
  ⟨Block.account.readsBack fun _ => rfl, Transaction.account.readsBack fun _ => rfl⟩

/-- A block in an object with an unknown member and an escape in a name, and a transaction in an
array that ends before the absent fields. -/
theorem object_and_array_are_read_back :
    Block.ofPayload
      "\x7b\"x\":[null], \"h\\u0061sh\":\"A\",\"index\":18446744073709551615 ,\"author\":null\x7d" =
        .ok ⟨"A", some 18446744073709551615, none, none, none, none⟩ ∧
      Transaction.ofPayload "[\"A\", null]" = .ok ⟨"A", none, none, none, none⟩ := by
  have name_value : Writes .text (.text "A") "\"A\"".toList :=
    @Writes.text "A" ['A'] (spelling_self (forall_mem_of_all (by decide)))
  have null_value : Written .value "null".toList := .word (by decide)
  constructor
  · have array : Written .value "[null]".toList :=
      @Written.filled .array "null".toList
        (.last (@Written.element [] "null".toList [] .nil null_value .nil))
    have unknown : MemberText ⟨"x", "[null]".toList⟩ "\"x\":[null]".toList :=
      @MemberText.parts ⟨"x", _⟩ [] ['x'] [] [] [] .nil
        (spelling_self (forall_mem_of_all (by decide))) .nil .nil array .nil
    have letter : EscapeOf 'a' ['u', '0', '0', '6', '1'] :=
      .unit (@CodeUnit.digits _ _ _ _ 0 0 6 1 (by decide) (by decide) (by decide) (by decide))
    have hash_name : Spelling "hash".toList "h\\u0061sh".toList :=
      .plain (by decide) (.escaped letter (spelling_self (forall_mem_of_all (by decide))))
    have hash : MemberText ⟨"hash", "\"A\"".toList⟩ " \"h\\u0061sh\":\"A\"".toList :=
      @MemberText.parts ⟨"hash", _⟩ [' '] _ [] [] [] (by simp [Gap]) hash_name .nil .nil
        name_value.written .nil
    have digits : WholeDigits "18446744073709551615".toList :=
      ⟨⟨by decide, forall_mem_of_all (by decide)⟩, by decide⟩
    have numeral : Number.decimal 18446744073709551615 = "18446744073709551615".toList :=
      digits.decimal_eq
    have index_value :
        Writes .unsigned (.integer 18446744073709551615) "18446744073709551615".toList :=
      numeral ▸ .unsigned 18446744073709551615
    have index :
        MemberText ⟨"index", "18446744073709551615".toList⟩
          "\"index\":18446744073709551615 ".toList :=
      @MemberText.parts ⟨"index", _⟩ [] "index".toList [] [] [' '] .nil
        (spelling_self (forall_mem_of_all (by decide))) .nil .nil index_value.written
          (by simp [Gap])
    have author : MemberText ⟨"author", "null".toList⟩ "\"author\":null".toList :=
      @MemberText.parts ⟨"author", _⟩ [] "author".toList [] [] [] .nil
        (spelling_self (forall_mem_of_all (by decide))) .nil .nil null_value .nil
    have object :=
      ObjectText.filled .nil (.more unknown (.more hash (.more index (.last author)))) .nil
    refine every_rendering_is_read_back.1.object ⟨'A', by decide, by decide⟩ object ⟨?_, ?_, ?_⟩
    · intro member kind mem known
      simp only [List.mem_cons, List.not_mem_nil, or_false] at mem
      rcases mem with rfl | rfl | rfl | rfl
      · cases known
      · cases known
        exact ⟨_, List.mem_cons_self, .value name_value⟩
      · cases known
        exact ⟨_, .tail _ (.head _), .value index_value⟩
      · cases known
        exact ⟨none, by decide, .null (by decide)⟩
    · intro name known
      exact List.nodup_iff_count.mp (by decide) name
    · intro name value mem left_out
      simp only [Block.record, List.mem_cons, Prod.mk.injEq, List.not_mem_nil, or_false] at mem
      rcases mem with ⟨rfl, -⟩ | ⟨rfl, -⟩ | ⟨-, rfl⟩ | ⟨-, rfl⟩ | ⟨-, rfl⟩ | ⟨-, rfl⟩
      · exact absurd left_out (by decide)
      · exact absurd left_out (by decide)
      all_goals rfl
  · have hash : ElementText "\"A\"".toList "\"A\"".toList :=
      @ElementText.parts _ [] [] .nil name_value.written .nil
    have branch : ElementText "null".toList " null".toList :=
      @ElementText.parts _ [' '] [] (by simp [Gap]) null_value .nil
    have writes :
        WritesInOrder Topic.transactions.schema (Transaction.record ⟨"A", none, none, none, none⟩)
        ["\"A\"".toList, "null".toList] :=
      .field rfl (.value name_value) (.field rfl (.null (by decide)) (.cut (by decide)))
    exact every_rendering_is_read_back.2.array ⟨'A', by decide, by decide⟩
      (.filled .nil (.more hash (.last branch)) .nil) writes

end LedgerBoard
