import LedgerBoard.Json.Skip
import LedgerBoard.Text.Position
import LedgerBoard.Text.Quoted

/-!
# Records in a payload

A record has one required text and some optional fields. It is written as an object, whose unknown
members are skipped, or as an array of its fields in order. Faults are met in reading order, and
the first one counts.
-/

namespace LedgerBoard.Json

/-- The type of a field. -/
inductive Kind where
  | text
  | unsigned
  | signed
  deriving DecidableEq, Repr

def Kind.wanted : Kind → String
  | text => "a string"
  | unsigned => "u64"
  | signed => "i64"

/-- A value of a field. -/
inductive Scalar where
  | text (value : String)
  | integer (value : Int)
  deriving DecidableEq, Repr

/-- The fields of a record: a required text, and optional fields with their types. -/
structure Schema where
  title : String
  required : String
  optional : List (String × Kind)
  deriving Repr

/-- What stands in a record: fields with their values, where null is no value. -/
abbrev Fields := List (String × Option Scalar)

namespace Schema

/-- The type of a field, required or optional. -/
def kind? (schema : Schema) (name : String) : Option Kind :=
  if name = schema.required then some .text else schema.optional.lookup name

def size (schema : Schema) : Nat :=
  schema.optional.length + 1

end Schema

/-- Reads what stands where something else was wanted. A bracket is seen but not read. -/
def readFound (text : List Char) : Except Fault (Found × List Char) :=
  match text with
  | [] => .error .truncated
  | 'n' :: rest => (readWord ['u', 'l', 'l'] rest).map (.null, ·)
  | 't' :: rest => (readWord ['r', 'u', 'e'] rest).map (.boolean true, ·)
  | 'f' :: rest => (readWord ['a', 'l', 's', 'e'] rest).map (.boolean false, ·)
  | '"' :: rest =>
      (readText rest).map fun (found, rest) => (.text (Text.quoted (String.ofList found)), rest)
  | '[' :: _ => .ok (.sequence, text)
  | '\x7b' :: _ => .ok (.map, text)
  | c :: _ =>
      if c = '-' ∨ c.isDigit then
        (readNumber text).map fun (numeral, rest) => (numeral.found, rest)
      else .error .grammar

/-- The fault of a value that is not what is wanted. -/
def mismatch (wanted : String) (text : List Char) : Fault :=
  match readFound text with
  | .error cause => cause
  | .ok (found, rest) => .shape (.wrongType found wanted) rest

def Kind.admits : Kind → Int → Bool
  | text, _ => false
  | unsigned, value => 0 ≤ value && value ≤ Number.maxWord
  | signed, value => -Number.maxSigned - 1 ≤ value && value ≤ Number.maxSigned

def readInteger (kind : Kind) (text : List Char) : Reading Scalar :=
  match readNumber text with
  | .error cause => .error cause
  | .ok (.integer value, rest) =>
      if kind.admits value then .ok (.integer value, rest)
      else .error (.shape (.wrongValue value kind.wanted) rest)
  | .ok (numeral, rest) => .error (.shape (.wrongType numeral.found kind.wanted) rest)

/-- Reads the value of a field that must have one. -/
def readScalar (kind : Kind) (text : List Char) : Reading Scalar :=
  match skipSpace text with
  | [] => .error .truncated
  | c :: rest =>
      if kind = .text then
        if c = '"' then
          (readText rest).map fun (found, rest) => (.text (String.ofList found), rest)
        else .error (mismatch kind.wanted (c :: rest))
      else if c = '-' ∨ c.isDigit then readInteger kind (c :: rest)
      else .error (mismatch kind.wanted (c :: rest))

def readOptional (kind : Kind) (text : List Char) : Reading (Option Scalar) :=
  match skipSpace text with
  | 'n' :: rest => (readWord ['u', 'l', 'l'] rest).map (none, ·)
  | start => (readScalar kind start).map fun (value, rest) => (some value, rest)

def readField (schema : Schema) (name : String) (kind : Kind) (text : List Char) :
    Reading (Option Scalar) :=
  if name = schema.required then
    (readScalar kind text).map fun (value, rest) => (some value, rest)
  else readOptional kind text

/-- The text after a closing bracket, if it comes next. -/
def skipClosing (closing : Char) (text : List Char) : List Char :=
  match skipSpace text with
  | c :: rest => if c = closing then rest else c :: rest
  | [] => []

def readColon (text : List Char) : Except Fault (List Char) :=
  match skipSpace text with
  | ':' :: rest => .ok rest
  | rest => .error (unexpected rest)

theorem length_readColon {text rest : List Char} (read : readColon text = .ok rest) :
    rest.length < text.length := by
  rw [readColon] at read
  split at read
  · rename_i colon
    cases read
    exact length_of_skipSpace colon
  · cases read

/-- Reads a member after the opening quote of its name, and adds it to the fields found so far. -/
def readMember (schema : Schema) (found : Fields) (text : List Char) : Reading Fields :=
  match readText text with
  | .error cause => .error cause
  | .ok (name, rest) =>
      let name := String.ofList name
      match schema.kind? name with
      | none =>
          ((readColon rest).bind (skipValue [])).map (found, ·)
      | some kind =>
          if (found.lookup name).isSome then
            .error (.shape (.duplicateField name) (skipClosing '\x7d' rest))
          else
            match readColon rest with
            | .error cause => .error cause
            | .ok rest =>
                (readField schema name kind rest).map fun (value, rest) =>
                  (found ++ [(name, value)], rest)

/-- The name of the next member, after its opening quote. A comma stands before every member but
the first. -/
def nextMember (first : Bool) (text : List Char) : Except Fault (List Char) :=
  match first, skipSpace text with
  | true, '"' :: rest => .ok rest
  | false, ',' :: rest =>
      match skipSpace rest with
      | '"' :: rest => .ok rest
      | rest => .error (unexpected rest)
  | _, rest => .error (unexpected rest)

theorem length_nextMember {first : Bool} {text rest : List Char}
    (next : nextMember first text = .ok rest) : rest.length < text.length := by
  rw [nextMember.eq_def] at next
  split at next
  · rename_i quote
    cases next
    exact length_of_skipSpace quote
  · rename_i comma
    split at next
    · rename_i quote
      cases next
      exact Nat.lt_trans (length_of_skipSpace quote) (length_of_skipSpace comma)
    · cases next
  · cases next

theorem of_map_ok {α β : Type} {reading : Except Fault β} {value found : α} {rest : β}
    (mapped : reading.map (value, ·) = .ok (found, rest)) : reading = .ok rest := by
  cases reading with
  | error cause => cases mapped
  | ok tail => cases mapped; rfl

theorem of_map_pair_ok {α β : Type} {reading : Reading α} {change : α → β} {found : β}
    {rest : List Char}
    (mapped : (reading.map fun (value, rest) => (change value, rest)) = .ok (found, rest)) :
    ∃ value, reading = .ok (value, rest) := by
  cases reading with
  | error cause => cases mapped
  | ok pair => cases mapped; exact ⟨pair.1, rfl⟩

theorem length_readScalar {kind : Kind} {text rest : List Char} {value : Scalar}
    (read : readScalar kind text = .ok (value, rest)) : rest.length < text.length := by
  have text_le := length_skipSpace text
  rw [readScalar] at read
  split at read
  · cases read
  · rename_i c tail start
    rw [start] at text_le
    split at read
    · split at read
      · cases quote : readText tail with
        | error cause => simp [quote, Except.map] at read
        | ok found =>
            simp only [quote, Except.map, Except.ok.injEq, Prod.mk.injEq] at read
            rcases read with ⟨_, rfl⟩
            have := length_readText quote
            simp only [List.length_cons] at text_le
            omega
      · cases read
    · split at read
      · rw [readInteger] at read
        split at read
        · cases read
        · rename_i number
          have := length_readNumber number
          split at read <;> cases read
          omega
        · cases read
      · cases read

theorem length_readOptional {kind : Kind} {text rest : List Char} {value : Option Scalar}
    (read : readOptional kind text = .ok (value, rest)) : rest.length < text.length := by
  rw [readOptional] at read
  split at read
  · rename_i start
    have := length_of_skipSpace start
    have := length_readWord (of_map_ok read)
    omega
  · have := length_readScalar (of_map_pair_ok read).choose_spec
    have := length_skipSpace text
    omega

theorem length_readField {schema : Schema} {name : String} {kind : Kind} {text rest : List Char}
    {value : Option Scalar} (read : readField schema name kind text = .ok (value, rest)) :
    rest.length < text.length := by
  rw [readField] at read
  split at read
  · exact length_readScalar (of_map_pair_ok read).choose_spec
  · exact length_readOptional read

theorem of_map_add_ok {name : String} {reading : Reading (Option Scalar)} {found more : Fields}
    {rest : List Char}
    (mapped : (reading.map fun (value, rest) => (found ++ [(name, value)], rest)) =
      .ok (more, rest)) : ∃ value, reading = .ok (value, rest) :=
  @of_map_pair_ok _ _ reading (fun value => found ++ [(name, value)]) more rest mapped

theorem length_readMember {schema : Schema} {found more : Fields} {text rest : List Char}
    (read : readMember schema found text = .ok (more, rest)) : rest.length < text.length := by
  rw [readMember] at read
  cases name_read : readText text with
  | error cause => simp [name_read] at read
  | ok named =>
      obtain ⟨name, afterName⟩ := named
      have name_lt := length_readText name_read
      simp only [name_read] at read
      cases colon : readColon afterName with
      | error cause =>
          simp only [colon, Except.bind, Except.map] at read
          split at read
          · cases read
          · split at read <;> cases read
      | ok afterColon =>
          have := length_readColon colon
          simp only [colon, Except.bind] at read
          split at read
          · have := length_skipValue (of_map_ok read)
            omega
          · split at read
            · cases read
            · obtain ⟨value, value_read⟩ := of_map_add_ok read
              have := length_readField value_read
              omega

/-- Reads the members of an object up to and with its closing bracket. -/
def readMembers (schema : Schema) (found : Fields) (first : Bool) (text : List Char) :
    Reading Fields :=
  match skipSpace text with
  | '\x7d' :: rest =>
      if (found.lookup schema.required).isSome then .ok (found, rest)
      else .error (.shape (.missingField schema.required) rest)
  | _ =>
      match _next : nextMember first text with
      | .error cause => .error cause
      | .ok rest =>
          match _member : readMember schema found rest with
          | .error cause => .error cause
          | .ok (found, rest) => readMembers schema found false rest
termination_by text.length
decreasing_by exact Nat.lt_trans (length_readMember _member) (length_nextMember _next)

/-- Moves to the next element of an array, unless its closing bracket is next. A comma stands
before every element but the first. -/
def nextElement? (first : Bool) (text : List Char) : Except Fault (Option (List Char)) :=
  match first, skipSpace text with
  | _, [] => .error .truncated
  | _, ']' :: _ => .ok none
  | true, rest => .ok (some rest)
  | false, ',' :: rest =>
      match skipSpace rest with
      | [] => .error .truncated
      | ']' :: _ => .error .grammar
      | rest => .ok (some rest)
  | _, _ => .error .grammar

/-- Reads the elements of an array as the values of the given fields, which may run out. -/
def readElements (schema : Schema) (first : Bool) :
    List (String × Kind) → List Char → Except Fault (Fields × List Char)
  | [], text => .ok ([], text)
  | (name, kind) :: fields, text => do
      match ← nextElement? first text with
      | none => return ([], text)
      | some rest =>
          let (value, rest) ← readField schema name kind rest
          let (found, rest) ← readElements schema false fields rest
          return ((name, value) :: found, rest)

def readArrayEnd (text : List Char) : Except Fault (List Char) :=
  match skipSpace text with
  | ']' :: rest => .ok rest
  | rest => .error (unexpected rest)

/-- Reads a record that is written as an array, after its bracket. -/
def readArray (schema : Schema) (text : List Char) : Except Fault (Fields × List Char) := do
  let (found, rest) ← readElements schema true ((schema.required, .text) :: schema.optional) text
  if found.isEmpty then
    let wanted := schema.title ++ " with " ++ String.ofList (Number.decimal schema.size) ++
      " elements"
    throw (.shape (.noElements wanted) (skipClosing ']' rest))
  else return (found, ← readArrayEnd rest)

def readRecord (schema : Schema) (text : List Char) : Except Fault (Fields × List Char) :=
  match skipSpace text with
  | '\x7b' :: rest => readMembers schema [] true rest
  | '[' :: rest => readArray schema rest
  | start => .error (mismatch schema.title start)

def readDocument (schema : Schema) (text : List Char) : Except Fault Fields := do
  let (found, rest) ← readRecord schema text
  if (skipSpace rest).isEmpty then return found else throw .grammar

end LedgerBoard.Json
