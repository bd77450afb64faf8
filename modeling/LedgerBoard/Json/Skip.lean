import LedgerBoard.Json.Number
import LedgerBoard.Json.Text

/-!
# Skipping values of a payload

Members that nobody asked for are read past. `skipValue` finds the end of a value of any depth: the
brackets that are still open are kept in a list, the innermost first.
-/

namespace LedgerBoard.Json

/-- An open bracket. -/
inductive Bracket where
  | array
  | object
  deriving DecidableEq, Repr

/-- Skips a value without parts: a word, a number or a text. -/
def skipScalar (text : List Char) : Except Fault (List Char) :=
  match text with
  | [] => .error .truncated
  | 'n' :: rest => readWord ['u', 'l', 'l'] rest
  | 't' :: rest => readWord ['r', 'u', 'e'] rest
  | 'f' :: rest => readWord ['a', 'l', 's', 'e'] rest
  | '"' :: rest => skipText rest
  | c :: _ => if c = '-' ∨ c.isDigit then skipNumber text else .error .grammar

/-- Skips the name of a member and its colon. -/
def skipName (text : List Char) : Except Fault (List Char) :=
  match skipSpace text with
  | '"' :: rest =>
      match skipText rest with
      | .error cause => .error cause
      | .ok rest =>
          match skipSpace rest with
          | ':' :: rest => .ok rest
          | rest => .error (unexpected rest)
  | rest => .error (unexpected rest)

theorem length_skipScalar {text rest : List Char} (skip : skipScalar text = .ok rest) :
    rest.length < text.length := by
  rw [skipScalar.eq_def] at skip
  split at skip
  · cases skip
  · exact Nat.lt_succ_of_le (length_readWord skip)
  · exact Nat.lt_succ_of_le (length_readWord skip)
  · exact Nat.lt_succ_of_le (length_readWord skip)
  · exact Nat.lt_succ_of_lt (length_skipText skip)
  · split at skip
    · exact length_skipNumber skip
    · cases skip

theorem length_skipName {text rest : List Char} (skip : skipName text = .ok rest) :
    rest.length < text.length := by
  rw [skipName] at skip
  split at skip
  · rename_i opened
    split at skip
    · cases skip
    · rename_i name
      split at skip
      · rename_i colon
        cases skip
        exact Nat.lt_trans (length_of_skipSpace colon)
          (Nat.lt_trans (length_skipText name) (length_of_skipSpace opened))
      · cases skip
  · cases skip

mutual

/-- Skips a value inside open brackets, and then what closes them. -/
def skipValue (opened : List Bracket) (text : List Char) : Except Fault (List Char) :=
  match _start : skipSpace text with
  | '[' :: rest =>
      match _inner : skipSpace rest with
      | ']' :: rest => skipAfter opened rest
      | _ => skipValue (.array :: opened) rest
  | '{' :: rest =>
      match _inner : skipSpace rest with
      | '}' :: rest => skipAfter opened rest
      | _ =>
          match _name : skipName rest with
          | .error cause => .error cause
          | .ok rest => skipValue (.object :: opened) rest
  | start =>
      match _scalar : skipScalar start with
      | .error cause => .error cause
      | .ok rest => skipAfter opened rest
termination_by text.length
decreasing_by
  · exact Nat.lt_trans (length_of_skipSpace _inner) (length_of_skipSpace _start)
  · exact length_of_skipSpace _start
  · exact Nat.lt_trans (length_of_skipSpace _inner) (length_of_skipSpace _start)
  · exact Nat.lt_trans (length_skipName _name) (length_of_skipSpace _start)
  · exact Nat.lt_of_lt_of_le (length_skipScalar _scalar) (_start ▸ length_skipSpace text)

/-- Skips what follows a value inside open brackets. -/
def skipAfter (opened : List Bracket) (text : List Char) : Except Fault (List Char) :=
  match opened with
  | [] => .ok text
  | .array :: outer =>
      match _next : skipSpace text with
      | ',' :: rest => skipValue opened rest
      | ']' :: rest => skipAfter outer rest
      | rest => .error (unexpected rest)
  | .object :: outer =>
      match _next : skipSpace text with
      | ',' :: rest =>
          match _name : skipName rest with
          | .error cause => .error cause
          | .ok rest => skipValue opened rest
      | '}' :: rest => skipAfter outer rest
      | rest => .error (unexpected rest)
termination_by text.length
decreasing_by
  · exact length_of_skipSpace _next
  · exact length_of_skipSpace _next
  · exact Nat.lt_trans (length_skipName _name) (length_of_skipSpace _next)
  · exact length_of_skipSpace _next

end

theorem length_skip (bound : Nat) :
    (∀ {opened text rest}, text.length < bound → skipValue opened text = .ok rest →
      rest.length < text.length) ∧
    (∀ {opened text rest}, text.length < bound → skipAfter opened text = .ok rest →
      rest.length ≤ text.length) := by
  induction bound with
  | zero => constructor <;> intro _ _ _ impossible <;> cases impossible
  | succ bound ih =>
      rcases ih with ⟨value_lt, after_le⟩
      constructor
      · intro opened text rest short skip
        rw [skipValue] at skip
        split at skip
        · rename_i start
          have start_lt := length_of_skipSpace start
          split at skip
          · rename_i inner
            have inner_lt := length_of_skipSpace inner
            have := after_le (by omega) skip
            omega
          · have := value_lt (by omega) skip
            omega
        · rename_i start
          have start_lt := length_of_skipSpace start
          split at skip
          · rename_i inner
            have inner_lt := length_of_skipSpace inner
            have := after_le (by omega) skip
            omega
          · split at skip
            · cases skip
            · rename_i name
              have name_lt := length_skipName name
              have := value_lt (by omega) skip
              omega
        · split at skip
          · cases skip
          · rename_i scalar
            have scalar_lt := length_skipScalar scalar
            have text_le := length_skipSpace text
            have := after_le (by omega) skip
            omega
      · intro opened text rest short skip
        rw [skipAfter.eq_def] at skip
        split at skip
        · cases skip
          exact Nat.le_refl _
        · split at skip
          · rename_i next
            have next_lt := length_of_skipSpace next
            have := value_lt (by omega) skip
            omega
          · rename_i next
            have next_lt := length_of_skipSpace next
            have := after_le (by omega) skip
            omega
          · cases skip
        · split at skip
          · rename_i next
            have next_lt := length_of_skipSpace next
            split at skip
            · cases skip
            · rename_i name
              have name_lt := length_skipName name
              have := value_lt (by omega) skip
              omega
          · rename_i next
            have next_lt := length_of_skipSpace next
            have := after_le (by omega) skip
            omega
          · cases skip

theorem length_skipValue {opened : List Bracket} {text rest : List Char}
    (skip : skipValue opened text = .ok rest) : rest.length < text.length :=
  (length_skip (text.length + 1)).1 (Nat.lt_succ_self _) skip

end LedgerBoard.Json
