import LedgerBoard.Json.Fault
import LedgerBoard.Number.Decimal
import LedgerBoard.Text.Octets

/-!
# Texts in a payload

A text stands between quotes with escapes. `readText` decodes it after its opening quote, and
demands that escaped surrogates come in pairs; `skipText` only finds its end.
-/

namespace LedgerBoard.Json

/-- Whether a character may not stand unescaped in a text. -/
def isControl (c : Char) : Bool :=
  c.toNat < 0x20

/-- Reads the four hexadecimal digits of an escape. Fewer than four octets are a truncation. -/
def readUnit (text : List Char) : Reading Nat :=
  if Text.octets text < 4 then .error .truncated
  else
    match text with
    | a :: b :: c :: d :: rest =>
        match Number.hexValue? a, Number.hexValue? b, Number.hexValue? c, Number.hexValue? d with
        | some a, some b, some c, some d => .ok (((a * 16 + b) * 16 + c) * 16 + d, rest)
        | _, _, _, _ => .error .grammar
    | _ => .error .grammar

def shortEscape? (c : Char) : Option Char :=
  if c = '"' then some '"'
  else if c = '\\' then some '\\'
  else if c = '/' then some '/'
  else if c = 'b' then some '\x08'
  else if c = 'f' then some '\x0C'
  else if c = 'n' then some '\n'
  else if c = 'r' then some '\r'
  else if c = 't' then some '\t'
  else none

def joinSurrogates (first second : Nat) : Char :=
  Char.ofNat ((first - 0xD800) * 1024 + (second - 0xDC00) + 0x10000)

/-- Reads what follows the `u` of an escape: one unit, or the two of a surrogate pair. -/
def readLongEscape (text : List Char) : Reading Char :=
  match readUnit text with
  | .error cause => .error cause
  | .ok (first, rest) =>
      if first < 0xD800 ∨ 0xDFFF < first then .ok (Char.ofNat first, rest)
      else if 0xDC00 ≤ first then .error .grammar
      else
        match rest with
        | '\\' :: 'u' :: rest =>
            match readUnit rest with
            | .error cause => .error cause
            | .ok (second, rest) =>
                if 0xDC00 ≤ second ∧ second ≤ 0xDFFF then
                  .ok (joinSurrogates first second, rest)
                else .error .grammar
        | [] | ['\\'] => .error .truncated
        | _ => .error .grammar

def readEscape (text : List Char) : Reading Char :=
  match text with
  | [] => .error .truncated
  | 'u' :: rest => readLongEscape rest
  | c :: rest =>
      match shortEscape? c with
      | some plain => .ok (plain, rest)
      | none => .error .grammar

/-- Skips an escape after its backslash, whatever its units stand for. -/
def skipEscape (text : List Char) : Except Fault (List Char) :=
  match text with
  | [] => .error .truncated
  | 'u' :: rest => (readUnit rest).map (·.2)
  | c :: rest => if (shortEscape? c).isSome then .ok rest else .error .grammar

theorem length_readUnit {text rest : List Char} {unit : Nat}
    (read : readUnit text = .ok (unit, rest)) :
    rest.length < text.length := by
  rw [readUnit.eq_def] at read
  split at read
  · cases read
  · split at read
    · split at read
      · cases read
        simp
        omega
      · cases read
    · cases read

theorem length_readLongEscape {text rest : List Char} {c : Char}
    (read : readLongEscape text = .ok (c, rest)) : rest.length < text.length := by
  rw [readLongEscape] at read
  split at read
  · cases read
  · rename_i first_read
    have after_lt := length_readUnit first_read
    split at read
    · cases read
      exact after_lt
    · split at read
      · cases read
      · split at read
        · split at read
          · cases read
          · rename_i second_read
            have rest_lt := length_readUnit second_read
            split at read
            · simp only [Except.ok.injEq, Prod.mk.injEq] at read
              rcases read with ⟨_, rfl⟩
              simp only [List.length_cons] at after_lt
              omega
            · cases read
        all_goals cases read

theorem length_readEscape {text rest : List Char} {c : Char}
    (read : readEscape text = .ok (c, rest)) : rest.length < text.length := by
  rw [readEscape.eq_def] at read
  split at read
  · cases read
  · exact Nat.lt_succ_of_lt (length_readLongEscape read)
  · split at read <;> cases read
    exact Nat.lt_succ_self _

theorem length_skipEscape {text rest : List Char} (read : skipEscape text = .ok rest) :
    rest.length < text.length := by
  rw [skipEscape.eq_def] at read
  split at read
  · cases read
  · rename_i tail
    cases unit_read : readUnit tail with
    | error cause => simp [unit_read, Except.map] at read
    | ok found =>
        simp only [unit_read, Except.map, Except.ok.injEq] at read
        subst read
        exact Nat.lt_succ_of_lt (length_readUnit unit_read)
  · split at read <;> cases read
    exact Nat.lt_succ_self _

def readText (text : List Char) : Reading (List Char) :=
  match text with
  | [] => .error .truncated
  | '"' :: rest => .ok ([], rest)
  | '\\' :: rest =>
      match _read : readEscape rest with
      | .error cause => .error cause
      | .ok (c, rest) => (readText rest).map fun (found, rest) => (c :: found, rest)
  | c :: rest =>
      if isControl c then .error .grammar
      else (readText rest).map fun (found, rest) => (c :: found, rest)
termination_by text.length
decreasing_by
  · exact Nat.lt_succ_of_lt (length_readEscape _read)
  · exact Nat.lt_succ_self _

def skipText (text : List Char) : Except Fault (List Char) :=
  match text with
  | [] => .error .truncated
  | '"' :: rest => .ok rest
  | '\\' :: rest =>
      match _read : skipEscape rest with
      | .error cause => .error cause
      | .ok rest => skipText rest
  | c :: rest => if isControl c then .error .grammar else skipText rest
termination_by text.length
decreasing_by
  · exact Nat.lt_succ_of_lt (length_skipEscape _read)
  · exact Nat.lt_succ_self _

theorem length_readText {text rest found : List Char} (read : readText text = .ok (found, rest)) :
    rest.length < text.length := by
  fun_induction readText text generalizing found with
  | case1 => cases read
  | case2 tail => cases read; exact Nat.lt_succ_self _
  | case3 => cases read
  | case4 tail c after escape ih =>
      cases inner : readText after with
      | error cause => simp [inner, Except.map] at read
      | ok pair =>
          simp only [inner, Except.map, Except.ok.injEq, Prod.mk.injEq] at read
          rcases read with ⟨_, rfl⟩
          exact Nat.lt_succ_of_lt (Nat.lt_trans (ih inner) (length_readEscape escape))
  | case5 => cases read
  | case6 c tail _ _ _ ih =>
      cases inner : readText tail with
      | error cause => simp [inner, Except.map] at read
      | ok pair =>
          simp only [inner, Except.map, Except.ok.injEq, Prod.mk.injEq] at read
          rcases read with ⟨_, rfl⟩
          exact Nat.lt_succ_of_lt (ih inner)

theorem length_skipText {text rest : List Char} (read : skipText text = .ok rest) :
    rest.length < text.length := by
  fun_induction skipText text with
  | case1 => cases read
  | case2 tail => cases read; exact Nat.lt_succ_self _
  | case3 => cases read
  | case4 tail after escape ih =>
      exact Nat.lt_succ_of_lt (Nat.lt_trans (ih read) (length_skipEscape escape))
  | case5 => cases read
  | case6 c tail _ _ _ ih => exact Nat.lt_succ_of_lt (ih read)

end LedgerBoard.Json
