import LedgerBoard.Json.Skip

/-!
# The grammar of payloads

This file says which texts are JSON values, without reference to any reader. There are two accounts
of what stands between quotes: `TextBody` says only that it is well formed, and `Spelling` says
which text it spells. Not every body spells a text, because an escape may name half of a surrogate
pair. The values inside brackets are told by `Written`, which covers values, the items between
brackets, and items in a row.
-/

namespace LedgerBoard.Json

/-- A run of the characters that may stand between the parts of a payload. -/
def Gap (text : List Char) : Prop :=
  text ⊆ [' ', '\t', '\n', '\r']

def hexDigits : List Char :=
  ['0', '1', '2', '3', '4', '5', '6', '7', '8', '9', 'a', 'b', 'c', 'd', 'e', 'f']

/-- A hexadecimal digit in either letter case, and its value. -/
def IsHex (c : Char) (value : Nat) : Prop :=
  hexDigits.idxOf? c.toLower = some value

instance (c : Char) (value : Nat) : Decidable (IsHex c value) :=
  inferInstanceAs (Decidable (_ = _))

/-- Four hexadecimal digits, and the number that they stand for. -/
inductive CodeUnit : List Char → Nat → Prop where
  | digits {first second third fourth : Char} {a b c d : Nat} (first_value : IsHex first a)
      (second_value : IsHex second b) (third_value : IsHex third c)
      (fourth_value : IsHex fourth d) :
      CodeUnit [first, second, third, fourth] (((a * 16 + b) * 16 + c) * 16 + d)

/-- The characters that may follow a backslash, and what they stand for. -/
def shortEscapes : List (Char × Char) :=
  [('"', '"'), ('\\', '\\'), ('/', '/'), ('b', '\x08'), ('f', '\x0C'), ('n', '\n'), ('r', '\r'),
    ('t', '\t')]

/-- What may follow a backslash. -/
inductive EscapeText : List Char → Prop where
  | short {mark plain : Char} (listed : (mark, plain) ∈ shortEscapes) : EscapeText [mark]
  | unit {digits : List Char} {code : Nat} (code_unit : CodeUnit digits code) :
      EscapeText ('u' :: digits)

/-- A character that stands for itself between quotes. -/
def IsPlain (c : Char) : Prop :=
  c ≠ '"' ∧ c ≠ '\\' ∧ 0x20 ≤ c.toNat

instance : DecidablePred IsPlain :=
  fun _ => inferInstanceAs (Decidable (_ ∧ _))

/-- What may stand between quotes. -/
inductive TextBody : List Char → Prop where
  | done : TextBody []
  | plain {c : Char} {rest : List Char} (is_plain : IsPlain c) (others : TextBody rest) :
      TextBody (c :: rest)
  | escaped {mark rest : List Char} (escape : EscapeText mark) (others : TextBody rest) :
      TextBody ('\\' :: (mark ++ rest))

/-- What may follow a backslash to spell a character. A character beyond the first plane is spelled
by two units, of which neither spells a character alone. -/
inductive EscapeOf (c : Char) : List Char → Prop where
  | short {mark : Char} (listed : (mark, c) ∈ shortEscapes) : EscapeOf c [mark]
  | unit {digits : List Char} (code_unit : CodeUnit digits c.toNat) : EscapeOf c ('u' :: digits)
  | pair {high low : List Char} {first second : Nat} (high_unit : CodeUnit high (0xD800 + first))
      (low_unit : CodeUnit low (0xDC00 + second)) (high_small : first < 0x400)
      (low_small : second < 0x400)
      (code : c.toNat = 0x10000 + first * 0x400 + second) :
      EscapeOf c ('u' :: (high ++ '\\' :: 'u' :: low))

/-- The spellings of a text between quotes. -/
inductive Spelling : List Char → List Char → Prop where
  | done : Spelling [] []
  | plain {c : Char} {text written : List Char} (is_plain : IsPlain c)
      (others : Spelling text written) :
      Spelling (c :: text) (c :: written)
  | escaped {c : Char} {text mark written : List Char} (escape : EscapeOf c mark)
      (others : Spelling text written) : Spelling (c :: text) ('\\' :: (mark ++ written))

/-- A run of one digit or more. -/
def Digits (text : List Char) : Prop :=
  text ≠ [] ∧ ∀ c ∈ text, c.isDigit = true

/-- The digits before the point of a number, which start with a zero only if nothing follows it. -/
def WholeDigits (text : List Char) : Prop :=
  Digits text ∧ (text.head? = some '0' → text = ['0'])

def MinusText (text : List Char) : Prop :=
  text = [] ∨ text = ['-']

def FractionText (text : List Char) : Prop :=
  text = [] ∨ ∃ digits, text = '.' :: digits ∧ Digits digits

def ExponentText (text : List Char) : Prop :=
  text = [] ∨ ∃ mark sign digits, text = mark :: (sign ++ digits) ∧ (mark = 'e' ∨ mark = 'E') ∧
    (sign = [] ∨ sign = ['+'] ∨ sign = ['-']) ∧ Digits digits

inductive NumberText : List Char → Prop where
  | parts {minus digits fraction exponent : List Char} (minus_text : MinusText minus)
      (whole : WholeDigits digits) (fraction_text : FractionText fraction)
      (exponent_text : ExponentText exponent) :
        NumberText (minus ++ (digits ++ (fraction ++ exponent)))

def Bracket.opening : Bracket → Char
  | array => '['
  | object => '\x7b'

def Bracket.closing : Bracket → Char
  | array => ']'
  | object => '\x7d'

/-- The parts of a payload that can contain each other. -/
inductive Part where
  | value
  /-- What stands between two commas inside brackets. -/
  | item (bracket : Bracket)
  /-- Items with a comma between each two. -/
  | items (bracket : Bracket)
  deriving DecidableEq, Repr

/-- The texts of each part. -/
inductive Written : Part → List Char → Prop where
  | word {word : List Char} (listed : word ∈ ["null".toList, "true".toList, "false".toList]) :
      Written .value word
  | number {text : List Char} (number_text : NumberText text) : Written .value text
  | text {body : List Char} (text_body : TextBody body) : Written .value ('"' :: (body ++ ['"']))
  | empty {gap : List Char} (bracket : Bracket) (is_gap : Gap gap) :
      Written .value (bracket.opening :: (gap ++ [bracket.closing]))
  | filled {bracket : Bracket} {text : List Char} (items : Written (.items bracket) text) :
      Written .value (bracket.opening :: (text ++ [bracket.closing]))
  | element {before value after : List Char} (gap_before : Gap before)
      (element : Written .value value) (gap_after : Gap after) :
        Written (.item .array) (before ++ (value ++ after))
  | member {before name between text : List Char} (gap_before : Gap before)
      (name_body : TextBody name) (gap_between : Gap between)
      (element : Written (.item .array) text) :
      Written (.item .object) (before ++ '"' :: (name ++ '"' :: (between ++ ':' :: text)))
  | last {bracket : Bracket} {text : List Char} (item : Written (.item bracket) text) :
      Written (.items bracket) text
  | more {bracket : Bracket} {text rest : List Char} (item : Written (.item bracket) text)
      (others : Written (.items bracket) rest) : Written (.items bracket) (text ++ ',' :: rest)

/-- Entries with a comma between each two. -/
inductive Listed {α : Type} (Entry : α → List Char → Prop) : List α → List Char → Prop where
  | last {entry : α} {text : List Char} (is_entry : Entry entry text) : Listed Entry [entry] text
  | more {entry : α} {entries : List α} {text rest : List Char} (is_entry : Entry entry text)
      (others : Listed Entry entries rest) : Listed Entry (entry :: entries) (text ++ ',' :: rest)

/-- A member of an object: its name, which is a text, and the text of its value. -/
structure Member where
  name : String
  value : List Char

/-- A member with gaps around its parts. -/
inductive MemberText (member : Member) : List Char → Prop where
  | parts {before name between gap after : List Char} (gap_before : Gap before)
      (spelling : Spelling member.name.toList name) (gap_between : Gap between) (is_gap : Gap gap)
      (written : Written .value member.value) (gap_after : Gap after) :
      MemberText member
        (before ++ '"' :: (name ++ '"' :: (between ++ ':' :: (gap ++ (member.value ++ after)))))

/-- The texts of an object with the given members, in this order. -/
inductive ObjectText : List Member → List Char → Prop where
  | empty {before gap after : List Char} (gap_before : Gap before) (is_gap : Gap gap)
      (gap_after : Gap after) :
      ObjectText [] (before ++ '\x7b' :: (gap ++ '\x7d' :: after))
  | filled {members : List Member} {before text after : List Char} (gap_before : Gap before)
      (listed : Listed MemberText members text) (gap_after : Gap after) :
      ObjectText members (before ++ '\x7b' :: (text ++ '\x7d' :: after))

/-- A value with gaps around it. -/
inductive ElementText (value : List Char) : List Char → Prop where
  | parts {before after : List Char} (gap_before : Gap before) (written : Written .value value)
      (gap_after : Gap after) : ElementText value (before ++ (value ++ after))

/-- The texts of an array with the given values, of which there is one at least. -/
inductive ArrayText : List (List Char) → List Char → Prop where
  | filled {values : List (List Char)} {before text after : List Char} (gap_before : Gap before)
      (listed : Listed ElementText values text) (gap_after : Gap after) :
      ArrayText values (before ++ '[' :: (text ++ ']' :: after))

/-- What is true of all listed characters can be tried on each of them. -/
theorem forall_mem_of_all {p : Char → Prop} [DecidablePred p] {listed : List Char}
    (all : (listed.all fun c => decide (p c)) = true) : ∀ c ∈ listed, p c :=
  fun c mem => of_decide_eq_true (List.all_eq_true.mp all c mem)

/-- Text that cannot go on a number before it. -/
def Ends (rest : List Char) : Prop :=
  ∀ c ∈ rest.head?, c.isDigit = false ∧ c ≠ '.' ∧ c ≠ 'e' ∧ c ≠ 'E'

theorem ends_cons {c : Char} {rest : List Char}
    (stops : c.isDigit = false ∧ c ≠ '.' ∧ c ≠ 'e' ∧ c ≠ 'E') : Ends (c :: rest) := by
  intro other same
  cases same
  exact stops

theorem ends_comma (rest : List Char) : Ends (',' :: rest) :=
  ends_cons (by decide)

theorem Gap.nil : Gap [] :=
  List.nil_subset _

theorem Gap.isSpace {text : List Char} (gap : Gap text) {c : Char} (mem : c ∈ text) :
    isSpace c = true := by
  have all_spaces : ∀ c ∈ [' ', '\t', '\n', '\r'], Json.isSpace c = true :=
    forall_mem_of_all (by decide)
  exact all_spaces c (gap mem)

/-- A gap between a value and what ends it keeps the end. -/
theorem Gap.ends {gap rest : List Char} (is_gap : Gap gap) (ends : Ends rest) :
    Ends (gap ++ rest) := by
  cases gap with
  | nil => exact ends
  | cons c tail =>
      have all_end : ∀ c ∈ [' ', '\t', '\n', '\r'],
          c.isDigit = false ∧ c ≠ '.' ∧ c ≠ 'e' ∧ c ≠ 'E' := forall_mem_of_all (by decide)
      exact ends_cons (all_end c (is_gap List.mem_cons_self))

@[simp]
theorem Gap.skipSpace_append {gap : List Char} (is_gap : Gap gap) (rest : List Char) :
    skipSpace (gap ++ rest) = skipSpace rest :=
  List.dropWhile_append_of_pos fun _ mem => is_gap.isSpace mem

@[simp]
theorem skipSpace_of_solid {c : Char} (solid : isSpace c = false) (rest : List Char) :
    skipSpace (c :: rest) = c :: rest := by
  rw [skipSpace, List.dropWhile_cons, solid, if_neg Bool.false_ne_true]

end LedgerBoard.Json
