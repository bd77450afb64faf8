import Mathlib.Data.List.Forall2
import LedgerBoard.Proofs.Json.Grammar
import LedgerBoard.Toml.Value

/-!
# The grammar of settings documents

This file says which texts are documents and which statements they make, without reference to any
reader. It is the grammar of TOML 1.0, with the limits of its implementation: integers have
sixty-four bits, a fraction that is too large must be negative, and neither the brackets of a value
nor the parts of a key go deeper than `nestingLimit`. What the statements of a document mean
together is not a question of grammar.
-/

namespace LedgerBoard.Toml

open Json (IsHex)

/-- Blanks within a line. -/
def Gap (text : List Char) : Prop :=
  ∀ c ∈ text, c = ' ' ∨ c = '\t'

def LineEnd (text : List Char) : Prop :=
  text = ['\n'] ∨ text = ['\r', '\n']

/-- A character that may stand in a comment, or for itself between quotes. -/
def Plain (c : Char) : Prop :=
  c = '\t' ∨ 0x20 ≤ c.toNat ∧ c.toNat ≠ 0x7F

/-- A comment without its line end, or no comment. -/
def Comment (text : List Char) : Prop :=
  text = [] ∨ ∃ words, text = '#' :: words ∧ ∀ c ∈ words, Plain c

/-- Blanks, line ends, and comments with their line ends. -/
inductive Space : List Char → Prop where
  | done : Space []
  | blank {c : Char} {rest : List Char} (is_blank : c = ' ' ∨ c = '\t') (others : Space rest) :
      Space (c :: rest)
  | line {comment ends rest : List Char} (is_comment : Comment comment) (line_end : LineEnd ends)
      (others : Space rest) : Space (comment ++ (ends ++ rest))

/-- The characters that may follow a backslash, and what they stand for. -/
def shortEscapes : List (Char × Char) :=
  [('b', '\x08'), ('t', '\t'), ('n', '\n'), ('f', '\x0C'), ('r', '\r'), ('"', '"'), ('\\', '\\')]

/-- The number that digits of a base stand for. -/
def valueOf (base : Nat) (values : List Nat) : Nat :=
  values.foldl (fun total value => total * base + value) 0

/-- What may follow a backslash to spell a character. -/
inductive EscapeOf (c : Char) : List Char → Prop where
  | short {mark : Char} (listed : (mark, c) ∈ shortEscapes) : EscapeOf c [mark]
  | code {mark : Char} {count : Nat} {digits : List Char} {values : List Nat}
      (listed : (mark, count) ∈ [('u', 4), ('U', 8)]) (length : digits.length = count)
      (hex : List.Forall₂ IsHex digits values) (value : valueOf 16 values = c.toNat) :
      EscapeOf c (mark :: digits)

/-- A character that stands for itself between quotes of a kind. -/
def StandsForItself (quote : Quote) (c : Char) : Prop :=
  Plain c ∧ c ≠ quote.mark ∧ (quote = .basic → c ≠ '\\')

/-- The spellings of a text on one line, without its quotes. -/
inductive ShortSpelling (quote : Quote) : List Char → List Char → Prop where
  | done : ShortSpelling quote [] []
  | plain {c : Char} {text written : List Char} (itself : StandsForItself quote c)
      (others : ShortSpelling quote text written) : ShortSpelling quote (c :: text) (c :: written)
  | escaped {c : Char} {text mark written : List Char} (basic : quote = .basic)
      (escape : EscapeOf c mark) (others : ShortSpelling quote text written) :
      ShortSpelling quote (c :: text) ('\\' :: (mark ++ written))

/-- The spellings of a text over several lines, without its quotes. Up to two marks in a row stand
for themselves. A backslash at the end of a line takes this end and all blanks and line ends behind
it away. -/
inductive LongSpelling (quote : Quote) : List Char → List Char → Prop where
  | done : LongSpelling quote [] []
  | plain {c : Char} {text written : List Char} (itself : StandsForItself quote c)
      (others : LongSpelling quote text written) : LongSpelling quote (c :: text) (c :: written)
  | mark {text written : List Char} (few : ¬[quote.mark, quote.mark] <+: written)
      (others : LongSpelling quote text written) :
      LongSpelling quote (quote.mark :: text) (quote.mark :: written)
  | lineEnd {text ends written : List Char} (line_end : LineEnd ends)
      (others : LongSpelling quote text written) :
        LongSpelling quote ('\n' :: text) (ends ++ written)
  | escaped {c : Char} {text mark written : List Char} (basic : quote = .basic)
      (escape : EscapeOf c mark) (others : LongSpelling quote text written) :
        LongSpelling quote (c :: text) ('\\' :: (mark ++ written))
  | joined {text gap ends blank written : List Char} (basic : quote = .basic) (is_gap : Gap gap)
      (line_end : LineEnd ends) (is_blank : Space blank) (no_comment : '#' ∉ blank)
      (solid : ∀ c ∈ written.head?, c ∉ [' ', '\t', '\n', '\r'])
      (others : LongSpelling quote text written) :
      LongSpelling quote text ('\\' :: (gap ++ (ends ++ (blank ++ written))))

/-- The ways to write a text. A line end right after three opening quotes does not count. -/
inductive TextSpelling (text : List Char) : List Char → Prop where
  | short (quote : Quote) {written : List Char} (spelling : ShortSpelling quote text written) :
      TextSpelling text (quote.mark :: (written ++ [quote.mark]))
  | long (quote : Quote) {first written : List Char}
      (first_line : LineEnd first ∨ first = [] ∧ ∀ c ∈ written.head?, c ∉ ['\n', '\r'])
      (spelling : LongSpelling quote text written) :
      TextSpelling text
        (List.replicate 3 quote.mark ++ (first ++ (written ++ List.replicate 3 quote.mark)))

/-- A character that may stand in a key without quotes. -/
def Bare (c : Char) : Prop :=
  c.isAlpha = true ∨ c.isDigit = true ∨ c = '-' ∨ c = '_'

/-- The ways to write one part of a key. -/
inductive KeyPart (name : String) : List Char → Prop where
  | bare (some_name : name ≠ "") (all_bare : ∀ c ∈ name.toList, Bare c) : KeyPart name name.toList
  | quoted (quote : Quote) {written : List Char}
      (spelling : ShortSpelling quote name.toList written) :
      KeyPart name (quote.mark :: (written ++ [quote.mark]))

/-- The ways to write a key, with a point between any two of its parts. -/
inductive KeyText : List String → List Char → Prop where
  | last {name : String} {before part after : List Char} (gap_before : Gap before)
      (key_part : KeyPart name part) (gap_after : Gap after) :
        KeyText [name] (before ++ (part ++ after))
  | more {name : String} {path : List String} {before part after rest : List Char}
      (gap_before : Gap before) (key_part : KeyPart name part) (gap_after : Gap after)
      (others : KeyText path rest) :
        KeyText (name :: path) (before ++ (part ++ (after ++ '.' :: rest)))

/-- Digits of a base, with at most one underscore between any two. -/
inductive DigitRun (base : Nat) : List Nat → List Char → Prop where
  | one {c : Char} {value : Nat} (hex : IsHex c value) (small : value < base) :
      DigitRun base [value] [c]
  | next {c : Char} {value : Nat} {values : List Nat} {written : List Char} (hex : IsHex c value)
      (small : value < base) (others : DigitRun base values written) :
      DigitRun base (value :: values) (c :: written)
  | apart {c : Char} {value : Nat} {values : List Nat} {written : List Char} (hex : IsHex c value)
      (small : value < base) (others : DigitRun base values written) :
      DigitRun base (value :: values) (c :: '_' :: written)

/-- A sign, and whether it is negative. -/
inductive SignText : Bool → List Char → Prop where
  | absent : SignText false []
  | plus : SignText false ['+']
  | minus : SignText true ['-']

def signed (negative : Bool) (size : Nat) : Int :=
  if negative then -size else size

/-- The digits in front of the point. Only zero itself starts with a zero. -/
def WholeText (values : List Nat) (text : List Char) : Prop :=
  DigitRun 10 values text ∧ (values.head? = some 0 → text = ['0'])

inductive IntegerText : Int → List Char → Prop where
  | decimal {negative : Bool} {values : List Nat} {sign digits : List Char}
      (sign_text : SignText negative sign) (whole : WholeText values digits)
      (low : -0x8000000000000000 ≤ signed negative (valueOf 10 values))
      (high : signed negative (valueOf 10 values) < 0x8000000000000000) :
      IntegerText (signed negative (valueOf 10 values)) (sign ++ digits)
  | based {mark : Char} {base : Nat} {values : List Nat} {digits : List Char}
      (listed : (mark, base) ∈ [('x', 16), ('o', 8), ('b', 2)]) (run : DigitRun base values digits)
      (high : valueOf base values < 0x8000000000000000) :
        IntegerText (valueOf base values) ('0' :: mark :: digits)

/-- The digits behind the point, if there is one. -/
inductive PlacesText : List Nat → List Char → Prop where
  | absent : PlacesText [] []
  | present {values : List Nat} {digits : List Char} (run : DigitRun 10 values digits) :
      PlacesText values ('.' :: digits)

inductive ExponentText : Int → List Char → Prop where
  | absent : ExponentText 0 []
  | present {mark : Char} {negative : Bool} {values : List Nat} {sign digits : List Char}
      (is_mark : mark = 'e' ∨ mark = 'E') (sign_text : SignText negative sign)
      (run : DigitRun 10 values digits) :
      ExponentText (signed negative (valueOf 10 values)) (mark :: (sign ++ digits))

/-- A fraction, and its plain form. -/
inductive FractionText : String → List Char → Prop where
  | decimal {negative : Bool} {whole places : List Nat} {exponent : Int} {shown : String}
      {sign digits fraction power : List Char} (sign_text : SignText negative sign)
      (whole_text : WholeText whole digits) (places_text : PlacesText places fraction)
      (exponent_text : ExponentText exponent power) (no_integer : fraction ++ power ≠ [])
      (rounded :
        writeFraction? negative ((whole ++ places).map Nat.digitChar) (exponent - places.length) =
        some shown) :
      FractionText shown (sign ++ (digits ++ (fraction ++ power)))
  | infinite {negative : Bool} {sign : List Char} (sign_text : SignText negative sign) :
      FractionText (if negative then "-inf" else "inf") (sign ++ "inf".toList)
  | undefined {negative : Bool} {sign : List Char} (sign_text : SignText negative sign) :
      FractionText "NaN" (sign ++ "nan".toList)

/-- A fixed number of digits whose value lies in a range. -/
def FieldText (count low high value : Nat) (text : List Char) : Prop :=
  ∃ values, List.Forall₂ IsHex text values ∧ (∀ digit ∈ values, digit < 10) ∧ text.length = count ∧
    valueOf 10 values = value ∧ low ≤ value ∧ value ≤ high

inductive DateText : List Char → Prop where
  | parts {year month day : Nat} {first second third : List Char}
      (year_text : FieldText 4 0 9999 year first) (month_text : FieldText 2 1 12 month second)
      (day_text : FieldText 2 1 (daysOf year month) day third) :
      DateText (first ++ '-' :: (second ++ '-' :: third))

inductive TimeText : List Char → Prop where
  | parts {hour minute second : Nat} {first middle last places : List Char}
      (hour_text : FieldText 2 0 23 hour first) (minute_text : FieldText 2 0 59 minute middle)
      (second_text : FieldText 2 0 60 second last)
      (places_text : places = [] ∨ ∃ digits, places = '.' :: digits ∧ Json.Digits digits) :
      TimeText (first ++ ':' :: (middle ++ ':' :: (last ++ places)))

inductive OffsetText : List Char → Prop where
  | absent : OffsetText []
  | zero {mark : Char} (is_mark : mark = 'Z' ∨ mark = 'z') : OffsetText [mark]
  | away {sign : Char} {hour minute : Nat} {first second : List Char}
      (is_sign : sign = '+' ∨ sign = '-') (hour_text : FieldText 2 0 23 hour first)
      (minute_text : FieldText 2 0 59 minute second) :
      OffsetText (sign :: (first ++ ':' :: second))

inductive MomentText : List Char → Prop where
  | date {text : List Char} (date_text : DateText text) : MomentText text
  | time {text : List Char} (time_text : TimeText text) : MomentText text
  | both {mark : Char} {date time offset : List Char} (date_text : DateText date)
      (is_mark : mark = 'T' ∨ mark = 't' ∨ mark = ' ') (time_text : TimeText time)
      (offset_text : OffsetText offset) : MomentText (date ++ mark :: (time ++ offset))

inductive ScalarText : Scalar → List Char → Prop where
  | text {value : String} {written : List Char} (spelling : TextSpelling value.toList written) :
      ScalarText (.text value) written
  | integer {value : Int} {written : List Char} (integer_text : IntegerText value written) :
      ScalarText (.integer value) written
  | fraction {shown : String} {written : List Char} (fraction_text : FractionText shown written) :
      ScalarText (.fraction shown) written
  | boolean (value : Bool) : ScalarText (.boolean value) (if value then "true" else "false").toList
  | moment {written : List Char} (moment_text : MomentText written) : ScalarText .moment written

/-- A value as it is written. -/
inductive Value where
  | scalar (scalar : Scalar)
  | array (items : List Value)
  /-- A table between braces: its keys with their values. -/
  | inline (pairs : List (List String × Value))

/-- The parts of a document that can contain each other. -/
inductive Part where
  | value (value : Value)
  | items (items : List Value)
  | pairs (pairs : List (List String × Value))

/-- The texts of each part in which at most `limit` brackets are open at once. -/
inductive Written : Nat → Part → List Char → Prop where
  | scalar {limit : Nat} {scalar : Scalar} {text : List Char}
      (scalar_text : ScalarText scalar text) :
      Written limit (.value (.scalar scalar)) text
  | noItems {limit : Nat} {space : List Char} (is_space : Space space) :
      Written (limit + 1) (.value (.array [])) ('[' :: (space ++ [']']))
  | array {limit : Nat} {items : List Value} {text : List Char}
      (written : Written limit (.items items) text) :
      Written (limit + 1) (.value (.array items)) ('[' :: (text ++ [']']))
  | noPairs {limit : Nat} {gap : List Char} (is_gap : Gap gap) :
      Written (limit + 1) (.value (.inline [])) ('\x7b' :: (gap ++ ['\x7d']))
  | inline {limit : Nat} {pairs : List (List String × Value)} {text : List Char}
      (written : Written limit (.pairs pairs) text) :
      Written (limit + 1) (.value (.inline pairs)) ('\x7b' :: (text ++ ['\x7d']))
  | lastItem {limit : Nat} {item : Value} {before text after final : List Char}
      (space_before : Space before) (written : Written limit (.value item) text)
      (space_after : Space after)
      (comma : final = [] ∨ ∃ space, final = ',' :: space ∧ Space space) :
      Written limit (.items [item]) (before ++ (text ++ (after ++ final)))
  | moreItems {limit : Nat} {item : Value} {items : List Value} {before text after rest : List Char}
      (space_before : Space before) (written : Written limit (.value item) text)
      (space_after : Space after)
      (others : Written limit (.items items) rest) :
      Written limit (.items (item :: items)) (before ++ (text ++ (after ++ ',' :: rest)))
  | lastPair {limit : Nat} {path : List String} {value : Value} {key gap text after : List Char}
      (key_text : KeyText path key) (short : path.length < nestingLimit) (is_gap : Gap gap)
      (written : Written limit (.value value) text) (gap_after : Gap after) :
      Written limit (.pairs [(path, value)]) (key ++ '=' :: (gap ++ (text ++ after)))
  | morePairs {limit : Nat} {path : List String} {value : Value}
      {pairs : List (List String × Value)} {key gap text after rest : List Char}
      (key_text : KeyText path key) (short : path.length < nestingLimit)
      (is_gap : Gap gap) (written : Written limit (.value value) text) (gap_after : Gap after)
      (others : Written limit (.pairs pairs) rest) :
      Written limit (.pairs ((path, value) :: pairs))
        (key ++ '=' :: (gap ++ (text ++ (after ++ ',' :: rest))))

inductive Statement where
  /-- Opens a table. -/
  | header (path : List String)
  /-- Opens another table of an array of tables. -/
  | element (path : List String)
  /-- Gives a key of the table that was opened last a value. -/
  | assignment (path : List String) (value : Value)

inductive StatementText : Statement → List Char → Prop where
  | header {path : List String} {key : List Char} (key_text : KeyText path key)
      (short : path.length < nestingLimit) : StatementText (.header path) ('[' :: (key ++ [']']))
  | element {path : List String} {key : List Char} (key_text : KeyText path key)
      (short : path.length < nestingLimit) :
      StatementText (.element path) ('[' :: '[' :: (key ++ [']', ']']))
  | assignment {path : List String} {value : Value} {key gap text : List Char}
      (key_text : KeyText path key) (short : path.length < nestingLimit) (is_gap : Gap gap)
      (written : Written (nestingLimit - 1) (.value value) text) :
      StatementText (.assignment path value) (key ++ '=' :: (gap ++ text))

/-- A line without its end: it makes one statement at most. -/
inductive LineText : List Statement → List Char → Prop where
  | blank {gap comment : List Char} (is_gap : Gap gap) (is_comment : Comment comment) :
      LineText [] (gap ++ comment)
  | statement {statement : Statement} {before text after comment : List Char}
      (gap_before : Gap before) (statement_text : StatementText statement text)
      (gap_after : Gap after) (is_comment : Comment comment) :
      LineText [statement] (before ++ (text ++ (after ++ comment)))

/-- Lines with a line end between any two. A value may contain line ends of its own. -/
inductive LinesText : List Statement → List Char → Prop where
  | last {statements : List Statement} {line : List Char} (line_text : LineText statements line) :
      LinesText statements line
  | more {statements others : List Statement} {line ends rest : List Char}
      (line_text : LineText statements line) (line_end : LineEnd ends)
      (rest_text : LinesText others rest) :
      LinesText (statements ++ others) (line ++ (ends ++ rest))

/-- The texts of a document that makes the given statements. A byte order mark may stand in
front. -/
def DocumentText (statements : List Statement) (text : List Char) : Prop :=
  LinesText statements text ∨ ∃ rest, text = '\uFEFF' :: rest ∧ LinesText statements rest

end LedgerBoard.Toml
