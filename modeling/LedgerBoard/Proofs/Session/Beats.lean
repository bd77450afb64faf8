import Mathlib.Algebra.Group.Nat.Defs
import LedgerBoard.Proofs.Frame.Grammar
import LedgerBoard.Proofs.Number.Decimal
import LedgerBoard.Proofs.Session.Conduct
import LedgerBoard.Settings.Check

/-!
# The interval between heart-beats

A client beats at the larger of the interval that its opening frame announces and the one that the
node asks for, and never when one of them is zero. The frame announces all milliseconds of the
offer, but the interval is computed from their remainder modulo the size of a word. So the rule
holds exactly for offers that fit a word, and for a node that asks for no heart-beats.
-/

namespace LedgerBoard

/-- Blanks around a text are trimmed. -/
theorem Text.trim_padded {lead core trail : List Char} (lead_blank : ∀ c ∈ lead, isBlank c = true)
    (solid : ∀ c ∈ core, isBlank c = false) (trail_blank : ∀ c ∈ trail, isBlank c = true)
    (some_core : core ≠ []) : trim (lead ++ core ++ trail) = core := by
  have start : trimStart (lead ++ core ++ trail) = core ++ trail := by
    obtain ⟨first, rest, rfl⟩ := List.exists_cons_of_ne_nil some_core
    rw [trimStart, List.append_assoc, List.dropWhile_append_of_pos lead_blank]
    simp [solid first List.mem_cons_self]
  obtain ⟨front, last, rfl⟩ : ∃ front last, core = front ++ [last] :=
    ⟨_, _, (List.dropLast_concat_getLast some_core).symm⟩
  rw [trim, start, trimEnd, List.reverse_append,
    List.dropWhile_append_of_pos (by simpa using trail_blank)]
  simp [solid last (by simp)]

namespace Number

theorem toString_inj {first second : Nat} : toString first = toString second ↔ first = second := by
  refine ⟨fun same => ?_, fun same => same ▸ rfl⟩
  rw [← ofList_decimal, ← ofList_decimal, String.ofList_inj] at same
  rw [← digitsValue_decimal first, same, digitsValue_decimal]

/-- The texts of a number: its decimal numeral behind any zeros, perhaps with a plus sign, among
blanks. -/
inductive NumeralText (n : Nat) : List Char → Prop where
  | padded {lead sign trail : List Char} (zeros : Nat)
      (lead_blank : ∀ c ∈ lead, Text.isBlank c = true)
      (trail_blank : ∀ c ∈ trail, Text.isBlank c = true) (signed : sign = [] ∨ sign = ['+']) :
      NumeralText n (lead ++ (sign ++ List.replicate zeros '0' ++ (toString n).toList) ++ trail)

theorem digitsValue_zeros (zeros : Nat) (digits : List Char) :
    digitsValue (List.replicate zeros '0' ++ digits) = digitsValue digits := by
  induction zeros with
  | zero => rfl
  | succ zeros ih =>
      rw [List.replicate_succ, List.cons_append]
      exact ih

/-- Digits with an optional plus sign are read as their value. -/
theorem unsigned?_of_digits {limit : Nat} {digits sign : List Char} (some_digits : digits ≠ [])
    (all_digits : ∀ c ∈ digits, c.isDigit = true) (allowed : digitsValue digits ≤ limit)
    (signed : sign = [] ∨ sign = ['+']) :
    unsigned? limit (sign ++ digits) = some (digitsValue digits) := by
  have all : digits.all Char.isDigit = true := List.all_eq_true.mpr all_digits
  rcases signed with rfl | rfl
  · have no_sign : ∀ rest, digits ≠ '+' :: rest := by
      rintro rest rfl
      exact absurd (all_digits '+' List.mem_cons_self) (by decide)
    rw [List.nil_append, unsigned?.eq_def]
    split
    · exact absurd rfl (no_sign _)
    · simp [all, some_digits, allowed]
  · simp [unsigned?, all, some_digits, allowed]

/-- However a number is spelled, it is read as the number once the blanks are off. -/
theorem NumeralText.unsigned? {limit n : Nat} {text : List Char} (numeral : NumeralText n text)
    (allowed : n ≤ limit) : unsigned? limit (Text.trim text) = some n := by
  cases numeral with
  | @padded lead sign trail zeros lead_blank trail_blank signed =>
      let digits := List.replicate zeros '0' ++ (toString n).toList
      have decimal : (toString n).toList = decimal n := by
        rw [← ofList_decimal, String.toList_ofList]
      have some_digits : digits ≠ [] := by simp [digits]
      have all_digits : ∀ c ∈ digits, c.isDigit = true := by
        intro c mem
        rcases List.mem_append.mp mem with zero | mem
        · rw [List.eq_of_mem_replicate zero]
          decide
        · exact isDigit_of_mem_decimal (decimal ▸ mem)
      have value : digitsValue digits = n := by rw [digitsValue_zeros, decimal, digitsValue_decimal]
      have solid : ∀ c ∈ sign ++ digits, Text.isBlank c = false := by
        intro c mem
        rcases List.mem_append.mp mem with mem | mem
        · rcases signed with rfl | rfl
          · cases mem
          · rw [List.mem_singleton.mp mem]
            decide
        · exact isBlank_of_isDigit (all_digits c mem)
      rw [List.append_assoc sign,
        Text.trim_padded lead_blank solid trail_blank (by simp [some_digits]),
        unsigned?_of_digits some_digits all_digits (value ▸ allowed) signed, value]

end Number

namespace HeartBeat

/-- The number behind the comma is what the node wants. -/
theorem wanted?_eq_some {first second : String} {wanted : Nat} (no_comma : ',' ∉ first.toList)
    (numeral : Number.NumeralText wanted second.toList) (word : wanted < 2 ^ 64) :
    wanted? (first ++ "," ++ second) = some wanted := by
  have split :
      Frame.splitAt? ',' (first ++ "," ++ second).toList = some (first.toList, second.toList) :=
    Frame.splitAt?_eq_some_iff.mpr ⟨by simp, no_comma⟩
  rw [wanted?, split]
  exact numeral.unsigned? (by simp only [Number.maxWord]; omega)

theorem ofMillis_inj {first second : Nat} :
    Duration.ofMillis first = Duration.ofMillis second ↔ first = second := by
  simp only [Duration.ofMillis, Duration.mk.injEq]
  omega

/-- The larger of two intervals in milliseconds, if neither is zero. -/
def larger? (announced wanted : Nat) : Option Duration :=
  if announced = 0 ∨ wanted = 0 then none else some (.ofMillis (max announced wanted))

/-- Where an offer does not fit a word, the interval is too short, or there is none. -/
theorem larger?_mod_eq_iff {announced wanted : Nat} (word : wanted < 2 ^ 64) :
    larger? (announced % 2 ^ 64) wanted = larger? announced wanted ↔
    announced < 2 ^ 64 ∨ wanted = 0 := by
  by_cases asked : wanted = 0
  · simp [larger?, asked]
  by_cases fits : announced < 2 ^ 64
  · rw [Nat.mod_eq_of_lt fits]
    exact iff_of_true rfl (.inl fits)
  have remainder := Nat.mod_lt announced (show 0 < 2 ^ 64 by decide)
  have announces : ¬(announced = 0 ∨ wanted = 0) := by omega
  simp only [asked, fits, or_self, iff_false]
  rw [larger?, larger?, if_neg announces]
  split
  · simp
  · rw [Option.some_inj, ofMillis_inj]
    omega

/-- The interval is the larger one of what is offered, as a word, and what is wanted. -/
theorem interval?_eq_larger? {offer : Duration} {header : String} {wanted : Nat}
    (asks : wanted? header = some wanted) :
    interval? offer (some header) = larger? (offer.millis % 2 ^ 64) wanted := by
  rw [interval?, Option.bind_some, asks]
  rfl

end HeartBeat

namespace Session

open HeartBeat

/-- What an opening frame announces is the offer in milliseconds, all of them. -/
theorem millis_of_announced {host : String} {millis announced : Nat}
    (header : (Frame.connect host millis).header? "heart-beat" =
      some (toString announced ++ ",0")) :
    millis = announced := by
  have same : toString millis ++ ",0" = toString announced ++ ",0" := Option.some.inj header
  have digits := congrArg String.toList same
  rw [String.toList_append, String.toList_append, List.append_cancel_right_eq, String.toList_inj]
    at digits
  exact Number.toString_inj.mp digits

/-- Take a plan whose opening frame announces an interval, and a node that asks for one. The client
beats at the larger of the two, or never when either of them is zero, if what is announced fits a
word or the node wants no heart-beats, and not otherwise. -/
theorem beat_is_larger_interval_iff {plan : SessionPlan} {announced wanted : Nat}
    {first second : String}
    (offers : (Frame.connect plan.host plan.heartbeat.millis).header? "heart-beat" =
      some (toString announced ++ ",0"))
    (no_comma : ',' ∉ first.toList) (numeral : Number.NumeralText wanted second.toList)
    (word : wanted < 2 ^ 64) :
    (interval? plan.heartbeat (some (first ++ "," ++ second)) = larger? announced wanted ↔
      announced < 2 ^ 64 ∨ wanted = 0) ∧
      ∀ (weather : Weather) (message : Message) (welcome : Frame) (others : List Frame)
      (routes : Routes)
        (beat : Option Duration) (outputs : List Output), message.frames = welcome :: others →
        welcome.header? "heart-beat" = some (first ++ "," ++ second) →
        turn plan weather (.message message) .greeting = (.serving routes beat, outputs) →
        (beat = larger? announced wanted ↔ announced < 2 ^ 64 ∨ wanted = 0) := by
  have asks := wanted?_eq_some no_comma numeral word
  have rule : larger? (announced % 2 ^ 64) wanted = larger? announced wanted ↔
      announced < 2 ^ 64 ∨ wanted = 0 := larger?_mod_eq_iff word
  rw [← millis_of_announced offers, ← interval?_eq_larger? asks, millis_of_announced offers] at rule
  refine ⟨rule, ?_⟩
  intro weather message welcome others routes beat outputs frames agreed made
  rw [← beat_of_welcome frames made, agreed]
  exact rule

/-- A node may spell what it asks for in its own way. -/
theorem beat_is_larger_interval_iff_of_spaced :
    let plan : SessionPlan := ⟨"ws://node/ws", .ofParts 10 0⟩
    (Frame.connect plan.host plan.heartbeat.millis).header? "heart-beat" =
      some (toString 10000 ++ ",0") ∧
      ',' ∉ "0".toList ∧ Number.NumeralText 20000 " +0020000".toList ∧ 20000 < 2 ^ 64 ∧
      interval? plan.heartbeat (some "0, +0020000") = some (.ofMillis 20000) := by
  intro plan
  have offers : (Frame.connect plan.host plan.heartbeat.millis).header? "heart-beat" =
      some (toString 10000 ++ ",0") := by decide
  have no_comma : ',' ∉ "0".toList := by decide
  have numeral : Number.NumeralText 20000 " +0020000".toList :=
    @Number.NumeralText.padded 20000 [' '] ['+'] [] 2 (by simp [Text.isBlank]) (by simp) (.inr rfl)
  have word : 20000 < 2 ^ 64 := by decide
  exact ⟨offers, no_comma, numeral, word,
    (beat_is_larger_interval_iff offers no_comma numeral word).1.mpr (.inl (by decide))⟩

/-- Settings can offer an interval that is announced in full and yet counts as no offer at all. -/
theorem offer_of_word_size_is_dropped :
    let server : ServerSettings := { heartbeat := "18446744073709551s 616ms" }
    let plan := SessionPlan.forServer server.url (.ofMillis (2 ^ 64))
    server.interval = .ok plan.heartbeat ∧
      (Frame.connect plan.host plan.heartbeat.millis).header? "heart-beat" =
        some (toString (2 ^ 64) ++ ",0") ∧
      interval? plan.heartbeat (some "0,1000") = none ∧
      larger? (2 ^ 64) 1000 = some (.ofMillis (2 ^ 64)) := by
  intro server plan
  refine ⟨?_, ?_, ?_, ?_⟩
  · rw [← Outcome.toOption_eq_some_iff]
    decide +kernel
  · decide +kernel
  · decide +kernel
  · decide

end Session

end LedgerBoard
