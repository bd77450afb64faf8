import LedgerBoard.Duration.Unit
import LedgerBoard.Text.Blank

/-!
# Reading durations

A duration is written as numbers with units, such as `1min 30s` or `1.5s`. Blanks may stand between
any two parts. `Duration.read` goes through a text once; `Progress` is what it remembers, and places
are counted in octets.
-/

namespace LedgerBoard

/-- Why a text is not a duration. -/
inductive DurationError where
  | empty
  | numberExpected (place : Nat)
  | invalidCharacter (place : Nat)
  /-- A number without a unit; `count` is its whole part. -/
  | unitMissing (count : Nat)
  | unknownUnit (name : String)
  /-- The duration or one of its numbers is too large or too precise. -/
  | outOfRange
  deriving DecidableEq, Repr

def DurationError.message : DurationError → String
  | empty => "value was empty"
  | numberExpected place => s!"expected number at {place}"
  | invalidCharacter place => s!"invalid character at {place}"
  | unitMissing count => s!"time unit needed, for example {count}sec or {count}ms"
  | unknownUnit name =>
      "unknown time unit \"" ++ name ++ "\", supported units: ns, us/µs, ms, sec, min, hours, " ++
        "days, weeks, months, years (and few variations)"
  | outOfRange =>
      "number is too large or cannot be represented without a lack of precision " ++
        "(values below 1ns are not supported)"

namespace Duration

/-- The digits after the point of a number: `numerator / denominator`. -/
structure Fraction where
  numerator : Nat
  denominator : Nat
  deriving DecidableEq, Repr

/-- Where reading a duration stands. -/
inductive Stage where
  /-- Before a number; the search for it began at a place. -/
  | awaiting (since : Nat)
  /-- In the whole part of a number. -/
  | whole (count : Nat)
  /-- After the point of a number; `mark` is the place that a fault here is reported at. -/
  | fraction (count : Nat) (part : Fraction) (mark : Nat)
  /-- In a unit; its letters are kept last first. -/
  | unit (count : Nat) (part : Option Fraction) (letters : List Char)
  deriving DecidableEq, Repr

/-- What was read of a duration: the sum of its finished parts, if any, and the stage. -/
structure Progress where
  total : Option Duration
  stage : Stage
  deriving DecidableEq, Repr

/-- A word, unless it leaves sixty-four bits. -/
def fit (n : Nat) : Except DurationError Nat :=
  if n ≤ Number.maxWord then .ok n else .error .outOfRange

/-- A duration with a count of something more. -/
def extend (total : Duration) (count : Nat) (scale : TimeScale) : Except DurationError Duration :=
  match total.add? count scale with
  | some sum => .ok sum
  | none => .error .outOfRange

/-- A duration with a fraction of a unit more, which must come out even. -/
def addFraction (total : Duration) (unit : TimeUnit) (part : Fraction) :
    Except DurationError Duration := do
  match unit.parts? with
  | none => throw .outOfRange
  | some (size, scale) =>
      let product ← fit (part.numerator * size)
      if product % part.denominator = 0 then extend total (product / part.denominator) scale
      else throw .outOfRange

/-- A duration with a number and its unit more. -/
def addItem (total : Duration) (count : Nat) (part : Option Fraction) (name : String) :
    Except DurationError Duration := do
  match TimeUnit.ofName? name with
  | none => throw (if name.isEmpty then .unitMissing count else .unknownUnit name)
  | some unit =>
      let whole ← fit (count * unit.whole.1)
      let sum ← extend total whole unit.whole.2
      match part with
      | none => return sum
      | some part => addFraction sum unit part

def Progress.sum (progress : Progress) : Duration :=
  progress.total.getD ⟨0⟩

def Progress.finishItem (progress : Progress) (count : Nat) (part : Option Fraction)
    (letters : List Char) (next : Stage) : Except DurationError Progress := do
  let sum ← addItem progress.sum count part (String.ofList letters.reverse)
  return ⟨some sum, next⟩

def isUnitLetter (c : Char) : Bool :=
  c.isAlpha || c == 'µ'

/-- A digit more after the point of a number. -/
def Fraction.push (part : Fraction) (c : Char) : Except DurationError Fraction := do
  let denominator ← fit (part.denominator * 10)
  let numerator ← fit (part.numerator * 10 + Number.digitValue c)
  return ⟨numerator, denominator⟩

def Progress.take (progress : Progress) (place : Nat) (c : Char) :
    Except DurationError Progress := do
  match progress.stage with
  | .awaiting since =>
      if c.isDigit then return { progress with stage := .whole (Number.digitValue c) }
      else if Text.isBlank c then return progress
      else throw (.numberExpected since)
  | .whole count =>
      if c.isDigit then
        return { progress with stage := .whole (← fit (count * 10 + Number.digitValue c)) }
      else if Text.isBlank c then return progress
      else if isUnitLetter c then return { progress with stage := .unit count none [c] }
      else if c = '.' then return { progress with stage := .fraction count ⟨0, 1⟩ place }
      else throw (.invalidCharacter place)
  | .fraction count part mark =>
      let next := place + c.utf8Size
      if c.isDigit then
        return { progress with stage := .fraction count (← part.push c) next }
      else if Text.isBlank c then return { progress with stage := .fraction count part next }
      else if isUnitLetter c ∧ part.denominator ≠ 1 then
        return { progress with stage := .unit count (some part) [c] }
      else throw (.invalidCharacter mark)
  | .unit count part letters =>
      if c.isDigit then
        progress.finishItem count part letters (.whole (Number.digitValue c))
      else if Text.isBlank c then
        progress.finishItem count part letters (.awaiting (place + c.utf8Size))
      else if isUnitLetter c then
        return { progress with stage := .unit count part (c :: letters) }
      else throw (.invalidCharacter place)

def Progress.finish (progress : Progress) : Except DurationError Duration :=
  match progress.stage with
  | .awaiting _ =>
      match progress.total with
      | some total => .ok total
      | none => .error .empty
  | .whole count => .error (.unitMissing count)
  | .fraction count part mark =>
      .error (if part.denominator = 1 then .invalidCharacter mark else .unitMissing count)
  | .unit count part letters => (progress.finishItem count part letters (.awaiting 0)).map (·.sum)

def Progress.takeAll (progress : Progress) (place : Nat) :
    List Char → Except DurationError Progress
  | [] => .ok progress
  | c :: rest => do
      let progress ← progress.take place c
      progress.takeAll (place + c.utf8Size) rest

/-- Reads a duration. A lone zero needs no unit, and blanks around the text do not count. -/
def read (text : String) : Except DurationError Duration := do
  let text := Text.trim text.toList
  if text = ['0'] then return ⟨0⟩
  let progress ← Progress.takeAll ⟨none, .awaiting 0⟩ 0 text
  progress.finish

end Duration

end LedgerBoard
