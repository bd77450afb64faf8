import LedgerBoard.Settings.Basic
import LedgerBoard.Number.Decimal

/-!
# Log filters

A filter says how much is logged. It is a list of directives, each with a threshold, for everything
or for one target. Directives for longer targets come first, because the first one that fits a
message counts.
-/

namespace LedgerBoard

/-- What a directive lets through: nothing, or a level and the quieter ones. -/
inductive Threshold where
  | off
  | level (level : LogLevel)
  deriving DecidableEq, Repr

namespace Threshold

/-- Every threshold, the quietest first. -/
def all : List Threshold := off :: LogLevel.all.map level

def name : Threshold → String
  | .off => "off"
  | .level loudest => loudest.name

/-- The threshold of a spelling: its name in any case, or its number. -/
def ofName? (text : List Char) : Option Threshold :=
  match Number.unsigned? Number.maxWord text with
  | some number => all[number]?
  | none =>
      all.find? fun threshold => threshold.name.toList == text.map Char.toLower

end Threshold

/-- A threshold for the messages of a target, or for all messages. -/
structure Directive where
  target : Option String
  threshold : Threshold
  deriving DecidableEq, Repr

namespace Directive

/-- Whether a character may start a directive. -/
def isStart (c : Char) : Bool :=
  c.isAlphanum || c == '-' || c == ':' || c == '_'

/-- The directive of a text: a threshold, a target, or a target with its threshold. A target alone
lets everything through. -/
def ofText? (text : List Char) : Option Directive :=
  if !(text.head?.any isStart) || text.contains '[' then none
  else
    let target := text.takeWhile (· ≠ '=')
    let loudest : Threshold := .level .trace
    match text.dropWhile (· ≠ '=') with
    | [] =>
        match Threshold.ofName? text with
        | some threshold => some ⟨none, threshold⟩
        | none => some ⟨some (String.ofList target), loudest⟩
    | [_] => some ⟨some (String.ofList target), loudest⟩
    | _ :: name =>
        (Threshold.ofName? name).map fun threshold => ⟨some (String.ofList target), threshold⟩

def describe : Directive → String
  | ⟨some target, threshold⟩ => target ++ "=" ++ threshold.name
  | ⟨none, threshold⟩ => threshold.name

/-- Whether a directive is looked at before another: targets first, the longer ones before the
shorter ones. -/
def precedes (first second : Directive) : Bool :=
  match first.target, second.target with
  | some first, some second =>
      second.utf8ByteSize < first.utf8ByteSize ||
        (second.utf8ByteSize == first.utf8ByteSize && decide (second < first))
  | some _, none => true
  | none, _ => false

end Directive

/-- The directives of a filter, in the order in which they are looked at. -/
abbrev Filter := List Directive

namespace Filter

/-- Adds a directive in its place; one for the same target is replaced. -/
def insert (directive : Directive) : Filter → Filter
  | [] => [directive]
  | other :: rest =>
      if other.target = directive.target then directive :: rest
      else if directive.precedes other then directive :: other :: rest
      else other :: insert directive rest

/-- The filter of a text of directives between commas, if all of them can be read. An empty text
lets only errors through. -/
def ofText? (text : String) : Option Filter :=
  if text.isEmpty then some [⟨none, .level .error⟩]
  else
    ((text.splitOn ",").mapM fun part => Directive.ofText? part.toList).map fun directives =>
      directives.foldl (fun filter directive => insert directive filter) []

/-- The filter that a variable of the environment asks for, or else that of the settings. -/
def choose (wanted : Option String) (log : LogSettings) : Filter :=
  (wanted.bind ofText?).getD [⟨none, .level log.level⟩]

def describe (filter : Filter) : String :=
  String.intercalate "," (filter.map Directive.describe)

end Filter

/-- The variable of the environment that holds log directives. -/
def logVariable : String := "BDASH_LOG"

end LedgerBoard
