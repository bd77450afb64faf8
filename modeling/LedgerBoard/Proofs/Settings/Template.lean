import LedgerBoard.Proofs.Settings.Overlay

/-!
# The template sets every default

The settings template is a settings document that chooses each setting as its default, so that a
file with the template is loaded as the default settings.
-/

namespace LedgerBoard

open Toml

/-- Lines that each end in a line end are a document of what the lines say. -/
theorem Toml.linesText_join {meaning : String → List Statement} {lines : List String}
    (each : ∀ line ∈ lines, LineText (meaning line) line.toList) :
    LinesText (lines.flatMap meaning) (String.join (lines.map (· ++ "\n"))).toList := by
  induction lines with
  | nil => exact .last (.blank .nil (.inl rfl))
  | cons line lines ih =>
      obtain ⟨first, others⟩ := List.forall_mem_cons.mp each
      have text : (String.join ((line :: lines).map (· ++ "\n"))).toList =
          line.toList ++ (['\n'] ++ (String.join (lines.map (· ++ "\n"))).toList) := by
        simp [String.join_cons]
      rw [text, List.flatMap_cons]
      exact .more first (.inl rfl) (ih others)

/-- A line makes no statement when it is empty or starts with the mark of a comment. -/
theorem Toml.LineText.silent {line : List Char} (silent : line.head? = none ∨ line.head? = some '#')
    (plain : line.all (fun c => c = '\t' ∨ 0x20 ≤ c.toNat ∧ c.toNat ≠ 0x7F) = true) :
    LineText [] (String.ofList line).toList := by
  have comment : Comment line := by
    cases line with
    | nil => exact .inl rfl
    | cons first words =>
        rcases silent with ⟨⟨⟩⟩ | ⟨⟨⟩⟩
        refine .inr ⟨words, rfl, fun c mem => ?_⟩
        simpa [Plain] using List.all_eq_true.mp plain c (List.mem_cons_of_mem _ mem)
  rw [String.toList_ofList]
  exact .blank .nil comment

theorem Toml.LineText.section {name : String} (some_name : name ≠ "")
    (all_bare : ∀ c ∈ name.toList, Bare c) :
    LineText [.header [name]] ('[' :: (name.toList ++ [']'])) := by
  have key : KeyText [name] ([] ++ (name.toList ++ [])) :=
    .last .nil (.bare some_name all_bare) .nil
  rw [List.nil_append, List.append_nil] at key
  have line : LineText [.header [name]] ([] ++ ('[' :: (name.toList ++ [']']) ++ ([] ++ []))) :=
    .statement .nil (.header key (by simp [nestingLimit])) .nil (.inl rfl)
  simpa using line

/-- A key, an equals sign between single blanks and a value. -/
theorem Toml.LineText.setting {key : String} {scalar : Scalar} {written : List Char}
    (some_key : key ≠ "") (all_bare : ∀ c ∈ key.toList, Bare c)
    (scalar_text : ScalarText scalar written) :
    LineText [.assignment [key] (.scalar scalar)] (key.toList ++ ' ' :: '=' :: ' ' :: written) := by
  have blank : Gap [' '] := by simp [Gap]
  have key_text : KeyText [key] ([] ++ (key.toList ++ [' '])) :=
    .last .nil (.bare some_key all_bare) blank
  have line : LineText [.assignment [key] (.scalar scalar)]
      ([] ++ ([] ++ (key.toList ++ [' ']) ++ '=' :: ([' '] ++ written) ++ ([] ++ []))) :=
    .statement .nil (.assignment key_text (by simp [nestingLimit]) blank (.scalar scalar_text)) .nil
      (.inl rfl)
  simpa using line

/-- The statement that a line of the template makes, if it makes one. -/
def templateStatement : String → List Statement
  | "[server]" => [.header ["server"]]
  | "url = \"ws://127.0.0.1:8080\"" => [.assignment ["url"] (.scalar (.text "ws://127.0.0.1:8080"))]
  | "heartbeat = \"10s\"" => [.assignment ["heartbeat"] (.scalar (.text "10s"))]
  | "[tui]" => [.header ["tui"]]
  | "tick_rate = \"250ms\"" => [.assignment ["tick_rate"] (.scalar (.text "250ms"))]
  | "max_rows = 0" => [.assignment ["max_rows"] (.scalar (.integer 0))]
  | "[log]" => [.header ["log"]]
  | "level = \"info\"" => [.assignment ["level"] (.scalar (.text "info"))]
  | "file = \"\"" => [.assignment ["file"] (.scalar (.text ""))]
  | _ => []

def templateStatements : List Statement :=
  [.header ["server"], .assignment ["url"] (.scalar (.text "ws://127.0.0.1:8080")),
    .assignment ["heartbeat"] (.scalar (.text "10s")), .header ["tui"],
    .assignment ["tick_rate"] (.scalar (.text "250ms")),
    .assignment ["max_rows"] (.scalar (.integer 0)), .header ["log"],
    .assignment ["level"] (.scalar (.text "info")), .assignment ["file"] (.scalar (.text ""))]

theorem templateLines_flatMap : templateLines.flatMap templateStatement = templateStatements := by
  simp [templateLines, templateStatement, templateStatements]

/-- Every line of the template is written as what it stands for: nine are statements, and all others
are silent. -/
theorem templateLines_text :
    ∀ line ∈ templateLines, LineText (templateStatement line) line.toList := by
  have quoted {value : String} (plain : ∀ c ∈ value.toList, Plain c ∧ c ≠ '"' ∧ c ≠ '\\') :
      ScalarText (.text value) ('"' :: (value.toList ++ ['"'])) :=
    .text
      (.short .basic
        (.of_plain fun c mem => ⟨(plain c mem).1, (plain c mem).2.1, fun _ => (plain c mem).2.2⟩))
  have whole : WholeText [0] ['0'] := ⟨.one (by decide) (by decide), by simp⟩
  have zero : ScalarText (.integer 0) ['0'] :=
    .integer (.decimal .absent whole (by decide) (by decide))
  simp only [templateLines, List.forall_mem_cons, List.not_mem_nil, IsEmpty.forall_iff,
    implies_true, and_true]
  and_intros
  all_goals unfold templateStatement
  all_goals try exact .silent (by decide) (by decide +kernel)
  · exact .section (by decide : "server" ≠ "") (by simp [Bare])
  · exact .setting (by decide : "url" ≠ "") (by simp [Bare]) (quoted (by simp [Plain]))
  · exact .setting (by decide : "heartbeat" ≠ "") (by simp [Bare]) (quoted (by simp [Plain]))
  · exact .section (by decide : "tui" ≠ "") (by simp [Bare])
  · exact .setting (by decide : "tick_rate" ≠ "") (by simp [Bare]) (quoted (by simp [Plain]))
  · exact .setting (by decide : "max_rows" ≠ "") (by simp [Bare]) zero
  · exact .section (by decide : "log" ≠ "") (by simp [Bare])
  · exact .setting (by decide : "level" ≠ "") (by simp [Bare]) (quoted (by simp [Plain]))
  · exact .setting (by decide : "file" ≠ "") (by simp [Bare]) (quoted (by simp [Plain]))

/-- The template is a document. -/
theorem settingsTemplate_document : DocumentText templateStatements settingsTemplate.toList := by
  rw [← templateLines_flatMap]
  exact .inl (linesText_join templateLines_text)

/-- Every setting is chosen as its default. -/
def Choice.defaults : Choice where
  url := some "ws://127.0.0.1:8080"
  heartbeat := some "10s"
  tickRate := some "250ms"
  maxRows := some 0
  level := some .info
  file := some ""

/-- The template sets every setting to its default. -/
theorem templateStatements_exact : Choice.defaults.SetExactly templateStatements := by
  constructor <;> decide

/-- What the template says is what holds without a file. -/
theorem ofOctets_settingsTemplate (path : Path) :
    Settings.ofOctets path settingsTemplate.toUTF8.toList = .ok {} := by
  obtain ⟨tree, made⟩ := Option.isSome_iff_exists.mp (by decide : (tree? templateStatements).isSome)
  rw [templateStatements_exact.ofOctets settingsTemplate_document made]
  rfl

end LedgerBoard
