import LedgerBoard.Files.Path

/-!
# Invocations

The words of a command line name a command and its options. `Invocation.read` finds out what is
asked for; `Usage` says what to tell the user where nothing is.
-/

namespace LedgerBoard

/-- The options of a command that talks to a node. -/
structure NodeOptions where
  /-- The address to use in place of the one in the settings. -/
  url : Option String
  /-- The settings file to use in place of the usual one. -/
  settings : Option Path
  deriving DecidableEq, Repr

/-- What a command line asks for. -/
inductive Invocation where
  | board (options : NodeOptions)
  | watch (options : NodeOptions)
  | createSettings (force : Bool)
  | showSettingsPath
  | checkSettings (path : Option Path)
  deriving DecidableEq, Repr

/-- What the user is told in place of doing a command. -/
inductive Usage where
  | help
  | version
  /-- The command line cannot be understood. -/
  | fault
  deriving DecidableEq, Repr

/-- The form of a word among the options of a command. -/
inductive Word where
  /-- The mark behind which no option follows. -/
  | stop
  | help
  /-- An option, and what stands behind an equals sign in the same word. -/
  | named (name : String) (attached : Option String)
  | other
  deriving DecidableEq, Repr

namespace Word

def ofChars : List Char → Word
  | ['-', '-'] => stop
  | '-' :: '-' :: text =>
      let name := String.ofList (text.takeWhile (· ≠ '='))
      match text.dropWhile (· ≠ '=') with
      | _ :: value => named name (some (String.ofList value))
      | [] => if name = "help" then help else named name none
  | '-' :: 'h' :: _ => help
  | _ => other

/-- Whether a word may be the value of the option before it. A lone hyphen may. -/
def isValue (word : String) : Bool :=
  match word.toList with
  | '-' :: _ :: _ => false
  | _ => true

end Word

/-- The options that a command knows: those with a value, and those without one. -/
structure KnownOptions where
  valued : List String := []
  plain : List String := []

/-- The options that were given, each at most once. -/
structure GivenOptions where
  values : List (String × String) := []
  plain : List String := []
  deriving DecidableEq, Repr

namespace GivenOptions

def value? (given : GivenOptions) (name : String) : Option String :=
  given.values.lookup name

def addPlain (known : KnownOptions) (name : String) (given : GivenOptions) :
    Except Usage GivenOptions :=
  if known.plain.contains name && !given.plain.contains name then
    .ok { given with plain := name :: given.plain }
  else .error .fault

def addValue (known : KnownOptions) (name value : String) (given : GivenOptions) :
    Except Usage GivenOptions :=
  if known.valued.contains name && (given.value? name).isNone then
    .ok { given with values := (name, value) :: given.values }
  else .error .fault

/-- Reads options up to the end of the command line. -/
def read (known : KnownOptions) (given : GivenOptions) : List String → Except Usage GivenOptions
  | [] => .ok given
  | word :: rest =>
      match Word.ofChars word.toList with
      | .stop => if rest.isEmpty then .ok given else .error .fault
      | .help => .error .help
      | .other => .error .fault
      | .named name (some value) =>
          match given.addValue known name value with
          | .ok next => read known next rest
          | .error usage => .error usage
      | .named name none =>
          if known.plain.contains name then
            match given.addPlain known name with
            | .ok next => read known next rest
            | .error usage => .error usage
          else
            match rest with
            | [] => .error .fault
            | value :: rest =>
                if Word.isValue value then
                  match given.addValue known name value with
                  | .ok next => read known next rest
                  | .error usage => .error usage
                else .error .fault

/-- The path that an option names. An empty path is a fault. -/
def path? (given : GivenOptions) (name : String) : Except Usage (Option Path) :=
  match given.value? name with
  | none => .ok none
  | some text => if text.isEmpty then .error .fault else .ok (some ⟨text⟩)

end GivenOptions

namespace NodeOptions

/-- The options of a command that talks to a node. -/
def known : KnownOptions := { valued := ["url", "config"] }

/-- Reads the options of a command that talks to a node. -/
def read (words : List String) : Except Usage NodeOptions := do
  let given ← GivenOptions.read known {} words
  return ⟨given.value? "url", ← given.path? "config"⟩

end NodeOptions

namespace Invocation

def program : String := "bdash"

def version : String := "0.1.0"

/-- What a word says that stands where a command is expected. -/
def usageOf (known : List Char) (word : String) : Usage :=
  match word.toList with
  | '-' :: 'h' :: _ => if known.contains 'h' then .help else .fault
  | '-' :: 'V' :: _ => if known.contains 'V' then .version else .fault
  | _ =>
      if word = "--help" then .help
      else if word = "--version" && known.contains 'V' then .version
      else .fault

/-- Whether help can be asked for about the commands inside the settings command. -/
def isSettingsTopic : List String → Bool
  | [] => true
  | [word] => ["init", "path", "validate", "help"].contains word
  | _ => false

/-- Whether help can be asked for about words. -/
def isTopic : List String → Bool
  | [] => true
  | "config" :: words => isSettingsTopic words
  | [word] => ["tui", "watch", "help"].contains word
  | _ => false

/-- Reads what follows the word for commands on the settings. -/
def readSettings : List String → Except Usage Invocation
  | [] => .error .fault
  | "init" :: words => do
      let given ← GivenOptions.read { plain := ["force"] } {} words
      return .createSettings (given.plain.contains "force")
  | "path" :: words => do
      let _ ← GivenOptions.read {} {} words
      return .showSettingsPath
  | "validate" :: words => do
      let given ← GivenOptions.read { valued := ["config"] } {} words
      return .checkSettings (← given.path? "config")
  | "help" :: words => .error (if isSettingsTopic words then .help else .fault)
  | word :: _ => .error (usageOf ['h'] word)

def read : List String → Except Usage Invocation
  | [] => .error .fault
  | "tui" :: words => do return .board (← NodeOptions.read words)
  | "watch" :: words => do return .watch (← NodeOptions.read words)
  | "config" :: words => readSettings words
  | "help" :: words => .error (if isTopic words then .help else .fault)
  | word :: _ => .error (usageOf ['h', 'V'] word)

end Invocation

end LedgerBoard
