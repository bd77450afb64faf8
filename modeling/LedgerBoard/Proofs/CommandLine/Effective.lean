import Mathlib.Logic.Basic
import LedgerBoard.CommandLine.Job
import LedgerBoard.Proofs.Files.World
import LedgerBoard.Proofs.Outcome

/-!
# Settings that a command works with

A command loads its settings, puts the address of its command line into them and checks the result.
It goes on exactly if nothing is wrong with them then, and otherwise it reports the first thing that
is. The durations are read again later on, which cannot fail any more: after the log file is open,
the dashboard is shown.
-/

namespace LedgerBoard

/-- The settings that are more than a text of any kind. -/
inductive CheckedSetting where
  | url
  | heartbeat
  | tickRate
  deriving DecidableEq, Repr

namespace CheckedSetting

def key : CheckedSetting → String
  | url => "server.url"
  | heartbeat => "server.heartbeat"
  | tickRate => "tui.tick_rate"

/-- The order in which settings are checked. -/
def inOrder : List CheckedSetting := [url, heartbeat, tickRate]

end CheckedSetting

namespace Settings

/-- A setting that cannot be used, and the reason. -/
inductive Fault (settings : Settings) : CheckedSetting → String → Prop where
  | address (not_plain : ¬"ws://".toList <+: settings.server.url.toList)
      (not_secure : ¬"wss://".toList <+: settings.server.url.toList) :
      Fault settings .url
        ("expected a ws:// or wss:// URL, got " ++ Text.quoted settings.server.url)
  | heartbeat {cause : DurationError}
      (unread : Duration.read settings.server.heartbeat = .error cause) :
      Fault settings .heartbeat (Text.quoted settings.server.heartbeat ++ ": " ++ cause.message)
  | tickRate {cause : DurationError}
      (unread : Duration.read settings.display.tickRate = .error cause) :
      Fault settings .tickRate (Text.quoted settings.display.tickRate ++ ": " ++ cause.message)
  | noTime {interval : Duration} (read : Duration.read settings.display.tickRate = .ok interval)
      (zero : interval.nanoseconds = 0) : Fault settings .tickRate "must be greater than zero"

/-- A fault without another one at a setting that is checked before. -/
def FirstFault (settings : Settings) (setting : CheckedSetting) (reason : String) : Prop :=
  settings.Fault setting reason ∧
    ∀ earlier ∈ CheckedSetting.inOrder.takeWhile (· ≠ setting), ∀ other,
      ¬settings.Fault earlier other

/-- A check of one setting fails exactly with the faults of that setting. -/
def Finds {α : Type} (settings : Settings) (setting : CheckedSetting)
    (outcome : Except SettingsError α) : Prop :=
  ∀ cause, outcome = .error cause ↔
    ∃ reason, settings.Fault setting reason ∧ cause = .invalid setting.key reason

variable {settings : Settings} {cause : SettingsError}

/-- A setting can be used if nothing is wrong with it. -/
theorem Finds.exists_ok_iff {α : Type} {setting : CheckedSetting} {outcome : Except SettingsError α}
    (finds : settings.Finds setting outcome) :
    (∃ value, outcome = .ok value) ↔ ∀ reason, ¬settings.Fault setting reason := by
  constructor
  · rintro ⟨value, rfl⟩ reason fault
    cases (finds _).mpr ⟨reason, fault, rfl⟩
  · intro none
    cases outcome with
    | ok value => exact ⟨value, rfl⟩
    | error cause =>
        obtain ⟨reason, fault, -⟩ := (finds cause).mp rfl
        exact absurd fault (none reason)

/-- The check of the address finds what is wrong with it. -/
theorem finds_checkUrl (settings : Settings) : settings.Finds .url settings.server.checkUrl := by
  intro cause
  rw [ServerSettings.checkUrl]
  constructor
  · split
    · nofun
    · rename_i other
      simp only [isSocketAddress, Bool.or_eq_true, String.startsWith_string_iff, not_or] at other
      rintro ⟨⟩
      exact ⟨_, .address other.1 other.2, rfl⟩
  · rintro ⟨_, ⟨not_plain, not_secure⟩, rfl⟩
    have other : ¬isSocketAddress settings.server.url = true := by
      simp only [isSocketAddress, Bool.or_eq_true, String.startsWith_string_iff, not_or]
      exact ⟨not_plain, not_secure⟩
    rw [if_neg other]
    rfl

/-- The fault of a duration that cannot be read names its key and quotes its text. -/
theorem durationSetting_eq_error_iff {key text : String} : durationSetting key text = .error cause ↔
    ∃ fault, Duration.read text = .error fault ∧
    cause = .invalid key (Text.quoted text ++ ": " ++ fault.message) := by
  rw [durationSetting]
  cases Duration.read text with
  | ok interval => simp
  | error fault => simp [eq_comm]

theorem durationSetting_eq_ok_iff {key text : String} {interval : Duration} :
    durationSetting key text = .ok interval ↔ Duration.read text = .ok interval := by
  rw [durationSetting]
  cases Duration.read text <;> simp

theorem finds_heartbeat (settings : Settings) :
    settings.Finds .heartbeat settings.server.interval := by
  intro cause
  rw [ServerSettings.interval, durationSetting_eq_error_iff]
  constructor
  · rintro ⟨fault, unread, rfl⟩
    exact ⟨_, .heartbeat unread, rfl⟩
  · rintro ⟨_, fault, rfl⟩
    cases fault with
    | heartbeat unread => exact ⟨_, unread, rfl⟩

/-- The time between two drawings is one that was read, and is not zero. -/
theorem displayInterval_eq_ok_iff {display : DisplaySettings} {interval : Duration} :
    display.interval = .ok interval ↔
    Duration.read display.tickRate = .ok interval ∧ 0 < interval.nanoseconds := by
  rw [DisplaySettings.interval, Outcome.bind_eq_ok_iff]
  constructor
  · rintro ⟨value, read, rest⟩
    split at rest
    · cases rest
    · cases rest
      exact ⟨durationSetting_eq_ok_iff.mp read, by omega⟩
  · rintro ⟨read, some_time⟩
    refine ⟨interval, durationSetting_eq_ok_iff.mpr read, ?_⟩
    rw [if_neg (by omega)]
    rfl

theorem finds_tickRate (settings : Settings) :
    settings.Finds .tickRate settings.display.interval := by
  intro cause
  rw [DisplaySettings.interval, Outcome.bind_eq_error_iff]
  constructor
  · rintro (failed | ⟨value, read, rest⟩)
    · obtain ⟨fault, unread, rfl⟩ := durationSetting_eq_error_iff.mp failed
      exact ⟨_, .tickRate unread, rfl⟩
    · split at rest
      case isTrue zero =>
        cases rest
        exact ⟨_, .noTime (durationSetting_eq_ok_iff.mp read) zero, rfl⟩
      case isFalse => cases rest
  · rintro ⟨_, fault, rfl⟩
    cases fault with
    | tickRate unread => exact .inl (durationSetting_eq_error_iff.mpr ⟨_, unread, rfl⟩)
    | noTime read zero =>
        refine .inr ⟨_, durationSetting_eq_ok_iff.mpr read, ?_⟩
        rw [if_pos zero]
        rfl

/-- Settings can be used if each of the three that are checked can. -/
theorem check_eq_ok_iff : settings.check = .ok () ↔
    settings.server.checkUrl = .ok () ∧ (∃ interval, settings.server.interval = .ok interval) ∧
      ∃ interval, settings.display.interval = .ok interval := by
  simp only [check, Outcome.bind_eq_ok_iff]
  constructor
  · rintro ⟨⟨⟩, url, heartbeat, read, tick, read_tick, -⟩
    exact ⟨url, ⟨heartbeat, read⟩, tick, read_tick⟩
  · rintro ⟨url, ⟨heartbeat, read⟩, tick, read_tick⟩
    exact ⟨(), url, heartbeat, read, tick, read_tick, rfl⟩

/-- Checking settings reports their first fault. -/
theorem check_eq_error_iff :
    settings.check = .error cause ↔
      ∃ setting reason, settings.FirstFault setting reason ∧
      cause = .invalid setting.key reason := by
  have url := finds_checkUrl settings
  have heartbeat := finds_heartbeat settings
  have tick := finds_tickRate settings
  simp only [check, Outcome.bind_eq_error_iff]
  constructor
  · rintro (at_url | ⟨⟨⟩, url_ok, at_heartbeat | ⟨interval, heartbeat_ok, at_tick | ⟨-, -, ⟨⟩⟩⟩⟩)
    · obtain ⟨reason, fault, rfl⟩ := (url cause).mp at_url
      exact ⟨_, _, ⟨fault, by simp [CheckedSetting.inOrder]⟩, rfl⟩
    · obtain ⟨reason, fault, rfl⟩ := (heartbeat cause).mp at_heartbeat
      have no_url := url.exists_ok_iff.mp ⟨_, url_ok⟩
      exact ⟨_, _, ⟨fault, by simpa [CheckedSetting.inOrder] using no_url⟩, rfl⟩
    · obtain ⟨reason, fault, rfl⟩ := (tick cause).mp at_tick
      have no_url := url.exists_ok_iff.mp ⟨_, url_ok⟩
      have no_heartbeat := heartbeat.exists_ok_iff.mp ⟨_, heartbeat_ok⟩
      exact ⟨_, _, ⟨fault, by simpa [CheckedSetting.inOrder] using ⟨no_url, no_heartbeat⟩⟩, rfl⟩
  · rintro ⟨setting, reason, ⟨fault, first⟩, rfl⟩
    have there := fault
    cases fault with
    | address => exact .inl ((url _).mpr ⟨_, there, rfl⟩)
    | heartbeat =>
        obtain ⟨⟨⟩, url_ok⟩ := url.exists_ok_iff.mpr (first _ (by simp [CheckedSetting.inOrder]))
        exact .inr ⟨_, url_ok, .inl ((heartbeat _).mpr ⟨_, there, rfl⟩)⟩
    | tickRate | noTime =>
        obtain ⟨⟨⟩, url_ok⟩ := url.exists_ok_iff.mpr (first _ (by simp [CheckedSetting.inOrder]))
        obtain ⟨interval, heartbeat_ok⟩ :=
          heartbeat.exists_ok_iff.mpr (first _ (by simp [CheckedSetting.inOrder]))
        exact .inr ⟨_, url_ok, .inr ⟨interval, heartbeat_ok, .inl ((tick _).mpr ⟨_, there, rfl⟩)⟩⟩

end Settings

namespace EffectiveSettings

variable {settings : Settings} {found : EffectiveSettings} {cause : SettingsError}

/-- Effective settings are the settings that were checked, with the plan that follows from them. -/
theorem of_eq_ok_iff : of settings = .ok found ↔ settings.check = .ok () ∧
    ∃ heartbeat, settings.server.interval = .ok heartbeat ∧
      found = ⟨settings, .forServer settings.server.url heartbeat⟩ := by
  simp only [of, Outcome.bind_eq_ok_iff]
  constructor
  · rintro ⟨⟨⟩, checked, heartbeat, read, ⟨⟩⟩
    exact ⟨checked, heartbeat, read, rfl⟩
  · rintro ⟨checked, heartbeat, read, rfl⟩
    exact ⟨(), checked, heartbeat, read, rfl⟩

theorem exists_of_eq_ok_iff : (∃ found, of settings = .ok found) ↔ settings.check = .ok () := by
  simp only [of_eq_ok_iff]
  constructor
  · rintro ⟨_, checked, -⟩
    exact checked
  · intro checked
    obtain ⟨-, ⟨heartbeat, read⟩, -⟩ := Settings.check_eq_ok_iff.mp checked
    exact ⟨_, checked, heartbeat, read, rfl⟩

/-- Only the check can fail: the heart-beats were read there already. -/
theorem of_eq_error_iff : of settings = .error cause ↔ settings.check = .error cause := by
  simp only [of, Outcome.bind_eq_error_iff]
  constructor
  · rintro (unfit | ⟨⟨⟩, checked, unread | ⟨-, -, ⟨⟩⟩⟩)
    · exact unfit
    · obtain ⟨-, ⟨heartbeat, read⟩, -⟩ := Settings.check_eq_ok_iff.mp checked
      rw [read] at unread
      cases unread
  · exact .inl

end EffectiveSettings

namespace Job

variable {world : World} {environment : Environment} {options : NodeOptions}

/-- Loading changes nothing on the disk. -/
theorem run_load (world : World) (environment : Environment) (path : Option Path) :
    ((Settings.load World.disk environment path).run world).2 = world := by
  have loadFile (path : Path) : ((Settings.loadFile World.disk path).run world).2 = world := by
    simp only [Settings.loadFile, World.run_bind]
    split <;> rfl
  cases path with
  | some path => exact loadFile path
  | none =>
      rw [Settings.load, World.run_bind, World.run_isPresent]
      dsimp only
      split
      · exact loadFile _
      · rfl

/-- Finding the effective settings changes nothing on the disk. -/
theorem run_effective (world : World) (environment : Environment) (options : NodeOptions) :
    (effective World.disk environment options).run world =
      (((Settings.load World.disk environment options.settings).run world).1.bind fun settings =>
        EffectiveSettings.of (settings.withUrl options.url), world) := by
  rw [effective, World.run_bind, run_load]
  rfl

/-- The effective settings come from the file that was loaded, after the address was replaced. -/
theorem effective_eq_ok_iff {found : EffectiveSettings} :
    ((effective World.disk environment options).run world).1 = .ok found ↔
      ∃ settings, ((Settings.load World.disk environment options.settings).run world).1 =
        .ok settings ∧
        EffectiveSettings.of (settings.withUrl options.url) = .ok found := by
  rw [run_effective]
  exact Outcome.bind_eq_ok_iff

/-- What is wrong is wrong with loading, or with the settings after the address was replaced. -/
theorem effective_eq_error_iff {cause : SettingsError} :
    ((effective World.disk environment options).run world).1 = .error cause ↔
      ((Settings.load World.disk environment options.settings).run world).1 = .error cause ∨
        ∃ settings, ((Settings.load World.disk environment options.settings).run world).1 =
          .ok settings ∧
          (settings.withUrl options.url).check = .error cause := by
  rw [run_effective]
  simp only [← EffectiveSettings.of_eq_error_iff]
  exact Outcome.bind_eq_error_iff

/-- What becomes of the dashboard once its log file is open, or cannot be opened. -/
def boardWithLog (found : EffectiveSettings) (interval : Duration) (log : Path) :
    Except FileError Unit → Job
  | .error _ => .done (.failure "" ("Error: failed to open log file " ++ log.text))
  | .ok _ => .board found.plan found.settings.display.rowCap interval

/-- With effective settings in which the time between two drawings can be read, the dashboard is
shown as soon as the log file is open. -/
theorem run_prepareBoard {found : EffectiveSettings} {interval : Duration}
    (resolved : ((effective World.disk environment options).run world).1 = .ok found)
    (read : found.settings.display.interval = .ok interval) :
    let log := environment.logPath found.settings.log
    ((prepareBoard World.disk environment options).run world).1 =
      boardWithLog found interval log ((openLog World.disk log).run world).1 := by
  intro log
  have ran : (effective World.disk environment options).run world = (.ok found, world) := by
    rw [← resolved, run_effective]
  rw [prepareBoard, World.run_bind, ran, withSettings, World.run_bind]
  cases opened : ((openLog World.disk log).run world).1 with
  | error cause => rfl
  | ok => rw [read]; rfl

/-- The settings that a command works with are there exactly if the settings file is loaded and
nothing is wrong with its settings once the address of the command line, if there is one, stands in
the place of theirs. Otherwise the file cannot be loaded, or the first setting is reported that is
wrong. Then the sessions go to the endpoint of the effective address with the effective heart-beats,
and after the log file was opened, the dashboard is shown at an interval that is not zero: no
reading of it fails any more. Where an address is given, the one in the file does not matter. -/
theorem effective_settings_stay_usable (world : World) (environment : Environment)
    (options : NodeOptions) :
    let loaded := ((Settings.load World.disk environment options.settings).run world).1
    let resolved := ((effective World.disk environment options).run world).1
    let job := ((prepareBoard World.disk environment options).run world).1
    let overridden := fun settings : Settings =>
      { settings with server.url := options.url.getD settings.server.url }
    ((∃ found, resolved = .ok found) ↔
        ∃ settings, loaded = .ok settings ∧ (overridden settings).check = .ok ()) ∧
      (∀ cause, resolved = .error cause ↔ loaded = .error cause ∨
        ∃ settings setting reason, loaded = .ok settings ∧
          (overridden settings).FirstFault setting reason ∧ cause = .invalid setting.key reason) ∧
      (∀ found, resolved = .ok found → ∃ settings interval, loaded = .ok settings ∧
        found.settings = overridden settings ∧
        found.plan.url = Address.endpoint found.settings.server.url ∧
        found.settings.server.interval = .ok found.plan.heartbeat ∧
        found.settings.display.interval = .ok interval ∧ 0 < interval.nanoseconds ∧
        let log := environment.logPath found.settings.log
        job = boardWithLog found interval log ((openLog World.disk log).run world).1) ∧
      (∀ other url, options.url.isSome →
        ((Settings.load World.disk environment options.settings).run other).1 =
          loaded.map (fun settings => { settings with server.url := url }) →
        ((effective World.disk environment options).run other).1 = resolved) := by
  intro loaded resolved job overridden
  have override (settings : Settings) : settings.withUrl options.url = overridden settings :=
    settings.withUrl_eq options.url
  refine ⟨?_, ?_, ?_, ?_⟩
  · constructor
    · rintro ⟨found, ok⟩
      obtain ⟨settings, load, of⟩ := effective_eq_ok_iff.mp ok
      rw [override] at of
      exact ⟨settings, load, EffectiveSettings.exists_of_eq_ok_iff.mp ⟨found, of⟩⟩
    · rintro ⟨settings, load, checked⟩
      obtain ⟨found, of⟩ := EffectiveSettings.exists_of_eq_ok_iff.mpr checked
      rw [← override] at of
      exact ⟨found, effective_eq_ok_iff.mpr ⟨settings, load, of⟩⟩
  · intro cause
    have fails : resolved = .error cause ↔ loaded = .error cause ∨
        ∃ settings, loaded = .ok settings ∧ (settings.withUrl options.url).check = .error cause :=
      effective_eq_error_iff
    simpa only [override, Settings.check_eq_error_iff, exists_and_left, and_assoc] using fails
  · intro found ok
    obtain ⟨settings, load, of⟩ := effective_eq_ok_iff.mp ok
    rw [override] at of
    obtain ⟨checked, heartbeat, read, rfl⟩ := EffectiveSettings.of_eq_ok_iff.mp of
    obtain ⟨-, -, interval, read_tick⟩ := Settings.check_eq_ok_iff.mp checked
    have some_time := (Settings.displayInterval_eq_ok_iff.mp read_tick).2
    exact ⟨settings, interval, load, rfl, rfl, read, read_tick, some_time,
      run_prepareBoard ok read_tick⟩
  · intro other url given load
    have resolved_eq :
        resolved = loaded.bind fun settings => EffectiveSettings.of (overridden settings) := by
      simp only [resolved, run_effective, override]
      rfl
    obtain ⟨replacement, chosen⟩ := Option.isSome_iff_exists.mp given
    rw [run_effective, load, resolved_eq]
    simp only [overridden, chosen]
    cases loaded <;> rfl

/-- An address that is given takes the place of one in the file that could not be used. -/
theorem effective_settings_stay_usable_with_url :
    let text := "[server]\nurl = 'http://node'\nheartbeat = '2s'\n[tui]\ntick_rate = '1s'"
    let world : World := ⟨.directory 0 [("c", .file 0 text.toUTF8.toList)], []⟩
    let environment : Environment := ⟨[("XDG_RUNTIME_DIR", "")], none⟩
    let options : NodeOptions := ⟨some "ws://other:1", some ⟨"c"⟩⟩
    let loaded : Settings := { server := ⟨"http://node", "2s"⟩, display := { tickRate := "1s" } }
    let chosen : Settings := { loaded with server := ⟨"ws://other:1", "2s"⟩ }
    let found : EffectiveSettings := ⟨chosen, ⟨"ws://other:1/ws", .ofParts 2 0⟩⟩
    ((Settings.load World.disk environment options.settings).run world).1 = .ok loaded ∧
      loaded.check = .error (.invalid "server.url"
        "expected a ws:// or wss:// URL, got \"http://node\"") ∧
      ((effective World.disk environment options).run world).1 = .ok found ∧
      ((prepareBoard World.disk environment options).run world).1 =
        .board found.plan none (.ofParts 1 0) := by
  intro text world environment options loaded chosen found
  have load :
      ((Settings.load World.disk environment options.settings).run world).1 = .ok loaded := by
    decide +kernel
  have unusable : loaded.check = .error (.invalid "server.url"
      "expected a ws:// or wss:// URL, got \"http://node\"") := by decide +kernel
  have usable := effective_settings_stay_usable world environment options
  obtain ⟨effective, resolved⟩ := usable.1.mpr ⟨loaded, load, by decide +kernel⟩
  obtain ⟨settings, interval, load_again, same, address, beats, ticks, -, shown⟩ :=
    usable.2.2.1 effective resolved
  cases load.symm.trans load_again
  have two_seconds : chosen.server.interval = .ok (.ofParts 2 0) := by decide +kernel
  have one_second : chosen.display.interval = .ok (.ofParts 1 0) := by decide +kernel
  have endpoint : Address.endpoint chosen.server.url = "ws://other:1/ws" := by decide +kernel
  rcases effective with ⟨effective, ⟨url, heartbeat⟩⟩
  have settings_eq : effective = chosen := same
  subst settings_eq
  have url_eq : url = "ws://other:1/ws" := address.trans endpoint
  have heartbeat_eq : heartbeat = .ofParts 2 0 := Except.ok.inj (beats.symm.trans two_seconds)
  have interval_eq : interval = .ofParts 1 0 := Except.ok.inj (ticks.symm.trans one_second)
  rw [url_eq, heartbeat_eq] at resolved shown
  rw [interval_eq] at shown
  refine ⟨load, unusable, resolved, shown.trans ?_⟩
  decide +kernel

end Job

end LedgerBoard
