import LedgerBoard.Duration.Reader
import LedgerBoard.Settings.Basic
import LedgerBoard.Settings.Error
import LedgerBoard.Text.Quoted

/-!
# Checking settings

Some settings are texts with a meaning of their own: an address and two durations. They are read
here, and `Settings.check` reports the first one that cannot be used.
-/

namespace LedgerBoard

def durationSetting (key text : String) : Except SettingsError Duration :=
  match Duration.read text with
  | .ok duration => .ok duration
  | .error cause => .error (.invalid key (Text.quoted text ++ ": " ++ cause.message))

/-- The interval of heart-beats that is offered. -/
def ServerSettings.interval (server : ServerSettings) : Except SettingsError Duration :=
  durationSetting "server.heartbeat" server.heartbeat

/-- Whether an address has one of the two schemes for sockets. -/
def isSocketAddress (url : String) : Bool :=
  url.startsWith "ws://" || url.startsWith "wss://"

def ServerSettings.checkUrl (server : ServerSettings) : Except SettingsError Unit :=
  if isSocketAddress server.url then .ok ()
  else
    .error (.invalid "server.url"
      ("expected a ws:// or wss:// URL, got " ++ Text.quoted server.url))

/-- The time between two drawings, which is not zero. -/
def DisplaySettings.interval (display : DisplaySettings) : Except SettingsError Duration := do
  let interval ← durationSetting "tui.tick_rate" display.tickRate
  if interval.nanoseconds = 0 then
    throw (.invalid "tui.tick_rate" "must be greater than zero")
  else return interval

/-- Checks every setting that is more than a text of any kind. -/
def Settings.check (settings : Settings) : Except SettingsError Unit := do
  settings.server.checkUrl
  let _ ← settings.server.interval
  let _ ← settings.display.interval

end LedgerBoard
