import LedgerBoard.Session.Basic
import LedgerBoard.Settings.Check

/-!
# Effective settings

A command may replace the address that the settings name. What it works with is checked as a whole
after that, so an address that is replaced need not be a good one.
-/

namespace LedgerBoard

/-- Settings with another address, if one is given. -/
def Settings.withUrl (settings : Settings) (url : Option String) : Settings :=
  match url with
  | some url => { settings with server.url := url }
  | none => settings

namespace Settings

variable (settings : Settings)

@[simp]
theorem withUrl_none : settings.withUrl none = settings := rfl

@[simp]
theorem withUrl_some (url : String) :
    settings.withUrl (some url) = { settings with server.url := url } := rfl

/-- The address of the settings counts where no other one is given. Everything else stays. -/
theorem withUrl_eq (url : Option String) :
    settings.withUrl url = { settings with server.url := url.getD settings.server.url } := by
  cases url with
  | none => rw [withUrl_none, Option.getD_none]
  | some url => rw [withUrl_some, Option.getD_some]

end Settings

/-- Settings that a command works with, and the plan of the sessions that it opens. -/
structure EffectiveSettings where
  settings : Settings
  plan : SessionPlan
  deriving DecidableEq, Repr

/-- Checks settings and plans the sessions with them. -/
def EffectiveSettings.of (settings : Settings) : Except SettingsError EffectiveSettings := do
  settings.check
  let heartbeat ← settings.server.interval
  return ⟨settings, .forServer settings.server.url heartbeat⟩

end LedgerBoard
