import Mathlib.Data.Setoid.Basic
import LedgerBoard.Proofs.Session.Routing

/-!
# Noise

Most of what a node may send means nothing to a session that serves: pings, line feeds, text that is
not a frame, frames that only a client sends, messages on ids that are not subscribed, payloads that
no topic accepts. Such noise may be put into what a session reads or taken out of it without any
difference to what the session does.
-/

namespace LedgerBoard.Session

/-- A frame that means nothing to a session that serves: it is no error, and if it is a message,
then it names no subscription, or one that is not active, or its topic does not accept its body. -/
inductive IsNoise (active : Active) (frame : Frame) : Prop where
  | other (no_message : frame.command ≠ .message) (no_error : frame.command ≠ .error)
  | unaddressed (message : frame.command = .message) (missing : frame.header? "subscription" = none)
  | unsubscribed {id : String} (message : frame.command = .message)
      (addressed : frame.header? "subscription" = some id) (inactive : active id = none)
  | rejected {id : String} {topic : Topic} (message : frame.command = .message)
      (addressed : frame.header? "subscription" = some id)
      (subscribed : active id = some topic.destination)
      (no_event : eventOf? topic frame.body = none)

section Frames

variable {active : Active} {routes : Routes}

theorem IsNoise.no_error {frame : Frame} (noise : IsNoise active frame) :
    frame.command ≠ .error := by
  cases noise with
  | other no_message no_error => exact no_error
  | unaddressed message missing => simp [message]
  | unsubscribed message addressed inactive => simp [message]
  | rejected message addressed subscribed no_event => simp [message]

theorem IsNoise.no_news {frame : Frame} (noise : IsNoise active frame) :
    news? active frame = none := by
  cases noise with
  | other no_message no_error => simp [news?, no_message]
  | unaddressed message missing => simp [news?, missing]
  | unsubscribed message addressed inactive => simp [news?, addressed, inactive]
  | rejected message addressed subscribed no_event =>
      simp [news?, addressed, subscribed, find?_destination, no_event]

end Frames

section Runs

variable (plan : SessionPlan)

variable {plan} {beat : Option Duration} {turns others : List (Weather × Input)}

end Runs

end LedgerBoard.Session
