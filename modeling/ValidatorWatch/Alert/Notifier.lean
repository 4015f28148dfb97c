import ValidatorWatch.Alert.Notification
/-!
# Notifiers

A notifier takes messages for a channel. It may refuse one, fail, or not answer in time. How it
behaves is a function: what it says to a message, given how many it was sent before.
-/

namespace ValidatorWatch

/-- Why a message was not taken. -/
inductive NotifyError where
  | delivery (channel : String) (reason : String)
  | rejected (channel : String) (status : Nat)
  | timeout (channel : String)
  deriving DecidableEq, Inhabited

namespace NotifyError

/-- The words for it. -/
def message : NotifyError → String
  | .delivery channel reason => s!"{channel} delivery failed: {reason}"
  | .rejected channel status => s!"{channel} rejected message with status {status}"
  | .timeout channel => s!"{channel} delivery timed out"

end NotifyError

/-- Whether a message was taken. -/
abbrev Delivery := Except NotifyError Unit

/-- What a notifier says to its messages, counted from zero. -/
abbrev Notifier := Nat → Notification → Delivery

end ValidatorWatch
