import ValidatorWatch.Alert.Category
import ValidatorWatch.Validator.Observation
import ValidatorWatch.Validator.Verdict
/-!
# Alert events

An event is what a check has to tell. It carries the figures of its moment, so that a message can be
written from the event alone, now or on a later try.
-/

namespace ValidatorWatch

open Time (Instant)

/-- What happened between two extended reports. -/
structure ExtendedReport where
  windowStarted : Instant
  windowEnded : Instant
  checks : Nat
  healthyChecks : Nat
  failedChecks : Nat
  downEpisodes : Nat
  availability : Option Float
  verdict : Verdict
  consecutiveFailures : Nat
  inActiveSet : Option Bool
  uptime : Option UptimeData
  resources : ResourceUsage
  deriving DecidableEq, Inhabited

/-- Something to tell about a validator. -/
structure AlertEvent where
  validator : String
  severity : Severity
  category : Category
  summary : String
  height : Option Nat
  peers : Option Nat
  uptimePercent : Option Float
  thresholdCrossed : Option String
  report : Option ExtendedReport
  time : Instant
  deriving DecidableEq, Inhabited

end ValidatorWatch
