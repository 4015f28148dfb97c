import ValidatorWatch.Alert.Ledger
import ValidatorWatch.Decimal.Binary
/-!
# The state of a validator

What is kept between two checks of a validator: its verdict, the length of the failing streak, the
last known figures, the alert ledger, and the counts since the last extended report.
-/

namespace ValidatorWatch

open Time (Instant)

/-- Counts since the last extended report. -/
structure UptimeWindow where
  startedAt : Instant
  checks : Nat
  healthyChecks : Nat
  failedChecks : Nat
  downEpisodes : Nat
  deriving DecidableEq, Inhabited

namespace UptimeWindow

/-- A window in which nothing happened yet. -/
def fresh (startedAt : Instant) : UptimeWindow :=
  ⟨startedAt, 0, 0, 0, 0⟩

/-- The share of healthy checks in percent, at two decimal places; unknown before the first
check. -/
def availability (w : UptimeWindow) : Option Float :=
  if w.checks = 0 then none else some (Decimal.percentOf w.healthyChecks w.checks)

end UptimeWindow

/-- What is kept of a validator between two checks. -/
structure State where
  verdict : Verdict
  consecutiveFailures : Nat
  lastHeight : Option Nat
  lastHeightChange : Option Instant
  lastPeers : Option Nat
  inActiveSet : Option Bool
  lastObservation : Option Instant
  lastReachable : Bool
  resourceLevel : ResourceLevel
  lastResources : ResourceUsage
  lastTimeouts : Option Nat
  lastUptime : Option UptimeData
  unverified : Bool
  confidence : Confidence
  rpcHealthy : Option Bool
  downSince : Option Instant
  lastExecutionLagging : Option Nat
  lastTimestampFailures : Option Nat
  resourceUnknownTicks : Nat
  notes : List String
  ledger : AlertLedger
  window : UptimeWindow
  deriving DecidableEq, Inhabited

namespace State

/-- Before the first check: nothing is known and nothing is wrong. -/
def fresh (t : Instant) : State where
  verdict := .active
  consecutiveFailures := 0
  lastHeight := none
  lastHeightChange := none
  lastPeers := none
  inActiveSet := none
  lastObservation := none
  lastReachable := false
  resourceLevel := .normal
  lastResources := {}
  lastTimeouts := none
  lastUptime := none
  unverified := false
  confidence := .low
  rpcHealthy := none
  downSince := none
  lastExecutionLagging := none
  lastTimestampFailures := none
  resourceUnknownTicks := 0
  notes := []
  ledger := {}
  window := .fresh t

end State

end ValidatorWatch
