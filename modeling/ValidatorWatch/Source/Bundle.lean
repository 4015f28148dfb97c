import ValidatorWatch.Source.Error
import ValidatorWatch.Validator.Observation
/-!
# What the sources answered

One check asks up to five sources: the node itself, its host, its RPC endpoint and two services that
watch the network. A bundle holds their answers as they came.
-/

namespace ValidatorWatch

open Time (Instant)

/-- Figures of the node itself. -/
structure NodeMetrics where
  height : Option Nat := none
  peers : Option Nat := none
  executionLagging : Option Nat := none
  timestampFailures : Option Nat := none
  deriving DecidableEq, Inhabited

/-- What a service knows about a validator, and when it was asked. -/
structure UptimeReport where
  source : UptimeSource
  percent : Option Float
  finalized : Option Nat
  timeouts : Option Nat
  inActiveSet : Option Bool
  fetchedAt : Instant
  deriving DecidableEq, Inhabited

/-- An answer, or why there is none. -/
abbrev Answer (α : Type) := Except SourceError α

/-- The answers of all sources at one check. A source that is not configured has no entry. -/
structure Bundle where
  node : Answer NodeMetrics
  resources : Option (Answer ResourceUsage)
  rpc : Option (Answer Bool)
  primary : Option (Answer UptimeReport)
  secondary : Option (Answer UptimeReport)
  collectedAt : Instant

namespace Bundle

/-- What there is after a check that took too long. -/
def timedOut (seconds : Nat) (collectedAt : Instant) : Bundle where
  node := .error (.timeout "probe" seconds)
  resources := none
  rpc := none
  primary := none
  secondary := none
  collectedAt := collectedAt

end Bundle

end ValidatorWatch
