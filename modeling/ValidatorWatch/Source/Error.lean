/-!
# Failures of a source

A source of figures can fail in six ways. None of them stops a check: the figures are unknown then.
-/

namespace ValidatorWatch

/-- Why a source has no answer. -/
inductive SourceError where
  | timeout (source : String) (seconds : Nat)
  | unreachable (source : String) (reason : String)
  | malformed (source : String) (reason : String)
  | rateLimited (source : String)
  | circuitOpen (source : String)
  | notFound (source : String) (key : String)
  deriving DecidableEq, Inhabited

namespace SourceError

/-- The source that failed. -/
def source : SourceError → String
  | .timeout s _ => s
  | .unreachable s _ => s
  | .malformed s _ => s
  | .rateLimited s => s
  | .circuitOpen s => s
  | .notFound s _ => s

/-- The word for the kind of a failure. -/
def kind : SourceError → String
  | .timeout .. => "timeout"
  | .unreachable .. => "unreachable"
  | .malformed .. => "malformed"
  | .rateLimited .. => "rate_limited"
  | .circuitOpen .. => "circuit_open"
  | .notFound .. => "not_found"

/-- The words for a failure. -/
def message : SourceError → String
  | .timeout s seconds => s!"{s} timed out after {seconds}s"
  | .unreachable s reason => s!"{s} unreachable: {reason}"
  | .malformed s reason => s!"{s} returned malformed data: {reason}"
  | .rateLimited s => s!"{s} rate limited"
  | .circuitOpen s => s!"{s} circuit breaker open"
  | .notFound s key => s!"{s} has no record for '{key}'"

end SourceError

end ValidatorWatch
