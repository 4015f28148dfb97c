import ValidatorWatch.Time.Instant
/-!
# Circuit breakers

A breaker keeps requests from a service that fails. It opens after a number of failures in a row.
Once the recovery time has passed since the last failure it lets requests through again, and the
first outcome after that closes it or opens it anew.
-/

namespace ValidatorWatch

open Time (Instant Span)

/-- Whether requests go through. -/
inductive CircuitState where
  | closed
  | opened
  | halfOpen
  deriving DecidableEq, Inhabited

/-- The word for it. -/
def CircuitState.name : CircuitState → String
  | .closed => "closed"
  | .opened => "open"
  | .halfOpen => "half-open"

/-- A breaker with its failures in a row. -/
structure CircuitBreaker where
  threshold : Nat
  recovery : Span
  failures : Nat := 0
  state : CircuitState := .closed
  lastFailure : Option Instant := none
  deriving DecidableEq, Inhabited

namespace CircuitBreaker

/-- The most failures that are told apart. -/
def failureLimit : Nat := Nat.pow 2 32 - 1

/-- Whether the recovery time has passed since the last failure. -/
def recovered (b : CircuitBreaker) (now : Instant) : Bool :=
  match b.lastFailure with
  | some t => b.recovery ≤ now - t
  | none => true

/-- Whether a request may go out; an open breaker whose recovery time has passed is half open
then. -/
def canExecute (b : CircuitBreaker) (now : Instant) : Bool × CircuitBreaker :=
  match b.state with
  | .closed => (true, b)
  | .halfOpen => (true, b)
  | .opened => if b.recovered now then (true, { b with state := .halfOpen }) else (false, b)

/-- Notes an answer. -/
def recordSuccess (b : CircuitBreaker) : CircuitBreaker :=
  { b with failures := 0, state := .closed }

/-- Notes a failure. -/
def recordFailure (b : CircuitBreaker) (now : Instant) : CircuitBreaker :=
  let failures := min (b.failures + 1) failureLimit
  { b with
    failures := failures
    lastFailure := some now
    state := if b.threshold ≤ failures || b.state = .halfOpen then .opened else b.state }

end CircuitBreaker

end ValidatorWatch
