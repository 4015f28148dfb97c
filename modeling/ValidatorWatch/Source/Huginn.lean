import ValidatorWatch.Source.Gmonads
/-!
# huginn, the first service

huginn tells the uptime of a validator and its last round. It may be asked only a few times an hour,
so its reports are kept. Membership follows from the last round: a validator whose last round is far
behind that of the network has left the active set. The round of the network is that of a reference
validator.

Requests are tried again when the server is at fault or cannot be reached, and a circuit breaker for
each network keeps requests back while that goes on. When huginn cannot be asked, the report that is
kept serves on, however old it is.
-/

namespace ValidatorWatch

open Document
open Http
open Time (Instant Span)

/-- How often a request is made and how long to wait before another try. -/
structure RetryPolicy where
  maxAttempts : Nat := 3
  baseDelay : Span := .ofMillis 1000
  maxDelay : Span := .ofMillis 5000
  deriving DecidableEq, Inhabited

namespace RetryPolicy

/-- The wait before a try, counted from zero: twice as long each time, up to the longest. -/
def delay (p : RetryPolicy) (attempt : Nat) : Span :=
  ⟨min (p.baseDelay.nanos * (min (Nat.pow 2 attempt) (Nat.pow 2 32 - 1) : Nat)) p.maxDelay.nanos⟩

end RetryPolicy

/-- How huginn is asked. Without gmonads there is one reference validator less to ask for. -/
structure HuginnSettings where
  endpoint : Network → String
  lifetime : Span
  timeoutSeconds : Nat
  retry : RetryPolicy := {}
  gmonads : Option GmonadsSettings

/-- What huginn knows of a validator. -/
structure HuginnUptime where
  totalEvents : Nat
  finalized : Nat
  timeouts : Nat
  lastRound : Option Nat
  deriving DecidableEq, Inhabited

namespace HuginnUptime

/-- A validator whose last round is further behind than this has left the active set. -/
def roundTolerance : Nat := 10000

/-- The share of finalized rounds in percent; none for a validator without any. -/
def percent (u : HuginnUptime) : Float :=
  if u.totalEvents = 0 then 0 else Decimal.percentOf u.finalized u.totalEvents

/-- Membership, given the round of the network. A validator without any round never joined. -/
def inActiveSet (u : HuginnUptime) (networkRound : Option Nat) : Option Bool :=
  if u.totalEvents = 0 then some false
  else
    match networkRound, u.lastRound with
    | some network, some own => some (network - own ≤ roundTolerance)
    | _, _ => none

/-- The members of an uptime record, in order. -/
def memberNames : List String :=
  ["validator_id", "validator_name", "total_events", "finalized_count", "timeout_count",
    "last_round", "last_block_height"]

/-- Reads an uptime record. -/
def ofValue? (v : Value) : Option HuginnUptime := do
  let f ← v.fields? memberNames
  let _ ← f.optional? "validator_id" (Value.nat? 64)
  let _ ← f.optional? "validator_name" Value.text?
  let _ ← f.optional? "last_block_height" (Value.nat? 64)
  return {
    totalEvents := ← f.withDefault? "total_events" 0 (Value.nat? 64)
    finalized := ← f.withDefault? "finalized_count" 0 (Value.nat? 64)
    timeouts := ← f.withDefault? "timeout_count" 0 (Value.nat? 64)
    lastRound := ← f.optional? "last_round" (Value.nat? 64) }

end HuginnUptime

namespace Huginn

/-- The name of the service. -/
def source : String := UptimeSource.huginn.name

/-- Why an answer is not what was asked for. -/
def malformed (reason : String) : SourceError :=
  .malformed source reason

/-- The uptime in an answer. It stands in a member of a record that may deny success; older servers
answer with the bare record. -/
def parseUptime (body : String) : Answer HuginnUptime :=
  match (Json.parse? body).bind Value.sound? with
  | none => .error (malformed "not a document")
  | some v =>
    let v := v.settle
    if (v.get? "success").bind Value.bool? = some false then .error (malformed "success=false")
    else
      let data := (v.get? "uptime").getD v
      match data with
      | .obj _ =>
        match HuginnUptime.ofValue? data with
        | some u => .ok u
        | none => .error (malformed "not the expected document")
      | _ => .error (malformed "expected an uptime object")

/-! ## Requests -/

/-- Asks the breaker of a network whether a request may go out. -/
def breakerAllows (now : Instant) (n : Network) : SourceLookup Bool := do
  let (allowed, b) := ((← Lookup.kept).huginn.breakers.get n).canExecute now
  Lookup.keep (SourceMemory.setBreaker n b)
  return allowed

/-- Tells the breaker of a network of an answer. -/
def noteSuccess (n : Network) : SourceLookup Unit := do
  let b := (← Lookup.kept).huginn.breakers.get n
  Lookup.keep (SourceMemory.setBreaker n b.recordSuccess)

/-- Tells the breaker of a network of a failure. -/
def noteFailure (now : Instant) (n : Network) : SourceLookup Unit := do
  let b := (← Lookup.kept).huginn.breakers.get n
  Lookup.keep (SourceMemory.setBreaker n (b.recordFailure now))

/-- What a single request came to: an answer, or a failure that is worth another try. -/
def attempt (s : HuginnSettings) (url : String) :
    SourceLookup (Except SourceError (Nat × Body)) := do
  match ← Lookup.send (.ofSeconds s.timeoutSeconds) (.get url) with
  | .answered status body =>
    if isServerError status then return .error (.unreachable source (statusText status))
    else return .ok (status, body)
  | .refused reason => return .error (.unreachable source reason)
  | .timedOut => return .error (.timeout source s.timeoutSeconds)

/-- Tries a request until there is an answer, at most `more + 1` times. -/
def attempts (s : HuginnSettings) (url : String) (tried : Nat) :
    Nat → SourceLookup (Except SourceError (Nat × Body))
  | 0 => attempt s url
  | more + 1 => do
    match ← attempt s url with
    | .ok answer => return .ok answer
    | .error _ => do
      Lookup.wait (s.retry.delay tried)
      attempts s url (tried + 1) more

/-- Asks for a page, if the breaker allows it, and tells the breaker what came of it. A body that
breaks off is neither an answer nor a failure to it. -/
def fetch (s : HuginnSettings) (now : Instant) (n : Network) (url : String) :
    SourceLookup (Answer (Nat × String)) := do
  if !(← breakerAllows now n) then
    return .error (.circuitOpen s!"{source}/{n.name}")
  else
    match ← attempts s url 0 (s.retry.maxAttempts - 1) with
    | .error e => do
      noteFailure now n
      return .error e
    | .ok (_, .broken reason) => return .error (malformed reason)
    | .ok (status, .text body) => do
      noteSuccess n
      return .ok (status, body)

/-- The address of the uptime of a validator, by key or index. -/
def uptimeUrl (s : HuginnSettings) (n : Network) (validator : String) : String :=
  let base := Text.dropEnd '/' (s.endpoint n)
  s!"{base}/validator/uptime/{validator}"

/-! ## The round of the network -/

/-- How long the round of a network is kept. -/
def roundLifetime : Span :=
  .ofSeconds 300

/-- Validators with much stake, asked for the round if gmonads names none. -/
def referenceIndices : List Nat :=
  [1, 2, 3, 4, 5]

/-- The last round of a reference validator. -/
def roundOf? (s : HuginnSettings) (now : Instant) (n : Network) (index : Nat) :
    SourceLookup (Option Nat) := do
  match ← fetch s now n (uptimeUrl s n s!"{index}") with
  | .error _ => return none
  | .ok (status, body) =>
    if isSuccess status then
      match parseUptime body with
      | .ok u => return u.lastRound
      | .error _ => return none
    else return none

/-- The latest of the rounds known so far and that of more reference validators. -/
def latestRound? (s : HuginnSettings) (now : Instant) (n : Network) :
    List Nat → Option Nat → SourceLookup (Option Nat)
  | [], best => return best
  | index :: rest, best => do
    match ← roundOf? s now n index with
    | none => latestRound? s now n rest best
    | some round => latestRound? s now n rest (some (max round (best.getD 0)))

/-- The round of the validator that gmonads names. -/
def namedRound? (s : HuginnSettings) (now : Instant) (n : Network) : SourceLookup (Option Nat) := do
  match s.gmonads with
  | none => return none
  | some g =>
    match ← Gmonads.referenceIndex? g now n with
    | none => return none
    | some index => roundOf? s now n index

/-- The round of the network, from what is kept while that is young. If nobody tells it, the kept
one serves on. -/
def networkRound? (s : HuginnSettings) (now : Instant) (n : Network) :
    SourceLookup (Option Nat) := do
  let kept := (← Lookup.kept).huginn.rounds.get n
  match kept.filter fun k => now - k.2 < roundLifetime with
  | some k => return some k.1
  | none =>
    let round ←
      match ← namedRound? s now n with
      | some round => pure (some round)
      | none => latestRound? s now n referenceIndices none
    match round with
    | some round => do
      Lookup.keep (SourceMemory.keepRound n round now)
      return some round
    | none => return kept.map Prod.fst

/-! ## Uptime -/

/-- The name under which a report is kept. -/
def reportKey (n : Network) (key : String) : String :=
  s!"{n.name}:{PublicKey.normalize key}"

/-- The report of an answer, or why it is none. -/
def readReport (now : Instant) (key : String) (networkRound : Option Nat) (status : Nat)
    (body : String) : Answer UptimeReport :=
  if status = tooManyRequests then .error (.rateLimited source)
  else if status = Http.notFound then .error (.notFound source key)
  else if !isSuccess status then .error (.unreachable source (statusText status))
  else
    match parseUptime body with
    | .error e => .error e
    | .ok u =>
      .ok { source := .huginn, percent := some u.percent, finalized := some u.finalized
            timeouts := some u.timeouts, inActiveSet := u.inActiveSet networkRound
            fetchedAt := now }

/-- The uptime of a key, from what is kept while that is young. Any failure falls back on what is
kept. -/
def uptime (s : HuginnSettings) (now : Instant) (n : Network) (key : String) :
    SourceLookup (Answer UptimeReport) := do
  let kept := (← Lookup.kept).huginn.reports.get? (reportKey n key)
  match kept.filter fun r => now - r.fetchedAt < s.lifetime with
  | some r => return .ok r
  | none => do
    let round ← networkRound? s now n
    let normalized := PublicKey.normalize key
    match ← fetch s now n (uptimeUrl s n normalized) with
    | .error e => return Gmonads.keptOr kept e
    | .ok (status, body) =>
      match readReport now normalized round status body with
      | .error e => return Gmonads.keptOr kept e
      | .ok r => do
        Lookup.keep (SourceMemory.keepReport (reportKey n key) r)
        return .ok r

/-- The uptime of a key before a deadline. A deadline that passes is a failure to the breaker, and
the report that is kept serves. -/
def uptimeWithin (s : HuginnSettings) (now : Instant) (n : Network) (key : String)
    (deadline : Span) : SourceLookup (Answer UptimeReport) := do
  match ← Lookup.within deadline (uptime s now n key) with
  | some answer => return answer
  | none => do
    noteFailure now n
    let kept := (← Lookup.kept).huginn.reports.get? (reportKey n key)
    return Gmonads.keptOr kept (.timeout source deadline.seconds.toNat)

end Huginn

end ValidatorWatch
