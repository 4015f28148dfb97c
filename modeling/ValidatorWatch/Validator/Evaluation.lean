import ValidatorWatch.Validator.Resource
import ValidatorWatch.Validator.State
/-!
# Evaluation of an observation

One observation takes a validator from its state to the next and yields the events to tell. The
rules, in the order of their events:

1. A check fails if nothing answered, the height did not advance, or a fault counter of the node
   grew. Failing checks in a row make a streak; any other check ends it.
2. The check that takes the streak to the alert threshold makes the validator critical and tells
   that it is down.
3. A resource level above the recorded one is told. Without figures the recorded level is held,
   until it is stale.
4. A change of membership between known values is told, and so is a growing count of timeouts.
5. A validator that was down and is active again is told to have recovered, unless that is only so
   because its resource figures went stale.

The verdict is the worst of what the streak, the resource level and the membership say.
-/

namespace ValidatorWatch

open Time (Instant)

/-- What evaluation goes by. -/
structure Rules where
  threshold : Nat
  thresholds : ResourceThresholds
  threshold_pos : 1 ≤ threshold

/-- Where a check leads: the next state and what there is to tell. -/
structure Transition where
  state : State
  events : List AlertEvent
  deriving DecidableEq

/-- The longest streak that is told apart from longer ones. -/
def streakLimit : Nat := Nat.pow 2 32 - 1

/-- Checks without any resource figure after which a recorded level is stale. -/
def staleTicks : Nat := 5

/-- One more, up to the limit. -/
def countUp (n : Nat) : Nat :=
  min (n + 1) streakLimit

/-- How far a counter grew between known values; one that fell was started anew. -/
def counterIncrease? : Option Nat → Option Nat → Option Nat
  | some recorded, some current => if recorded < current then some (current - recorded) else none
  | _, _ => none

namespace Rules

/-- Rules with a threshold of at least one. -/
def ofSettings (threshold : Nat) (thresholds : ResourceThresholds) : Rules :=
  ⟨max threshold 1, thresholds, Nat.le_max_right _ _⟩

end Rules

namespace State

/-! ## Failing checks -/

/-- The last known membership, this check's included. -/
def membership (prev : State) (o : Observation) : Option Bool :=
  o.inActiveSet.or prev.inActiveSet

/-- The last known height, this check's included. -/
def height (prev : State) (o : Observation) : Option Nat :=
  o.height.or prev.lastHeight

/-- How far execution fell behind since it was last known. -/
def laggingIncrease? (prev : State) (o : Observation) : Option Nat :=
  counterIncrease? prev.lastExecutionLagging o.executionLagging

/-- How many more time stamps were refused; that matters only while the validator is a member. -/
def timestampIncrease? (prev : State) (o : Observation) : Option Nat :=
  if prev.membership o = some true then
    counterIncrease? prev.lastTimestampFailures o.timestampFailures
  else none

/-- Whether the check fails. -/
def fails (prev : State) (o : Observation) : Bool :=
  !o.reachable || o.stalled || (prev.laggingIncrease? o).isSome ||
    (prev.timestampIncrease? o).isSome

/-- The length of the failing streak after the check. -/
def streak (prev : State) (o : Observation) : Nat :=
  if prev.fails o then countUp prev.consecutiveFailures else 0

/-- Whether the check takes the streak to the threshold. -/
def goesDown (rules : Rules) (prev : State) (o : Observation) : Bool :=
  prev.consecutiveFailures < rules.threshold && rules.threshold ≤ prev.streak o

/-- What the streak says. -/
def streakVerdict (rules : Rules) (prev : State) (o : Observation) : Verdict :=
  if rules.threshold ≤ prev.streak o then .critical
  else if 0 < prev.streak o then .warning
  else .active

/-- The words for a cause of failure. -/
def failureReason (prev : State) (o : Observation) : String :=
  if !o.reachable then "metrics endpoint unreachable"
  else if o.stalled then
    match prev.height o with
    | some h => s!"block height stalled at {h}"
    | none => "block height unavailable"
  else
    match prev.laggingIncrease? o, o.executionLagging with
    | some increase, some total => s!"execution lagging increasing: +{increase} (total {total})"
    | _, _ =>
      match prev.timestampIncrease? o, o.timestampFailures with
      | some increase, some total =>
        s!"timestamp validation failures increasing: +{increase} (total {total})"
      | _, _ => "node health checks failing"

/-! ## Events -/

/-- An event with the figures of its moment. -/
def event (prev : State) (validator : String) (o : Observation) (severity : Severity)
    (category : Category) (summary : String) (crossed : Option String) : AlertEvent where
  validator := validator
  severity := severity
  category := category
  summary := summary
  height := prev.height o
  peers := o.peers
  uptimePercent := (o.uptime.or prev.lastUptime).bind UptimeData.percent
  thresholdCrossed := crossed
  report := none
  time := o.time

/-- Told when the streak reaches the threshold. -/
def downEvent? (rules : Rules) (prev : State) (validator : String) (o : Observation) :
    Option AlertEvent :=
  if prev.goesDown rules o then
    let n := prev.streak o
    some (prev.event validator o .critical .down
      s!"{validator} is DOWN: {n} consecutive failed checks, {prev.failureReason o}"
      (some s!"{n} >= {rules.threshold} failed checks"))
  else none

/-- Told when figures reach a higher level than the recorded one. -/
def resourceEvent? (rules : Rules) (prev : State) (validator : String) (o : Observation) :
    Option AlertEvent :=
  let level := rules.thresholds.level o.resources
  if o.resources.isEmpty then none
  else if prev.resourceLevel < level then
    level.severity?.map fun severity =>
      let breaches := ", ".intercalate ((rules.thresholds.breaches o.resources).map Breach.text)
      prev.event validator o severity .resource
        s!"{validator} resource usage {severity.name}: {breaches}" (some breaches)
  else none

/-- Told when membership changes between known values. -/
def activeSetEvent? (prev : State) (validator : String) (o : Observation) : Option AlertEvent :=
  match prev.inActiveSet, o.inActiveSet with
  | some recorded, some current =>
    if recorded = current then none
    else
      let summary :=
        if current then s!"{validator} entered the active set"
        else s!"{validator} left the active set"
      some (prev.event validator o .info .activeSet summary none)
  | _, _ => none

/-- The count of timeouts that the observation has, if any. -/
def timeouts? (o : Observation) : Option Nat :=
  o.uptime.bind UptimeData.timeouts

/-- Told when the count of timeouts grows. -/
def timeoutEvent? (prev : State) (validator : String) (o : Observation) : Option AlertEvent :=
  match prev.lastTimeouts, timeouts? o with
  | some recorded, some current =>
    if recorded < current then
      some (prev.event validator o .critical .consensusTimeout
        s!"{validator} missed {current - recorded} consensus round(s), {current} timeouts in total"
        (some s!"timeouts {recorded} -> {current}"))
    else none
  | _, _ => none

/-! ## Resources -/

/-- Checks in a row without any resource figure, this one included. -/
def unknownTicks (prev : State) (o : Observation) : Nat :=
  if o.resources.isEmpty then countUp prev.resourceUnknownTicks else 0

/-- Whether a recorded level is dropped because it is stale. -/
def resourcesExpire (prev : State) (o : Observation) : Bool :=
  o.resources.isEmpty && staleTicks ≤ prev.unknownTicks o && prev.resourceLevel ≠ .normal

/-- The level after the check: that of the figures, the recorded one, or the normal one if that is
stale. -/
def nextLevel (rules : Rules) (prev : State) (o : Observation) : ResourceLevel :=
  if o.resources.isEmpty then
    if prev.resourcesExpire o then .normal else prev.resourceLevel
  else rules.thresholds.level o.resources

/-- The figures on record after the check. -/
def nextResources (prev : State) (o : Observation) : ResourceUsage :=
  if o.resources.isEmpty then
    if prev.resourcesExpire o then {} else prev.lastResources
  else o.resources

/-! ## The verdict -/

/-- What membership says: only known absence counts. -/
def membershipVerdict (o : Observation) : Verdict :=
  if o.inActiveSet = some false then .inactive else .active

/-- The worst of streak, resource level and membership. -/
def nextVerdict (rules : Rules) (prev : State) (o : Observation) : Verdict :=
  ((prev.streakVerdict rules o).worst (prev.nextLevel rules o).verdict).worst (membershipVerdict o)

/-- Told when a validator that was down is active again. -/
def recoveryEvent? (rules : Rules) (prev : State) (validator : String) (o : Observation) :
    Option AlertEvent :=
  if prev.verdict.isDown && prev.nextVerdict rules o = .active && !prev.resourcesExpire o then
    let summary :=
      match prev.downSince with
      | some since => s!"{validator} RECOVERED after {(o.time - since).describe}"
      | none => s!"{validator} RECOVERED and is healthy again"
    some (prev.event validator o .info .recovery summary none)
  else none

/-! ## Notes -/

/-- Conditions that do not make the check fail. -/
def nextNotes (prev : State) (o : Observation) : List String :=
  (if o.reachable && o.rpcHealthy = some false then
    ["RPC endpoint not responding (metrics working)"] else []) ++
  (match o.executionLagging with
    | some n =>
      if prev.lastExecutionLagging.isNone && 0 < n then
        [s!"execution lagging detected: {n} (monitoring)"] else []
    | none => []) ++
  (match o.timestampFailures with
    | some n =>
      if prev.lastTimestampFailures.isNone && 0 < n && prev.membership o ≠ some false then
        [s!"timestamp validation failures detected: {n} (monitoring)"] else []
    | none => []) ++
  (if prev.resourcesExpire o then
    let recorded := prev.resourceLevel.verdict.name
    [s!"resource figures unavailable for {prev.unknownTicks o} checks, {recorded} level cleared"]
    else [])

/-! ## The step -/

/-- The counts after the check. -/
def nextWindow (rules : Rules) (prev : State) (o : Observation) : UptimeWindow :=
  let w := prev.window
  { w with
    checks := w.checks + 1
    healthyChecks := w.healthyChecks + (if (prev.nextVerdict rules o).isHealthy then 1 else 0)
    failedChecks := w.failedChecks + (if prev.fails o then 1 else 0)
    downEpisodes := w.downEpisodes + (if prev.goesDown rules o then 1 else 0) }

/-- Since when the validator is down: from the check that took the streak to the threshold until one
that ends it. -/
def nextDownSince (rules : Rules) (prev : State) (o : Observation) : Option Instant :=
  if prev.streak o < rules.threshold then none
  else if prev.goesDown rules o then some o.time
  else prev.downSince

/-- The state after the check. -/
def next (rules : Rules) (prev : State) (o : Observation) : State where
  verdict := prev.nextVerdict rules o
  consecutiveFailures := prev.streak o
  lastHeight := prev.height o
  lastHeightChange := if o.heightAdvanced then some o.time else prev.lastHeightChange
  lastPeers := o.peers.or prev.lastPeers
  inActiveSet := prev.membership o
  lastObservation := some o.time
  lastReachable := o.reachable
  resourceLevel := prev.nextLevel rules o
  lastResources := prev.nextResources o
  lastTimeouts := (timeouts? o).or prev.lastTimeouts
  lastUptime := o.uptime.or prev.lastUptime
  unverified := o.unverified
  confidence := o.confidence
  rpcHealthy := o.rpcHealthy
  downSince := prev.nextDownSince rules o
  lastExecutionLagging := o.executionLagging.or prev.lastExecutionLagging
  lastTimestampFailures := o.timestampFailures.or prev.lastTimestampFailures
  resourceUnknownTicks := prev.unknownTicks o
  notes := prev.nextNotes o
  ledger := prev.ledger
  window := prev.nextWindow rules o

/-- What there is to tell, in order. -/
def nextEvents (rules : Rules) (prev : State) (validator : String) (o : Observation) :
    List AlertEvent :=
  [prev.downEvent? rules validator o, prev.resourceEvent? rules validator o,
    prev.activeSetEvent? validator o, prev.timeoutEvent? validator o,
    prev.recoveryEvent? rules validator o].filterMap id

end State

namespace Rules

/-- Evaluates an observation; without a state it is the first one. -/
def evaluate (rules : Rules) (validator : String) (previous : Option State) (o : Observation) :
    Transition :=
  let prev := previous.getD (State.fresh o.time)
  ⟨prev.next rules o, prev.nextEvents rules validator o⟩

end Rules

namespace State

/-! ## Extended reports -/

/-- The summary of the window, as an event, and the state with a new window. -/
def extendedReport (s : State) (validator : String) (now : Instant) : AlertEvent × State :=
  let w := s.window
  let availability :=
    match w.availability with
    | some percent => s!"{Decimal.fixed 2 percent}%"
    | none => "n/a"
  let span := (now - w.startedAt).describe
  let event : AlertEvent := {
    validator := validator
    severity := .info
    category := .extendedReport
    summary := s!"{validator} report over {span}: {availability} availability across " ++
      s!"{w.checks} checks, {w.downEpisodes} down episode(s), currently {s.verdict.name}"
    height := s.lastHeight
    peers := s.lastPeers
    uptimePercent := s.lastUptime.bind UptimeData.percent
    thresholdCrossed := none
    report := some {
      windowStarted := w.startedAt
      windowEnded := now
      checks := w.checks
      healthyChecks := w.healthyChecks
      failedChecks := w.failedChecks
      downEpisodes := w.downEpisodes
      availability := w.availability
      verdict := s.verdict
      consecutiveFailures := s.consecutiveFailures
      inActiveSet := s.inActiveSet
      uptime := s.lastUptime
      resources := s.lastResources }
    time := now }
  (event, { s with window := .fresh now })

end State

end ValidatorWatch
