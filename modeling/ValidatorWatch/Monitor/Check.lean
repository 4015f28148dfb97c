import ValidatorWatch.Monitor.Basic
import ValidatorWatch.Validator.Reconciliation
/-!
# Checks

A check of one validator probes it, evaluates the observation, sends what there is to tell, saves
the state, adds to the history and shows the new state. It is all or nothing: unless a bundle is
there to evaluate, nothing changes. A probe that does not end in time counts as a bundle of
failures.

A tick checks every enabled validator. Its checks are under way at the same time, and nothing but
the probes fixes the order in which they go on. `tick` takes them one after another: first those whose
probe ends, by name, and then the silent ones, whose time has to pass first. That is one order of many;
they may also go on side by side, a step of one between two of another. A shutdown during a tick
cancels the checks that are still waiting. The loop runs ticks until a shutdown.
-/

namespace ValidatorWatch

open Time (Instant Span)

/-- What becomes of a probe. It may signal a shutdown while it is under way. -/
inductive ProbeOutcome where
  | answered (b : Bundle)
  | silent
  | panicked
  | shutdown

/-- The circumstances of a check: the time, the probe, and whether saving and recording fail. -/
structure CheckConditions where
  now : Instant
  probe : ProbeOutcome
  saveTrouble : Option SaveTrouble := none
  historyFails : Bool := false

/-- How a check ended. -/
inductive CheckOutcome where
  | completed (verdict : Verdict) (events delivered : Nat)
  | cancelled
  | untracked
  | panicked
  deriving DecidableEq

/-- What a check leaves behind. -/
structure CheckResult where
  monitor : Monitor
  outcome : CheckOutcome
  attempts : List Attempt := []

/-- What a tick amounts to. -/
structure TickSummary where
  checked : Nat := 0
  healthy : Nat := 0
  events : Nat := 0
  delivered : Nat := 0
  cancelled : Nat := 0
  failed : Nat := 0
  deriving DecidableEq

namespace TickSummary

/-- Counts a check. -/
def add (s : TickSummary) : CheckOutcome → TickSummary
  | .completed verdict events delivered =>
    { s with
      checked := s.checked + 1
      healthy := s.healthy + (if verdict.isHealthy then 1 else 0)
      events := s.events + events
      delivered := s.delivered + delivered }
  | .cancelled => { s with cancelled := s.cancelled + 1 }
  | .untracked | .panicked => { s with failed := s.failed + 1 }

end TickSummary

namespace CheckOutcome

/-- The words for a check that could not be made. -/
def untrackedMessage (name : String) : String :=
  s!"Validator {name} is not tracked"

end CheckOutcome

namespace Monitor

/-! ## One validator -/

/-- Goes on with the bundle of a probe: evaluates, sends, saves, records and shows. -/
def conclude (m : Monitor) (c : CheckConditions) (name : String) (v : ValidatorEntry)
    (previous : Option State) (b : Bundle) : CheckResult :=
  let observation := b.reconcile (previous.bind State.lastHeight)
  let t := m.settings.rules.evaluate name previous observation
  let sent := m.dispatcher.dispatch c.now t.events t.state.ledger
  let next := { t.state with ledger := sent.ledger }
  let m := { m with dispatcher := sent.dispatcher }
  let m := m.persist c.saveTrouble c.now name next
  let m := m.recordHistory c.historyFails c.now name next
  let m := m.setView name (.ofState v.network.name v.host next)
  { monitor := { m with states := m.states.insert name (some next) }
    outcome := .completed next.verdict t.events.length sent.report.delivered.length
    attempts := sent.attempts }

/-- Checks a validator. -/
def check (m : Monitor) (c : CheckConditions) (name : String) (v : ValidatorEntry) : CheckResult :=
  match m.states.get? name with
  | none => { monitor := m, outcome := .untracked }
  | some previous =>
    if m.shutdown then { monitor := m, outcome := .cancelled }
    else
      match c.probe with
      | .answered b => m.conclude c name v previous b
      | .silent => m.conclude c name v previous (.timedOut m.settings.probeTimeoutSeconds c.now)
      | .panicked => { monitor := m, outcome := .panicked }
      | .shutdown => { monitor := { m with shutdown := true }, outcome := .cancelled }

end Monitor

/-! ## Ticks -/

/-- The circumstances of a tick. -/
structure TickConditions where
  now : Instant
  probe : String → ProbeOutcome
  saveTrouble : String → Option SaveTrouble := fun _ => none
  historyFails : String → Bool := fun _ => false
  networkHealth : Network → Option NetworkHealth := fun _ => none

/-- The circumstances of one check of a tick. -/
def TickConditions.check (c : TickConditions) (name : String) : CheckConditions :=
  ⟨c.now, c.probe name, c.saveTrouble name, c.historyFails name⟩

/-- A tick, or a part of one. -/
structure TickResult where
  monitor : Monitor
  outcomes : List (String × CheckOutcome) := []
  attempts : List Attempt := []

namespace TickResult

/-- The counts of a tick. -/
def summary (r : TickResult) : TickSummary :=
  r.outcomes.foldl (fun s o => s.add o.2) {}

/-- Adds a check. -/
def addCheck (c : TickConditions) (r : TickResult) (e : String × ValidatorEntry) : TickResult :=
  let result := r.monitor.check (c.check e.1) e.1 e.2
  { monitor := result.monitor
    outcomes := r.outcomes ++ [(e.1, result.outcome)]
    attempts := r.attempts ++ result.attempts }

end TickResult

/-- What a run of ticks leaves behind. -/
structure LoopResult where
  monitor : Monitor
  ticks : List TickResult := []

/-- The messages of all ticks, in order. -/
def LoopResult.attempts (r : LoopResult) : List Attempt :=
  r.ticks.flatMap TickResult.attempts

/-- Whether a probe never ends. -/
def ProbeOutcome.isSilent : ProbeOutcome → Bool
  | .silent => true
  | _ => false

/-- Whether a probe signals a shutdown. -/
def ProbeOutcome.isShutdown : ProbeOutcome → Bool
  | .shutdown => true
  | _ => false

namespace Monitor

/-- Checks validators one after another. -/
def checkAll (m : Monitor) (c : TickConditions) (order : List (String × ValidatorEntry)) :
    TickResult :=
  order.foldl (TickResult.addCheck c) { monitor := m }

/-- An order in which the checks of a tick may go on: those whose probe ends before the silent ones,
and otherwise by name. -/
def checkOrder (m : Monitor) (c : TickConditions) : List (String × ValidatorEntry) :=
  let all := m.settings.enabledValidators
  (all.filter fun e => !(c.probe e.1).isSilent) ++ all.filter fun e => (c.probe e.1).isSilent

/-- Shows the figures of a network, if they are known. -/
def showNetwork (c : TickConditions) (s : Snapshot) (n : Network) : Snapshot :=
  match c.networkHealth n with
  | some h => { s with networkHealth := s.networkHealth.insert n.name h }
  | none => s

/-- Shows the figures of the networks of enabled validators. -/
def showNetworks (m : Monitor) (c : TickConditions) : Monitor :=
  let used := Network.all.filter fun n =>
    m.settings.enabledValidators.any fun e => e.2.network = n
  { m with snapshot := used.foldl (showNetwork c) m.snapshot }

/-- Shows that a tick ended, and whether every enabled validator is healthy. -/
def endTick (m : Monitor) (now : Instant) : Monitor :=
  let status := if m.snapshot.allHealthy then "healthy" else "degraded"
  { m with snapshot := { m.snapshot with lastTick := some now, status := status } }

/-- Checks every enabled validator, one after another. -/
def tick (m : Monitor) (c : TickConditions) : TickResult :=
  let r := m.checkAll c (m.checkOrder c)
  { r with monitor := (r.monitor.showNetworks c).endTick c.now }

/-- Runs ticks until a shutdown; a tick that has begun comes to its end. -/
def runLoop (m : Monitor) : List TickConditions → LoopResult
  | [] => { monitor := m }
  | c :: rest =>
    if m.shutdown then { monitor := m }
    else
      let r := m.tick c
      let more := runLoop r.monitor rest
      { monitor := more.monitor, ticks := r :: more.ticks }

end Monitor

end ValidatorWatch
