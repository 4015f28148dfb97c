import ValidatorWatch.Monitor.Check
/-!
# Rehearsals

A rehearsal runs the monitor on scripts in place of sources. A script says what the probes of a
validator come to, either the same each time or one thing after another; when it is used up, the
next probe signals a shutdown. A validator without a script cannot be reached. A probe takes its
entry when it is started, and none is started after a shutdown.
-/

namespace ValidatorWatch

open Time (Instant)

/-- What the probes of a validator come to. -/
inductive Script where
  | always (o : ProbeOutcome)
  | inTurn (os : List ProbeOutcome)

namespace Script

/-- What the next probe comes to, and the script after that. -/
def next : Script → ProbeOutcome × Script
  | always o => (o, always o)
  | inTurn [] => (.shutdown, inTurn [])
  | inTurn (o :: os) => (o, inTurn os)

/-- The number of entries that are used up one by one. -/
def length : Script → Nat
  | always _ => 0
  | inTurn os => os.length

end Script

/-- A monitor with the scripts of its validators and the figures of the networks. -/
structure Rehearsal where
  monitor : Monitor
  scripts : NameMap Script := .empty
  networkHealth : NameMap NetworkHealth := .empty

namespace Rehearsal

/-- What is known of a validator that has no script. -/
def unreachable (now : Instant) : Bundle where
  node := .error (.unreachable "metrics" "no script")
  resources := none
  rpc := none
  primary := none
  secondary := none
  collectedAt := now

/-- Starts a probe. -/
def probe (now : Instant) (scripts : NameMap Script) (name : String) :
    ProbeOutcome × NameMap Script :=
  match scripts.get? name with
  | none => (.answered (unreachable now), scripts)
  | some script => (script.next.1, scripts.insert name script.next.2)

/-- Starts probes one after another until one of them signals a shutdown. -/
def probes (now : Instant) (scripts : NameMap Script) :
    List String → List (String × ProbeOutcome) × NameMap Script
  | [] => ([], scripts)
  | name :: names =>
    let (outcome, scripts) := probe now scripts name
    if outcome.isShutdown then ([(name, outcome)], scripts)
    else
      let (more, scripts) := probes now scripts names
      ((name, outcome) :: more, scripts)

/-- The circumstances of the next tick. A probe that is not started counts as cut off. -/
def nextTick (r : Rehearsal) (now : Instant) : TickConditions × Rehearsal :=
  let names := if r.monitor.shutdown then [] else r.monitor.settings.enabledValidators.map Prod.fst
  let (started, scripts) := probes now r.scripts names
  ({ now := now
     probe := fun name => (started.lookup name).getD .shutdown
     networkHealth := fun n => r.networkHealth.get? n.name },
    { r with scripts := scripts })

/-- Runs a tick. -/
def tick (r : Rehearsal) (now : Instant) : TickResult × Rehearsal :=
  let (c, r) := r.nextTick now
  let result := r.monitor.tick c
  (result, { r with monitor := result.monitor })

/-- The circumstances of a number of ticks, or of less if one of them signals a shutdown. -/
def nextTicks (now : Instant) : Nat → Rehearsal → List TickConditions × Rehearsal
  | 0, r => ([], r)
  | n + 1, r =>
    let (c, r) := r.nextTick now
    if r.monitor.settings.enabledValidators.any fun e => (c.probe e.1).isShutdown then ([c], r)
    else
      let (more, r) := nextTicks now n r
      (c :: more, r)

/-- Ticks after which every script that can be used up is. -/
def rounds (r : Rehearsal) : Nat :=
  r.scripts.values.foldl (fun n s => max n s.length) 0 + 1

/-- Runs ticks until a script signals a shutdown. -/
def loop (r : Rehearsal) (now : Instant) : LoopResult × Rehearsal :=
  let (cs, r) := if r.monitor.shutdown then ([], r) else nextTicks now r.rounds r
  let result := r.monitor.runLoop cs
  (result, { r with monitor := result.monitor })

/-- Runs a check. -/
def check (r : Rehearsal) (now : Instant) (name : String) (v : ValidatorEntry) :
    CheckResult × Rehearsal :=
  let starts := r.monitor.states.contains name && !r.monitor.shutdown
  let (outcome, scripts) := if starts then probe now r.scripts name else (.silent, r.scripts)
  let result := r.monitor.check { now := now, probe := outcome } name v
  (result, { r with monitor := result.monitor, scripts := scripts })

end Rehearsal

end ValidatorWatch
