import ValidatorWatch.Monitor.Basic
/-!
# Extended reports and the history's end

At intervals the monitor reports on every validator that was checked: what happened since the last
report. Old history records are removed from time to time.
-/

namespace ValidatorWatch

open Time (Instant Span)

/-- The circumstances of a round of reports. -/
structure ReportConditions where
  now : Instant
  saveTrouble : String → Option SaveTrouble := fun _ => none

/-- What a round of reports leaves behind. -/
structure ReportsResult where
  monitor : Monitor
  delivered : Nat := 0
  attempts : List Attempt := []

namespace Monitor

/-- Reports on a validator, if it was checked. -/
def report (c : ReportConditions) (r : ReportsResult) (name : String) : ReportsResult :=
  match r.monitor.state? name with
  | none => r
  | some state =>
    let (event, next) := state.extendedReport name c.now
    let sent := r.monitor.dispatcher.dispatch c.now [event] next.ledger
    let next := { next with ledger := sent.ledger }
    let m := { r.monitor with
      dispatcher := sent.dispatcher
      states := r.monitor.states.insert name (some next) }
    { monitor := m.persist (c.saveTrouble name) c.now name next
      delivered := r.delivered + sent.report.delivered.length
      attempts := r.attempts ++ sent.attempts }

/-- Reports on every enabled validator that was checked, in name order. -/
def sendReports (m : Monitor) (c : ReportConditions) : ReportsResult :=
  (m.settings.enabledValidators.map Prod.fst).foldl (report c) { monitor := m }

/-- Records older than this are removed. -/
def historyCutoff (m : Monitor) (now : Instant) : Instant :=
  now - Span.ofDays m.settings.retentionDays

/-- Removes old records and counts them; none if the history cannot be used any more. -/
def pruneHistory (m : Monitor) (now : Instant) : Option Nat × Monitor :=
  match m.history with
  | .unavailable => (some 0, m)
  | .closed => (none, m)
  | .opened h =>
    let (kept, removed) := h.prune (m.historyCutoff now)
    (some removed, { m with history := .opened kept })

end Monitor

end ValidatorWatch
