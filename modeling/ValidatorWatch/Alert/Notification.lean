import ValidatorWatch.Alert.Event
import ValidatorWatch.Decimal.Written
/-!
# Notifications

A notification is an event in words, the same for every channel. The title tells what happened to
whom. The body has the summary, the figures of a report if there is one, and the figures of the
moment, with an empty line between these parts.
-/

namespace ValidatorWatch

open Time (Instant)

/-- A message for a channel. A notice of the monitor itself has no category and no validator. -/
structure Notification where
  title : String
  body : String
  severity : Severity
  category : Option Category
  validator : Option String
  time : Instant
  deriving DecidableEq, Inhabited

namespace Notification

/-- The sign in front of a title. -/
def marker (severity : Severity) (category : Option Category) : String :=
  match category, severity with
  | some .recovery, _ => "✅"
  | some .extendedReport, _ => "📊"
  | _, .critical => "🔴"
  | _, .warning => "🟡"
  | _, .info => "ℹ️"

/-- The words of a title. -/
def titleWords : Category → String
  | .down => "DOWN"
  | .recovery => "RECOVERED"
  | .resource => "RESOURCES"
  | .activeSet => "ACTIVE SET"
  | .consensusTimeout => "CONSENSUS TIMEOUT"
  | .extendedReport => "REPORT"

/-- A line about a figure that may be unknown. -/
def line? {α : Type} (x : Option α) (write : α → String) : List String :=
  (x.map write).toList

/-- The lines of a report. -/
def reportLines (r : ExtendedReport) : List String :=
  [s!"Checks: {r.checks} ({r.healthyChecks} healthy, {r.failedChecks} failed)"] ++
    line? r.availability (fun p => s!"Availability: {Decimal.fixed 2 p}%") ++
    [s!"Down episodes: {r.downEpisodes}", s!"Current state: {r.verdict.name}"] ++
    line? r.inActiveSet (fun member => if member then "Active set: yes" else "Active set: no") ++
    line? (r.uptime.bind UptimeData.finalized) (fun n => s!"Finalized: {n}") ++
    line? (r.uptime.bind UptimeData.timeouts) (fun n => s!"Timeouts: {n}") ++
    line? r.resources.cpu (fun p => s!"CPU: {Decimal.fixed 1 p}%") ++
    line? r.resources.memory (fun p => s!"RAM: {Decimal.fixed 1 p}%") ++
    line? r.resources.disk (fun p => s!"Disk: {Decimal.fixed 1 p}%")

/-- The lines about the moment. -/
def detailLines (e : AlertEvent) : List String :=
  line? e.height (fun n => s!"Height: {n}") ++
    line? e.peers (fun n => s!"Peers: {n}") ++
    line? e.uptimePercent (fun p => s!"Uptime: {Decimal.fixed 2 p}%") ++
    line? e.thresholdCrossed (fun t => s!"Threshold: {t}")

/-- A part of a body after an empty line; an empty part adds nothing. -/
def part (lines : List String) : List String :=
  if lines.isEmpty then [] else "" :: lines

/-- The lines of a body. -/
def bodyLines (e : AlertEvent) : List String :=
  e.summary :: ((e.report.map fun r => part (reportLines r)).getD [] ++ part (detailLines e))

/-- An event in words. -/
def ofEvent (e : AlertEvent) : Notification where
  title := s!"{marker e.severity (some e.category)} {titleWords e.category} {e.validator}"
  body := "\n".intercalate (bodyLines e)
  severity := e.severity
  category := some e.category
  validator := some e.validator
  time := e.time

/-- A notice of the monitor itself. -/
def notice (title body : String) (now : Instant) : Notification where
  title := s!"{marker .info none} {title}"
  body := body
  severity := .info
  category := none
  validator := none
  time := now

end Notification

end ValidatorWatch
