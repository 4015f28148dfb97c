import ValidatorWatch.Document.Record
import ValidatorWatch.Validator.Resource
import ValidatorWatch.Validator.State
/-!
# States as documents

The document form of a validator's state and of everything in it. For each type there is a writer
(`toValue`) and a reader (`ofValue?`). Members that came later may be missing from older files and
have defaults; the others must be there.
-/

namespace ValidatorWatch

open Document

/-- A real number that need not be known. -/
def figureValue (x : Option Float) : Value :=
  .ofOption .float x

/-- A count that need not be known. -/
def countValue (n : Option Nat) : Value :=
  .ofOption .nat n

/-- A truth value that need not be known. -/
def flagValue (b : Option Bool) : Value :=
  .ofOption .bool b

/-- An instant that need not be known. -/
def instantValue (t : Option Time.Instant) : Value :=
  .ofOption Value.ofInstant t

namespace ResourceUsage

/-- The members of usage, in order. -/
def memberNames : List String :=
  ["cpu_pct", "mem_pct", "disk_pct"]

/-- Writes usage. -/
def toValue (u : ResourceUsage) : Value :=
  .obj [("cpu_pct", figureValue u.cpu), ("mem_pct", figureValue u.memory),
    ("disk_pct", figureValue u.disk)]

/-- Reads usage. -/
def ofValue? (v : Value) : Option ResourceUsage := do
  let f ← v.fields? memberNames
  return {
    cpu := ← f.optional? "cpu_pct" Value.real?
    memory := ← f.optional? "mem_pct" Value.real?
    disk := ← f.optional? "disk_pct" Value.real? }

end ResourceUsage

namespace ResourceThresholds

/-- The members of thresholds, in order. -/
def memberNames : List String :=
  ["cpu_warning", "cpu_critical", "memory_warning", "memory_critical", "disk_warning",
    "disk_critical"]

/-- Writes thresholds. -/
def toValue (t : ResourceThresholds) : Value :=
  .obj [("cpu_warning", .float t.cpuWarning), ("cpu_critical", .float t.cpuCritical),
    ("memory_warning", .float t.memoryWarning), ("memory_critical", .float t.memoryCritical),
    ("disk_warning", .float t.diskWarning), ("disk_critical", .float t.diskCritical)]

/-- Reads thresholds; each has a default. -/
def ofValue? (format : Format) (v : Value) : Option ResourceThresholds := do
  let f ← v.fieldsIn? format memberNames
  let d : ResourceThresholds := {}
  return {
    cpuWarning := ← f.withDefault? "cpu_warning" d.cpuWarning Value.real?
    cpuCritical := ← f.withDefault? "cpu_critical" d.cpuCritical Value.real?
    memoryWarning := ← f.withDefault? "memory_warning" d.memoryWarning Value.real?
    memoryCritical := ← f.withDefault? "memory_critical" d.memoryCritical Value.real?
    diskWarning := ← f.withDefault? "disk_warning" d.diskWarning Value.real?
    diskCritical := ← f.withDefault? "disk_critical" d.diskCritical Value.real? }

end ResourceThresholds

namespace UptimeData

/-- The members of uptime figures, in order. -/
def memberNames : List String :=
  ["uptime_percent", "finalized_count", "timeout_count", "source"]

/-- Writes uptime figures. -/
def toValue (u : UptimeData) : Value :=
  .obj [("uptime_percent", figureValue u.percent), ("finalized_count", countValue u.finalized),
    ("timeout_count", countValue u.timeouts), ("source", .str u.source.name)]

/-- Reads uptime figures. -/
def ofValue? (v : Value) : Option UptimeData := do
  let f ← v.fields? memberNames
  return {
    percent := ← f.optional? "uptime_percent" Value.real?
    finalized := ← f.optional? "finalized_count" (Value.nat? 64)
    timeouts := ← f.optional? "timeout_count" (Value.nat? 64)
    source := ← f.required? "source" (Value.word? UptimeSource.ofName?) }

end UptimeData

namespace ExtendedReport

/-- The members of a report, in order. -/
def memberNames : List String :=
  ["window_started", "window_ended", "checks", "healthy_checks", "failed_checks", "down_episodes",
    "availability_percent", "verdict", "consecutive_failures", "in_active_set", "uptime",
    "resources"]

/-- Writes a report. -/
def toValue (r : ExtendedReport) : Value :=
  .obj [("window_started", .ofInstant r.windowStarted), ("window_ended", .ofInstant r.windowEnded),
    ("checks", .nat r.checks), ("healthy_checks", .nat r.healthyChecks),
    ("failed_checks", .nat r.failedChecks), ("down_episodes", .nat r.downEpisodes),
    ("availability_percent", figureValue r.availability), ("verdict", .str r.verdict.name),
    ("consecutive_failures", .nat r.consecutiveFailures),
    ("in_active_set", flagValue r.inActiveSet), ("uptime", .ofOption UptimeData.toValue r.uptime),
    ("resources", r.resources.toValue)]

/-- Reads a report. -/
def ofValue? (v : Value) : Option ExtendedReport := do
  let f ← v.fields? memberNames
  return {
    windowStarted := ← f.required? "window_started" Value.instant?
    windowEnded := ← f.required? "window_ended" Value.instant?
    checks := ← f.required? "checks" (Value.nat? 64)
    healthyChecks := ← f.required? "healthy_checks" (Value.nat? 64)
    failedChecks := ← f.required? "failed_checks" (Value.nat? 64)
    downEpisodes := ← f.required? "down_episodes" (Value.nat? 64)
    availability := ← f.optional? "availability_percent" Value.real?
    verdict := ← f.required? "verdict" (Value.word? Verdict.ofName?)
    consecutiveFailures := ← f.required? "consecutive_failures" (Value.nat? 32)
    inActiveSet := ← f.optional? "in_active_set" Value.bool?
    uptime := ← f.optional? "uptime" UptimeData.ofValue?
    resources := ← f.required? "resources" ResourceUsage.ofValue? }

end ExtendedReport

namespace AlertEvent

/-- The members of an event, in order. -/
def memberNames : List String :=
  ["validator", "severity", "category", "summary", "height", "peers", "uptime_percent",
    "threshold_crossed", "report", "timestamp"]

/-- Writes an event. -/
def toValue (e : AlertEvent) : Value :=
  .obj [("validator", .str e.validator), ("severity", .str e.severity.name),
    ("category", .str e.category.name), ("summary", .str e.summary),
    ("height", countValue e.height), ("peers", countValue e.peers),
    ("uptime_percent", figureValue e.uptimePercent),
    ("threshold_crossed", .ofOption .str e.thresholdCrossed),
    ("report", .ofOption ExtendedReport.toValue e.report), ("timestamp", .ofInstant e.time)]

/-- Reads an event. -/
def ofValue? (v : Value) : Option AlertEvent := do
  let f ← v.fields? memberNames
  return {
    validator := ← f.required? "validator" Value.text?
    severity := ← f.required? "severity" (Value.word? Severity.ofName?)
    category := ← f.required? "category" (Value.word? Category.ofName?)
    summary := ← f.required? "summary" Value.text?
    height := ← f.optional? "height" (Value.nat? 64)
    peers := ← f.optional? "peers" (Value.nat? 64)
    uptimePercent := ← f.optional? "uptime_percent" Value.real?
    thresholdCrossed := ← f.optional? "threshold_crossed" Value.text?
    report := ← f.optional? "report" ExtendedReport.ofValue?
    time := ← f.required? "timestamp" Value.instant? }

end AlertEvent

namespace PendingAlert

/-- The members of a waiting alert, in order. -/
def memberNames : List String :=
  ["channel", "event", "first_failed_at", "attempts"]

/-- Writes a waiting alert. -/
def toValue (p : PendingAlert) : Value :=
  .obj [("channel", .str p.channel.name), ("event", p.event.toValue),
    ("first_failed_at", .ofInstant p.firstFailedAt), ("attempts", .nat p.attempts)]

/-- Reads a waiting alert. -/
def ofValue? (v : Value) : Option PendingAlert := do
  let f ← v.fields? memberNames
  return {
    channel := ← f.required? "channel" (Value.word? Channel.ofName?)
    event := ← f.required? "event" AlertEvent.ofValue?
    firstFailedAt := ← f.required? "first_failed_at" Value.instant?
    attempts := ← f.required? "attempts" (Value.nat? 32) }

end PendingAlert

namespace ByCategory

/-- Writes what is there, with the categories as names. -/
def toValue {α : Type} (write : α → Value) (m : ByCategory (Option α)) : Value :=
  .obj (Category.all.filterMap fun c => (m.get c).map fun a => (c.name, write a))

/-- Reads values with categories as names; of equal names the last one counts. -/
def ofValue? {α : Type} (read : Value → Option α) (v : Value) : Option (ByCategory (Option α)) := do
  let members ← v.members?
  members.foldlM (fun m e => do
    let c ← Category.ofName? e.1
    let a ← read e.2
    return m.set c (some a)) (.ofFn fun _ => none)

end ByCategory

namespace ByChannel

/-- Writes what is there, with the channels as names. -/
def toValue {α : Type} (write : α → Value) (m : ByChannel (Option α)) : Value :=
  .obj (Channel.all.filterMap fun c => (m.get c).map fun a => (c.name, write a))

/-- Reads values with channels as names; of equal names the last one counts. -/
def ofValue? {α : Type} (read : Value → Option α) (v : Value) : Option (ByChannel (Option α)) := do
  let members ← v.members?
  members.foldlM (fun m e => do
    let c ← Channel.ofName? e.1
    let a ← read e.2
    return m.set c (some a)) (.ofFn fun _ => none)

end ByChannel

namespace AlertLedger

/-- The members of a ledger, in order. -/
def memberNames : List String :=
  ["last_sent", "last_emergency", "pending"]

/-- Writes a ledger. -/
def toValue (l : AlertLedger) : Value :=
  .obj [("last_sent", l.lastSent.toValue (ByCategory.toValue Value.ofInstant)),
    ("last_emergency", instantValue l.lastEmergency),
    ("pending", .ofList PendingAlert.toValue l.pending)]

/-- Reads a ledger; every member has a default. -/
def ofValue? (v : Value) : Option AlertLedger := do
  let f ← v.fields? memberNames
  let d : AlertLedger := {}
  return {
    lastSent := ← f.withDefault? "last_sent" d.lastSent
      (ByChannel.ofValue? (ByCategory.ofValue? Value.instant?))
    lastEmergency := ← f.withDefault? "last_emergency" none (Value.optional? Value.instant?)
    pending := ← f.withDefault? "pending" [] (Value.listOf? PendingAlert.ofValue?) }

end AlertLedger

namespace UptimeWindow

/-- The members of a window, in order. -/
def memberNames : List String :=
  ["started_at", "checks", "healthy_checks", "failed_checks", "down_episodes"]

/-- Writes a window. -/
def toValue (w : UptimeWindow) : Value :=
  .obj [("started_at", .ofInstant w.startedAt), ("checks", .nat w.checks),
    ("healthy_checks", .nat w.healthyChecks), ("failed_checks", .nat w.failedChecks),
    ("down_episodes", .nat w.downEpisodes)]

/-- Reads a window. -/
def ofValue? (v : Value) : Option UptimeWindow := do
  let f ← v.fields? memberNames
  return {
    startedAt := ← f.required? "started_at" Value.instant?
    checks := ← f.required? "checks" (Value.nat? 64)
    healthyChecks := ← f.required? "healthy_checks" (Value.nat? 64)
    failedChecks := ← f.required? "failed_checks" (Value.nat? 64)
    downEpisodes := ← f.required? "down_episodes" (Value.nat? 64) }

end UptimeWindow

namespace State

/-- The members of a state, in order. -/
def memberNames : List String :=
  ["verdict", "consecutive_failures", "last_height", "last_height_change", "last_peers",
    "in_active_set", "last_observation", "last_reachable", "resource_level", "last_resources",
    "last_timeout_count", "last_uptime", "unverified", "confidence", "rpc_healthy", "down_since",
    "last_execution_lagging", "last_ts_validation_fail", "resource_unknown_ticks", "notes",
    "alert_ledger", "window"]

/-- Writes a state. -/
def toValue (s : State) : Value :=
  .obj [("verdict", .str s.verdict.name), ("consecutive_failures", .nat s.consecutiveFailures),
    ("last_height", countValue s.lastHeight),
    ("last_height_change", instantValue s.lastHeightChange),
    ("last_peers", countValue s.lastPeers), ("in_active_set", flagValue s.inActiveSet),
    ("last_observation", instantValue s.lastObservation),
    ("last_reachable", .bool s.lastReachable), ("resource_level", .str s.resourceLevel.name),
    ("last_resources", s.lastResources.toValue),
    ("last_timeout_count", countValue s.lastTimeouts),
    ("last_uptime", .ofOption UptimeData.toValue s.lastUptime),
    ("unverified", .bool s.unverified), ("confidence", .str s.confidence.name),
    ("rpc_healthy", flagValue s.rpcHealthy), ("down_since", instantValue s.downSince),
    ("last_execution_lagging", countValue s.lastExecutionLagging),
    ("last_ts_validation_fail", countValue s.lastTimestampFailures),
    ("resource_unknown_ticks", .nat s.resourceUnknownTicks), ("notes", .ofList .str s.notes),
    ("alert_ledger", s.ledger.toValue), ("window", s.window.toValue)]

/-- Reads a state. -/
def ofValue? (v : Value) : Option State := do
  let f ← v.fields? memberNames
  return {
    verdict := ← f.required? "verdict" (Value.word? Verdict.ofName?)
    consecutiveFailures := ← f.required? "consecutive_failures" (Value.nat? 32)
    lastHeight := ← f.optional? "last_height" (Value.nat? 64)
    lastHeightChange := ← f.optional? "last_height_change" Value.instant?
    lastPeers := ← f.withDefault? "last_peers" none (Value.optional? (Value.nat? 64))
    inActiveSet := ← f.withDefault? "in_active_set" none (Value.optional? Value.bool?)
    lastObservation := ← f.optional? "last_observation" Value.instant?
    lastReachable := ← f.withDefault? "last_reachable" false Value.bool?
    resourceLevel := ← f.withDefault? "resource_level" .normal (Value.word? ResourceLevel.ofName?)
    lastResources := ← f.withDefault? "last_resources" {} ResourceUsage.ofValue?
    lastTimeouts := ← f.withDefault? "last_timeout_count" none (Value.optional? (Value.nat? 64))
    lastUptime := ← f.withDefault? "last_uptime" none (Value.optional? UptimeData.ofValue?)
    unverified := ← f.withDefault? "unverified" false Value.bool?
    confidence := ← f.withDefault? "confidence" .low (Value.word? Confidence.ofName?)
    rpcHealthy := ← f.withDefault? "rpc_healthy" none (Value.optional? Value.bool?)
    downSince := ← f.withDefault? "down_since" none (Value.optional? Value.instant?)
    lastExecutionLagging :=
      ← f.withDefault? "last_execution_lagging" none (Value.optional? (Value.nat? 64))
    lastTimestampFailures :=
      ← f.withDefault? "last_ts_validation_fail" none (Value.optional? (Value.nat? 64))
    resourceUnknownTicks := ← f.withDefault? "resource_unknown_ticks" 0 (Value.nat? 32)
    notes := ← f.withDefault? "notes" [] (Value.listOf? Value.text?)
    ledger := ← f.withDefault? "alert_ledger" {} AlertLedger.ofValue?
    window := ← f.required? "window" UptimeWindow.ofValue? }

end State

end ValidatorWatch
