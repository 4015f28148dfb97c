import ValidatorWatch.Source.Bundle
import ValidatorWatch.Validator.Encoding
/-!
# Observations as documents

The document form of what the sources answered and of the observation that it becomes.
-/

namespace ValidatorWatch

open Document

namespace NodeMetrics

/-- Writes the figures of a node. -/
def toValue (n : NodeMetrics) : Value :=
  .obj [("height", countValue n.height), ("peers", countValue n.peers),
    ("execution_lagging", countValue n.executionLagging),
    ("ts_validation_fail", countValue n.timestampFailures)]

end NodeMetrics

namespace UptimeReport

/-- Writes what a service knows. -/
def toValue (r : UptimeReport) : Value :=
  .obj [("source", .str r.source.name), ("uptime_percent", figureValue r.percent),
    ("finalized_count", countValue r.finalized), ("timeout_count", countValue r.timeouts),
    ("in_active_set", flagValue r.inActiveSet), ("source_timestamp", .ofInstant r.fetchedAt)]

end UptimeReport

/-- Writes an answer, with a writer for values and one for failures. -/
def Answer.toValue {α : Type} (failure : SourceError → Value) (write : α → Value) : Answer α → Value
  | .ok a => .obj [("ok", write a)]
  | .error e => failure e

namespace Bundle

/-- Writes a bundle, with a writer for failures. -/
def toValue (failure : SourceError → Value) (b : Bundle) : Value :=
  .obj [("node", Answer.toValue failure NodeMetrics.toValue b.node),
    ("resources", .ofOption (Answer.toValue failure ResourceUsage.toValue) b.resources),
    ("rpc", .ofOption (Answer.toValue failure Value.bool) b.rpc),
    ("primary", .ofOption (Answer.toValue failure UptimeReport.toValue) b.primary),
    ("secondary", .ofOption (Answer.toValue failure UptimeReport.toValue) b.secondary),
    ("collected_at", .ofInstant b.collectedAt)]

end Bundle

namespace Observation

/-- Writes an observation. -/
def toValue (o : Observation) : Value :=
  .obj [("reachable", .bool o.reachable), ("height", countValue o.height),
    ("peers", countValue o.peers), ("height_advanced", .bool o.heightAdvanced),
    ("resources", o.resources.toValue), ("uptime", .ofOption UptimeData.toValue o.uptime),
    ("in_active_set", flagValue o.inActiveSet), ("unverified", .bool o.unverified),
    ("confidence", .str o.confidence.name), ("rpc_healthy", flagValue o.rpcHealthy),
    ("execution_lagging", countValue o.executionLagging),
    ("ts_validation_fail", countValue o.timestampFailures), ("timestamp", .ofInstant o.time)]

end Observation

end ValidatorWatch
