import ValidatorWatch.Settings.Encoding
/-!
# Overviews of settings

What settings come to once they are loaded: the main document, the addresses that follow from the
entry of each validator, and the times that follow from the main document.
-/

namespace ValidatorWatch

open Document

namespace ValidatorEntry

/-- A validator with the file it was declared in and the addresses that follow from it. -/
def overview (v : ValidatorEntry) : Value :=
  .obj [("config", v.toValue), ("source_file", .str v.file), ("metrics_url", .str v.metricsUrl),
    ("rpc_url", .str v.rpcUrl), ("node_exporter_url", .ofOption .str v.exporterUrl),
    ("normalized_key", .str v.normalizedKey)]

end ValidatorEntry

namespace Settings

/-- The members of an overview. -/
def overview (s : Settings) : List (String × Value) :=
  [("config", s.toValue), ("validators", .ofNameMap ValidatorEntry.overview s.validators),
    ("enabled", .ofList (fun e => .str e.1) s.enabledValidators),
    ("alert_cooldown_s", .int s.cooldown.seconds),
    ("emergency_cooldown_s", .int s.emergencyCooldown.seconds),
    ("check_interval_s", .nat s.checkIntervalSeconds),
    ("source_deadline_ns", .int s.sourceDeadline.nanos),
    ("huginn", .ofList (fun n => .str (s.huginn.endpoint n)) Network.all)]

end Settings

end ValidatorWatch
