import ValidatorWatch.Source.Network
import ValidatorWatch.Validator.Encoding
/-!
# Snapshots

What the monitor shows of itself. A validator's entry is a view of its state, or says that the
validator is disabled or has not been checked yet. The snapshot of the whole monitor has an entry
for every validator, in name order.
-/

namespace ValidatorWatch

open Document
open Time (Instant)

/-- Uptime figures as shown. -/
structure UptimeFigures where
  percent : Option Float := none
  finalized : Option Nat := none
  timeouts : Option Nat := none
  deriving DecidableEq, Inhabited

/-- What is shown of a validator. -/
structure ValidatorSnapshot where
  state : String
  healthy : Bool
  enabled : Bool
  network : String
  host : String
  fails : Nat
  height : Option Nat
  peers : Option Nat
  inActiveSet : Option Bool
  unverified : Bool
  confidence : Confidence
  rpcHealthy : Option Bool
  resources : ResourceUsage
  uptime : UptimeFigures
  notes : List String
  lastCheck : Option Instant
  deriving DecidableEq, Inhabited

namespace ValidatorSnapshot

/-- A validator that is not checked. -/
def disabled (network host : String) : ValidatorSnapshot where
  state := "disabled"
  healthy := false
  enabled := false
  network := network
  host := host
  fails := 0
  height := none
  peers := none
  inActiveSet := none
  unverified := false
  confidence := .low
  rpcHealthy := none
  resources := {}
  uptime := {}
  notes := []
  lastCheck := none

/-- A validator before its first check. -/
def pending (network host : String) : ValidatorSnapshot :=
  { disabled network host with state := "pending", enabled := true }

/-- A validator with a state. -/
def ofState (network host : String) (s : State) : ValidatorSnapshot where
  state := s.verdict.name
  healthy := s.verdict.isHealthy
  enabled := true
  network := network
  host := host
  fails := s.consecutiveFailures
  height := s.lastHeight
  peers := s.lastPeers
  inActiveSet := s.inActiveSet
  unverified := s.unverified
  confidence := s.confidence
  rpcHealthy := s.rpcHealthy
  resources := s.lastResources
  uptime :=
    match s.lastUptime with
    | some u => ⟨u.percent, u.finalized, u.timeouts⟩
    | none => {}
  notes := s.notes
  lastCheck := s.lastObservation

end ValidatorSnapshot

/-- What the monitor shows of itself. -/
structure Snapshot where
  validators : NameMap ValidatorSnapshot
  network : String
  networkHealth : NameMap NetworkHealth
  status : String
  startedAt : Instant
  uptimeSeconds : Int
  persistenceOk : Bool
  lastTick : Option Instant

namespace Snapshot

/-- Before the first tick. -/
def fresh (network : String) (startedAt : Instant) : Snapshot where
  validators := .empty
  network := network
  networkHealth := .empty
  status := "starting"
  startedAt := startedAt
  uptimeSeconds := 0
  persistenceOk := true
  lastTick := none

/-- Every enabled validator is healthy. -/
def allHealthy (s : Snapshot) : Bool :=
  s.validators.values.all fun v => !v.enabled || v.healthy

/-- How many enabled validators are healthy. -/
def healthyCount (s : Snapshot) : Nat :=
  s.validators.values.countP fun v => v.enabled && v.healthy

/-- How many validators are enabled. -/
def enabledCount (s : Snapshot) : Nat :=
  s.validators.values.countP fun v => v.enabled

/-- Changes the entry of one validator. -/
def setValidator (s : Snapshot) (name : String) (v : ValidatorSnapshot) : Snapshot :=
  { s with validators := s.validators.insert name v }

end Snapshot

/-! ## As documents -/

namespace UptimeFigures

/-- The members of shown figures, in order. -/
def memberNames : List String :=
  ["uptime_percent", "finalized_count", "timeout_count"]

/-- Writes shown figures. -/
def toValue (u : UptimeFigures) : Value :=
  .obj [("uptime_percent", figureValue u.percent), ("finalized_count", countValue u.finalized),
    ("timeout_count", countValue u.timeouts)]

/-- Reads shown figures. -/
def ofValue? (v : Value) : Option UptimeFigures := do
  let f ← v.fields? memberNames
  return {
    percent := ← f.optional? "uptime_percent" Value.real?
    finalized := ← f.optional? "finalized_count" (Value.nat? 64)
    timeouts := ← f.optional? "timeout_count" (Value.nat? 64) }

end UptimeFigures

namespace ValidatorSnapshot

/-- The members of an entry, in order. -/
def memberNames : List String :=
  ["state", "healthy", "enabled", "network", "host", "fails", "height", "peers", "in_active_set",
    "unverified", "confidence", "rpc_healthy", "resources", "huginn_data", "notes", "last_check"]

/-- Writes an entry. -/
def toValue (s : ValidatorSnapshot) : Value :=
  .obj [("state", .str s.state), ("healthy", .bool s.healthy), ("enabled", .bool s.enabled),
    ("network", .str s.network), ("host", .str s.host), ("fails", .nat s.fails),
    ("height", countValue s.height), ("peers", countValue s.peers),
    ("in_active_set", flagValue s.inActiveSet), ("unverified", .bool s.unverified),
    ("confidence", .str s.confidence.name), ("rpc_healthy", flagValue s.rpcHealthy),
    ("resources", s.resources.toValue), ("huginn_data", s.uptime.toValue),
    ("notes", .ofList .str s.notes), ("last_check", instantValue s.lastCheck)]

/-- Reads an entry. -/
def ofValue? (v : Value) : Option ValidatorSnapshot := do
  let f ← v.fields? memberNames
  return {
    state := ← f.required? "state" Value.text?
    healthy := ← f.required? "healthy" Value.bool?
    enabled := ← f.required? "enabled" Value.bool?
    network := ← f.required? "network" Value.text?
    host := ← f.required? "host" Value.text?
    fails := ← f.required? "fails" (Value.nat? 32)
    height := ← f.optional? "height" (Value.nat? 64)
    peers := ← f.optional? "peers" (Value.nat? 64)
    inActiveSet := ← f.optional? "in_active_set" Value.bool?
    unverified := ← f.required? "unverified" Value.bool?
    confidence := ← f.required? "confidence" (Value.word? Confidence.ofName?)
    rpcHealthy := ← f.optional? "rpc_healthy" Value.bool?
    resources := ← f.required? "resources" ResourceUsage.ofValue?
    uptime := ← f.required? "huginn_data" UptimeFigures.ofValue?
    notes := ← f.required? "notes" (Value.listOf? Value.text?)
    lastCheck := ← f.optional? "last_check" Value.instant? }

end ValidatorSnapshot

namespace Snapshot

/-- The members of a snapshot, in order. -/
def memberNames : List String :=
  ["validators", "network", "network_health", "status", "started_at", "uptime_seconds",
    "persistence_ok", "last_tick"]

/-- Writes a snapshot. -/
def toValue (s : Snapshot) : Value :=
  .obj [("validators", .ofNameMap ValidatorSnapshot.toValue s.validators),
    ("network", .str s.network),
    ("network_health", .ofNameMap NetworkHealth.toValue s.networkHealth),
    ("status", .str s.status), ("started_at", .ofInstant s.startedAt),
    ("uptime_seconds", .int s.uptimeSeconds), ("persistence_ok", .bool s.persistenceOk),
    ("last_tick", instantValue s.lastTick)]

/-- Reads a snapshot. -/
def ofValue? (v : Value) : Option Snapshot := do
  let f ← v.fields? memberNames
  return {
    validators := ← f.required? "validators" (Value.mapOf? ValidatorSnapshot.ofValue?)
    network := ← f.required? "network" Value.text?
    networkHealth := ← f.required? "network_health" (Value.mapOf? NetworkHealth.ofValue?)
    status := ← f.required? "status" Value.text?
    startedAt := ← f.required? "started_at" Value.instant?
    uptimeSeconds := ← f.required? "uptime_seconds" Value.int64?
    persistenceOk := ← f.required? "persistence_ok" Value.bool?
    lastTick := ← f.optional? "last_tick" Value.instant? }

end Snapshot

end ValidatorWatch
