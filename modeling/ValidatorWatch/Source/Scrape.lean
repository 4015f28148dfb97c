import ValidatorWatch.Document.Json
import ValidatorWatch.Source.Exposition
import ValidatorWatch.Source.Memory
/-!
# The node, its host and its RPC endpoint

The node's metric page tells height, peers and fault counters. The host's page tells usage of
processor, memory and disk. The RPC endpoint is healthy if it answers a question about the latest
block.
-/

namespace ValidatorWatch

open Document
open Http
open Time (Span)

namespace Scrape

/-! ## The node -/

/-- The gauge of the height. -/
def heightMetric : String := "monad_execution_ledger_block_num"

/-- The gauge of the peers. -/
def peersMetric : String := "monad_peer_disc_num_peers"

/-- The counter of rounds in which execution lagged behind. -/
def laggingMetric : String := "monad_state_consensus_events_rx_execution_lagging"

/-- The counter of proposals refused for their time stamp. -/
def timestampMetric : String := "monad_state_consensus_events_failed_ts_validation"

/-- A figure as a count, cut to a whole number; a negative one is none. -/
def toCount? (x : Float) : Option Nat :=
  if (0 : Float) ≤ x then some x.toUInt64.toNat else none

/-- The figures of a node's page. -/
def readNode (e : Exposition) : NodeMetrics where
  height := (e.first? heightMetric).bind toCount?
  peers := (e.first? peersMetric).bind toCount?
  executionLagging := (e.first? laggingMetric).bind toCount?
  timestampFailures := (e.first? timestampMetric).bind toCount?

/-- Asks a node. A page without any sample is not a metric page. -/
def nodeMetrics (limit : Span) (url : String) : SourceLookup (Answer NodeMetrics) := do
  match ← SourceLookup.text limit "metrics" url with
  | .error e => return .error e
  | .ok body =>
    let e := Exposition.parse body
    if e.samples.isEmpty then return .error (.malformed "metrics" "no samples in response")
    else return .ok (readNode e)

/-! ## The host -/

/-- The counter of processor seconds, by mode. -/
def cpuMetric : String := "node_cpu_seconds_total"

/-- The gauge of all memory. -/
def memoryTotalMetric : String := "node_memory_MemTotal_bytes"

/-- The gauge of available memory. -/
def memoryAvailableMetric : String := "node_memory_MemAvailable_bytes"

/-- The gauge of a file system's size. -/
def diskSizeMetric : String := "node_filesystem_size_bytes"

/-- The gauge of a file system's available space. -/
def diskAvailableMetric : String := "node_filesystem_avail_bytes"

/-- A figure between nothing and everything, in percent at two decimal places. -/
def clampPercent (x : Float) : Float :=
  Decimal.roundToHundredths (if x < 0 then 0 else if 100 < x then 100 else x)

/-- The processor seconds of a page, if it has any. -/
def cpuSample? (e : Exposition) : Option CpuSample :=
  let known := (e.named cpuMetric).filterMap fun s => s.value.map fun x => (s, x)
  let total := known.foldl (fun t k => t + k.2) 0
  let idle := known.foldl (fun t k => if k.1.hasLabel "mode" "idle" then t + k.2 else t) 0
  if !known.isEmpty && (0 : Float) < total then some ⟨idle, total⟩ else none

/-- Usage between two samples. Without a previous sample, or after counters were started anew, it is
the usage since the host was started. -/
def cpuPercent? (previous : Option CpuSample) (current : CpuSample) : Option Float :=
  let since : CpuSample :=
    match previous with
    | some p =>
      if p.total < current.total && p.idle ≤ current.idle then
        ⟨current.idle - p.idle, current.total - p.total⟩
      else current
    | none => current
  if since.total ≤ 0 then none
  else some (clampPercent (100 - since.idle / since.total * 100))

/-- The used share of something of which a part is available. -/
def usedPercent? (total available : Option Float) : Option Float := do
  let total ← total
  let available ← available
  if total ≤ 0 then none else some (clampPercent ((total - available) / total * 100))

/-- A gauge of the root file system. -/
def rootGauge? (e : Exposition) (name : String) : Option Float :=
  (e.withLabel? name "mountpoint" "/").or (e.withLabel? name "mount" "/")

/-- Asks a host. Its processor sample is kept for the next time. -/
def resources (limit : Span) (validator url : String) : SourceLookup (Answer ResourceUsage) := do
  match ← SourceLookup.text limit "node-exporter" url with
  | .error e => return .error e
  | .ok body =>
    let e := Exposition.parse body
    let memory := usedPercent? (e.first? memoryTotalMetric) (e.first? memoryAvailableMetric)
    let disk := usedPercent? (rootGauge? e diskSizeMetric) (rootGauge? e diskAvailableMetric)
    match cpuSample? e with
    | none => return .ok ⟨none, memory, disk⟩
    | some current => do
      let previous := (← Lookup.kept).cpuSamples.get? validator
      Lookup.keep (SourceMemory.keepSample validator current)
      return .ok ⟨cpuPercent? previous current, memory, disk⟩

/-! ## The RPC endpoint -/

/-- The question, with an identifier of its own. -/
def rpcQuestion (id : String) : Value :=
  .obj [("jsonrpc", .str "2.0"), ("method", .str "eth_blockNumber"), ("params", .arr []),
    ("id", .str id)]

/-- Whether an answer has a result and no error. -/
def readRpc? (body : String) : Option Bool := do
  let f ← (← Json.parse? body).fields? ["result", "error"]
  let result ← f.optional? "result" Value.sound?
  let error ← f.optional? "error" fun v => do
    let f ← v.fields? ["message"]
    f.required? "message" Value.text?
  return error.isNone && result.isSome

/-- Asks an RPC endpoint. -/
def rpcHealthy (limit : Span) (url id : String) : SourceLookup (Answer Bool) := do
  match ← Lookup.send limit (.post url (rpcQuestion id)) with
  | .timedOut => return .error (.timeout "rpc" limit.seconds.toNat)
  | .refused reason => return .error (.unreachable "rpc" reason)
  | .answered status body =>
    if !isSuccess status then return .error (.unreachable "rpc" (statusText status))
    else
      match body with
      | .broken reason => return .error (.malformed "rpc" reason)
      | .text s =>
        match readRpc? s with
        | some healthy => return .ok healthy
        | none => return .error (.malformed "rpc" "not the expected document")

end Scrape

end ValidatorWatch
