import ValidatorWatch.Http.Lookup
import ValidatorWatch.Source.Bundle
import ValidatorWatch.Source.CircuitBreaker
import ValidatorWatch.Source.Network
/-!
# What the sources remember

Some answers are kept: the services may be asked only so often, and processor usage is the
difference of two samples. `SourceMemory` holds what is kept from one check to the next.
-/

namespace ValidatorWatch

open Document
open Time (Instant Span)

/-- An entry of the validator set of an epoch. -/
structure EpochValidator where
  nodeId : String
  index : Nat
  setType : String
  deriving DecidableEq, Inhabited

namespace EpochValidator

/-- Members of the active set, as opposed to those who only registered. -/
def isActive (v : EpochValidator) : Bool :=
  v.setType = "active"

/-- Reads an entry; every member has a default. -/
def ofValue? (v : Value) : Option EpochValidator := do
  let f ← v.fields? ["node_id", "val_index", "validator_set_type"]
  return {
    nodeId := ← f.withDefault? "node_id" "" Value.text?
    index := ← f.withDefault? "val_index" 0 (Value.nat? 64)
    setType := ← f.withDefault? "validator_set_type" "unknown" Value.text? }

end EpochValidator

/-- The validator set of an epoch, and when it was fetched. -/
structure Epoch where
  validators : List EpochValidator
  fetchedAt : Instant
  deriving DecidableEq, Inhabited

/-- What is kept of gmonads. -/
structure GmonadsMemory where
  epochs : ByNetwork (Option Epoch) := .const none
  health : ByNetwork (Option NetworkHealth) := .const none

/-- What is kept of huginn. Reports are kept under network and key. -/
structure HuginnMemory where
  reports : NameMap UptimeReport := .empty
  rounds : ByNetwork (Option (Nat × Instant)) := .const none
  breakers : ByNetwork CircuitBreaker := .const ⟨5, .ofSeconds 60, 0, .closed, none⟩

/-- Seconds that the processors of a host spent idle and altogether. -/
structure CpuSample where
  idle : Float
  total : Float
  deriving DecidableEq, Inhabited

/-- What is kept from one check to the next. Samples are kept under the validator's name. -/
structure SourceMemory where
  cpuSamples : NameMap CpuSample := .empty
  gmonads : GmonadsMemory := {}
  huginn : HuginnMemory := {}

namespace SourceMemory

/-- Keeps the validator set of an epoch. -/
def keepEpoch (n : Network) (e : Epoch) (m : SourceMemory) : SourceMemory :=
  { m with gmonads := { m.gmonads with epochs := m.gmonads.epochs.set n (some e) } }

/-- Keeps the figures of a network. -/
def keepHealth (n : Network) (h : NetworkHealth) (m : SourceMemory) : SourceMemory :=
  { m with gmonads := { m.gmonads with health := m.gmonads.health.set n (some h) } }

/-- Keeps a report. -/
def keepReport (key : String) (r : UptimeReport) (m : SourceMemory) : SourceMemory :=
  { m with huginn := { m.huginn with reports := m.huginn.reports.insert key r } }

/-- Keeps the round of a network. -/
def keepRound (n : Network) (round : Nat) (t : Instant) (m : SourceMemory) : SourceMemory :=
  { m with huginn := { m.huginn with rounds := m.huginn.rounds.set n (some (round, t)) } }

/-- Changes the breaker of a network. -/
def setBreaker (n : Network) (b : CircuitBreaker) (m : SourceMemory) : SourceMemory :=
  { m with huginn := { m.huginn with breakers := m.huginn.breakers.set n b } }

/-- Keeps a sample. -/
def keepSample (validator : String) (s : CpuSample) (m : SourceMemory) : SourceMemory :=
  { m with cpuSamples := m.cpuSamples.insert validator s }

end SourceMemory

/-- A lookup at a source. -/
abbrev SourceLookup (α : Type) := Http.Lookup SourceMemory α

namespace SourceLookup

open Http

/-- Fetches a page. -/
def text (limit : Span) (source url : String) : SourceLookup (Answer String) := do
  match ← Lookup.send limit (.get url) with
  | .timedOut => return .error (.timeout source limit.seconds.toNat)
  | .refused reason => return .error (.unreachable source reason)
  | .answered status body =>
    if status = tooManyRequests then return .error (.rateLimited source)
    else if !isSuccess status then return .error (.unreachable source (statusText status))
    else
      match body with
      | .text s => return .ok s
      | .broken reason => return .error (.malformed source reason)

end SourceLookup

end ValidatorWatch
