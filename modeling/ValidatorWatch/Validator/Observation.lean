import ValidatorWatch.Time.Instant
/-!
# Observations

What one check of a validator saw, all sources put together. Whatever a source did not tell is
unknown, and an unknown figure is never taken for a bad one.
-/

namespace ValidatorWatch

open Time (Instant)

/-- Usage of the host in percent. -/
structure ResourceUsage where
  cpu : Option Float := none
  memory : Option Float := none
  disk : Option Float := none
  deriving DecidableEq, Inhabited

namespace ResourceUsage

/-- No figure at all. -/
def isEmpty (u : ResourceUsage) : Bool :=
  u.cpu.isNone && u.memory.isNone && u.disk.isNone

end ResourceUsage

/-- The services that report uptime. -/
inductive UptimeSource where
  | huginn
  | gmonads
  deriving DecidableEq, Inhabited

namespace UptimeSource

/-- The name of the service. -/
def name : UptimeSource → String
  | .huginn => "huginn"
  | .gmonads => "gmonads"

/-- The service of that name. -/
def ofName? : String → Option UptimeSource
  | "huginn" => some .huginn
  | "gmonads" => some .gmonads
  | _ => none

@[simp] theorem ofName?_name (s : UptimeSource) : ofName? s.name = some s := by
  cases s <;> rfl

end UptimeSource

/-- How far membership as told by the services can be trusted. -/
inductive Confidence where
  | high
  | medium
  | low
  deriving DecidableEq, Inhabited

namespace Confidence

/-- The word for it. -/
def name : Confidence → String
  | .high => "high"
  | .medium => "medium"
  | .low => "low"

/-- What the word stands for. -/
def ofName? : String → Option Confidence
  | "high" => some .high
  | "medium" => some .medium
  | "low" => some .low
  | _ => none

@[simp] theorem ofName?_name (c : Confidence) : ofName? c.name = some c := by
  cases c <;> rfl

end Confidence

/-- Uptime figures and the service that they come from. -/
structure UptimeData where
  percent : Option Float
  finalized : Option Nat
  timeouts : Option Nat
  source : UptimeSource
  deriving DecidableEq, Inhabited

/-- What one check saw. -/
structure Observation where
  reachable : Bool
  height : Option Nat
  peers : Option Nat
  heightAdvanced : Bool
  resources : ResourceUsage
  uptime : Option UptimeData
  inActiveSet : Option Bool
  unverified : Bool
  confidence : Confidence
  rpcHealthy : Option Bool
  executionLagging : Option Nat
  timestampFailures : Option Nat
  time : Instant
  deriving DecidableEq, Inhabited

namespace Observation

/-- What is seen when nothing answers. -/
def unreachable (t : Instant) : Observation where
  reachable := false
  height := none
  peers := none
  heightAdvanced := false
  resources := {}
  uptime := none
  inActiveSet := none
  unverified := false
  confidence := .low
  rpcHealthy := none
  executionLagging := none
  timestampFailures := none
  time := t

/-- Reachable, but its height did not advance. -/
def stalled (o : Observation) : Bool :=
  o.reachable && !o.heightAdvanced

end Observation

end ValidatorWatch
