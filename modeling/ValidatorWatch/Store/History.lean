import ValidatorWatch.Validator.Encoding
/-!
# Check history

One record for every check. Records can be listed for one validator, newest first, and records older
than a limit can be removed. Age is decided by the text of the time stamp, compared character by
character; records of equal stamps are in the order of their arrival.
-/

namespace ValidatorWatch

open Document
open Time (Instant)

/-- The outcome of one check. -/
structure CheckRecord where
  validator : String
  verdict : String
  consecutiveFailures : Int
  height : Option Int
  peers : Option Int
  cpu : Option Float
  memory : Option Float
  disk : Option Float
  inActiveSet : Option Bool
  time : Instant
  deriving DecidableEq, Inhabited

namespace CheckRecord

/-- A count as a signed number of 64 bits; a greater one is left out. -/
def signedCount (n : Nat) : Option Int :=
  if n < Nat.pow 2 63 then some n else none

/-- The record of a state. -/
def ofState (validator : String) (s : State) (time : Instant) : CheckRecord where
  validator := validator
  verdict := s.verdict.name
  consecutiveFailures := s.consecutiveFailures
  height := s.lastHeight.bind signedCount
  peers := s.lastPeers.bind signedCount
  cpu := s.lastResources.cpu
  memory := s.lastResources.memory
  disk := s.lastResources.disk
  inActiveSet := s.inActiveSet
  time := time

/-- The members of a record, in order. -/
def memberNames : List String :=
  ["validator", "verdict", "consecutive_failures", "height", "peers", "cpu_pct", "mem_pct",
    "disk_pct", "in_active_set", "timestamp"]

/-- Writes a record. -/
def toValue (r : CheckRecord) : Value :=
  .obj [("validator", .str r.validator), ("verdict", .str r.verdict),
    ("consecutive_failures", .int r.consecutiveFailures), ("height", .ofOption .int r.height),
    ("peers", .ofOption .int r.peers), ("cpu_pct", figureValue r.cpu),
    ("mem_pct", figureValue r.memory), ("disk_pct", figureValue r.disk),
    ("in_active_set", flagValue r.inActiveSet), ("timestamp", .ofInstant r.time)]

/-- Reads a record. -/
def ofValue? (v : Value) : Option CheckRecord := do
  let f ← v.fields? memberNames
  return {
    validator := ← f.required? "validator" Value.text?
    verdict := ← f.required? "verdict" Value.text?
    consecutiveFailures := ← f.required? "consecutive_failures" Value.int64?
    height := ← f.optional? "height" Value.int64?
    peers := ← f.optional? "peers" Value.int64?
    cpu := ← f.optional? "cpu_pct" Value.real?
    memory := ← f.optional? "mem_pct" Value.real?
    disk := ← f.optional? "disk_pct" Value.real?
    inActiveSet := ← f.optional? "in_active_set" Value.bool?
    time := ← f.required? "timestamp" Value.instant? }

/-- A figure as the history keeps it: one that is not a number is left out, and a zero has no
sign. -/
def keptFigure (x : Option Float) : Option Float :=
  (x.filter fun x => !x.isNaN).map fun x => if x = -0.0 then 0.0 else x

/-- A record as the history keeps it. -/
def kept (r : CheckRecord) : CheckRecord :=
  { r with cpu := keptFigure r.cpu, memory := keptFigure r.memory, disk := keptFigure r.disk }

end CheckRecord

/-- The records, oldest arrival first. -/
structure History where
  rows : List CheckRecord := []
  deriving DecidableEq, Inhabited

namespace History

/-- The text that decides the age of a record. -/
def ageKey (r : CheckRecord) : String :=
  r.time.offsetStamp

/-- Adds a record. -/
def store (h : History) (r : CheckRecord) : History :=
  ⟨h.rows ++ [r.kept]⟩

/-- Whether the first of two records is listed first, if it arrived later. -/
def newerFirst (a b : CheckRecord) : Bool :=
  ageKey b ≤ ageKey a

/-- The newest records of a validator, at most `limit` of them. -/
def recent (h : History) (validator : String) (limit : Nat) : List CheckRecord :=
  ((h.rows.filter fun r => r.validator = validator).reverse.mergeSort newerFirst).take limit

/-- Whether a record is older than the cutoff. -/
def olderThan (cutoff : Instant) (r : CheckRecord) : Bool :=
  ageKey r < cutoff.offsetStamp

/-- Removes the records older than the cutoff and counts them. -/
def prune (h : History) (cutoff : Instant) : History × Nat :=
  (⟨h.rows.filter fun r => !olderThan cutoff r⟩, h.rows.countP (olderThan cutoff))

end History

end ValidatorWatch
