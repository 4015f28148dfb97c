import ValidatorWatch.Document.Json
import ValidatorWatch.PublicKey
import ValidatorWatch.Source.Memory
/-!
# gmonads, the second service

gmonads tells the validator set of the present epoch and the blocks of the last minutes. Both
answers are kept for a while. If it cannot be asked, what is kept serves on, however old it is.
-/

namespace ValidatorWatch

open Document
open Http
open Time (Instant Span)

/-- How gmonads is asked. -/
structure GmonadsSettings where
  baseUrl : String
  lifetime : Span
  requestLimit : Span
  deriving DecidableEq, Inhabited

namespace Gmonads

/-- The name of the service. -/
def source : String := UptimeSource.gmonads.name

/-- Blocks of one minute. -/
structure BlockBucket where
  blocks : Option Nat
  tps : Option Float
  fullness : Option Float
  deriving DecidableEq, Inhabited

/-- Reads the blocks of one minute. -/
def BlockBucket.ofValue? (v : Value) : Option BlockBucket := do
  let f ← v.fields? ["blocks", "avg_tps", "avg_block_fullness_pct"]
  return {
    blocks := ← f.optional? "blocks" (Value.nat? 64)
    tps := ← f.optional? "avg_tps" Value.real?
    fullness := ← f.optional? "avg_block_fullness_pct" Value.real? }

/-- Reads an answer, a record with a list in it. -/
def readList? {α : Type} (read : Value → Option α) (body : String) : Option (List α) := do
  let f ← (← Json.parse? body).fields? ["data"]
  f.withDefault? "data" [] (Value.listOf? read)

/-- Asks for a list. -/
def fetchList {α : Type} (s : GmonadsSettings) (read : Value → Option α) (path : String)
    (n : Network) : SourceLookup (Answer (List α)) := do
  let base := Text.dropEnd '/' s.baseUrl
  let url := s!"{base}{path}?network={n.name}"
  match ← SourceLookup.text s.requestLimit source url with
  | .error e => return .error e
  | .ok body =>
    match readList? read body with
    | some list => return .ok list
    | none => return .error (.malformed source "not the expected document")

/-! ## The validator set -/

/-- The validator set of a network, from what is kept while that is young. -/
def epoch (s : GmonadsSettings) (now : Instant) (n : Network) : SourceLookup (Answer Epoch) := do
  let kept := (← Lookup.kept).gmonads.epochs.get n
  match kept.filter fun e => now - e.fetchedAt < s.lifetime with
  | some e => return .ok e
  | none =>
    match ← fetchList s EpochValidator.ofValue? "/validators/epoch" n with
    | .ok validators =>
      let e : Epoch := ⟨validators, now⟩
      Lookup.keep (SourceMemory.keepEpoch n e)
      return .ok e
    | .error error =>
      match kept with
      | some e => return .ok e
      | none => return .error error

/-- Membership of a key in a validator set. A key that is not listed is unknown. -/
def membershipIn (e : Epoch) (key : String) : Answer UptimeReport :=
  match e.validators.find? fun v => PublicKey.keysMatch key v.nodeId with
  | none => .error (.notFound source key)
  | some v =>
    .ok { source := .gmonads, percent := none, finalized := none, timeouts := none
          inActiveSet := some v.isActive, fetchedAt := e.fetchedAt }

/-- Membership of a key. -/
def membership (s : GmonadsSettings) (now : Instant) (n : Network) (key : String) :
    SourceLookup (Answer UptimeReport) := do
  match ← epoch s now n with
  | .ok e => return membershipIn e key
  | .error error => return .error error

/-- Membership of a key before a deadline; when that passes, by the validator set that is kept. -/
def membershipWithin (s : GmonadsSettings) (now : Instant) (n : Network) (key : String)
    (deadline : Span) : SourceLookup (Answer UptimeReport) := do
  match ← Lookup.within deadline (membership s now n key) with
  | some answer => return answer
  | none =>
    match (← Lookup.kept).gmonads.epochs.get n with
    | some e => return membershipIn e key
    | none => return .error (.timeout source deadline.seconds.toNat)

/-- The index of some active validator. -/
def referenceIndex? (s : GmonadsSettings) (now : Instant) (n : Network) :
    SourceLookup (Option Nat) := do
  match ← epoch s now n with
  | .ok e => return (e.validators.find? EpochValidator.isActive).map EpochValidator.index
  | .error _ => return none

/-! ## The network -/

/-- The mean over all minutes of what is known of some of them, at two decimal places. -/
def mean (minutes : Nat) (figures : List Float) : Float :=
  Decimal.roundToHundredths (figures.foldl (· + ·) 0 / Decimal.ofCount (max minutes 1))

/-- The figures of a network by the blocks of some minutes. -/
def aggregate (n : Network) (buckets : List BlockBucket) (active : Nat) (now : Instant) :
    NetworkHealth where
  network := n.name
  tps := mean buckets.length (buckets.filterMap BlockBucket.tps)
  blockFullness := mean buckets.length (buckets.filterMap BlockBucket.fullness)
  totalBlocks := (buckets.filterMap BlockBucket.blocks).foldl (· + ·) 0
  activeValidators := active
  fetchedAt := now

/-- What is kept, or the failure. -/
def keptOr {α : Type} (kept : Option α) (error : SourceError) : Answer α :=
  match kept with
  | some a => .ok a
  | none => .error error

/-- The figures of a network, from what is kept while that is young. -/
def networkHealth (s : GmonadsSettings) (now : Instant) (n : Network) :
    SourceLookup (Answer NetworkHealth) := do
  let kept := (← Lookup.kept).gmonads.health.get n
  match kept.filter fun h => now - h.fetchedAt < s.lifetime with
  | some h => return .ok h
  | none =>
    match ← fetchList s BlockBucket.ofValue? "/blocks/1m" n with
    | .error error => return keptOr kept error
    | .ok [] => return keptOr kept (.malformed source "no block buckets")
    | .ok buckets =>
      let active :=
        match ← epoch s now n with
        | .ok e => e.validators.countP EpochValidator.isActive
        | .error _ => 0
      let h := aggregate n buckets active now
      Lookup.keep (SourceMemory.keepHealth n h)
      return .ok h

end Gmonads

end ValidatorWatch
