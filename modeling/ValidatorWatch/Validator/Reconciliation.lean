import ValidatorWatch.Source.Bundle
/-!
# Reconciliation

The answers of all sources become one observation. A source that failed counts as one that was not
asked. Two services that agree on membership confirm each other; if they disagree, the fresher one
is believed and the membership is marked as unverified.
-/

namespace ValidatorWatch

/-- Membership as the services tell it together. -/
structure Membership where
  inActiveSet : Option Bool
  unverified : Bool
  confidence : Confidence
  deriving DecidableEq, Inhabited

/-- An answer that came. -/
def Answer.usable? {α : Type} : Option (Answer α) → Option α
  | some (.ok a) => some a
  | _ => none

namespace Membership

/-- Membership by two reports. Of two equally fresh ones that disagree the first is believed. -/
def merge (primary secondary : Option UptimeReport) : Membership :=
  let known := fun (r : Option UptimeReport) =>
    r.bind fun r => r.inActiveSet.map fun member => (member, r.fetchedAt)
  match known primary, known secondary with
  | some (p, pAt), some (s, sAt) =>
    if p = s then ⟨some p, false, .high⟩
    else ⟨some (if pAt < sAt then s else p), true, .low⟩
  | some (p, _), none => ⟨some p, false, .medium⟩
  | none, some (s, _) => ⟨some s, false, .medium⟩
  | none, none => ⟨none, false, .low⟩

end Membership

namespace UptimeReport

/-- Whether the report has any figure. -/
def hasFigures (r : UptimeReport) : Bool :=
  r.percent.isSome || r.finalized.isSome || r.timeouts.isSome

/-- The figures of a report. -/
def figures (r : UptimeReport) : UptimeData :=
  ⟨r.percent, r.finalized, r.timeouts, r.source⟩

/-- The figures of the first report that has any. -/
def mergeFigures (primary secondary : Option UptimeReport) : Option UptimeData :=
  ((primary.filter hasFigures).or (secondary.filter hasFigures)).map figures

end UptimeReport

namespace Bundle

/-- Whether a height is beyond the last known one. -/
def advanced : Option Nat → Option Nat → Bool
  | some current, some previous => previous < current
  | some _, none => true
  | none, _ => false

/-- The observation that a bundle amounts to. -/
def reconcile (b : Bundle) (previousHeight : Option Nat) : Observation :=
  let node := Answer.usable? (some b.node)
  let figures := node.getD {}
  let primary := Answer.usable? b.primary
  let secondary := Answer.usable? b.secondary
  let membership := Membership.merge primary secondary
  { reachable := node.isSome
    height := figures.height
    peers := figures.peers
    heightAdvanced := advanced figures.height previousHeight
    resources := (Answer.usable? b.resources).getD {}
    uptime := UptimeReport.mergeFigures primary secondary
    inActiveSet := membership.inActiveSet
    unverified := membership.unverified
    confidence := membership.confidence
    rpcHealthy := Answer.usable? b.rpc
    executionLagging := figures.executionLagging
    timestampFailures := figures.timestampFailures
    time := b.collectedAt }

end Bundle

end ValidatorWatch
