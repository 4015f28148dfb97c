import ValidatorWatch.Proofs.Evaluation.Streak
import ValidatorWatch.Validator.Reconciliation
/-!
# What the node alone decides

Beside the node its host is asked, its RPC endpoint, and the services that
watch the network. Whatever they answer or fail to, the failing streak is the
node's own affair. Two runs of checks in which the node says the same at the
same times count the same failures and tell of the same outages.

One counter is in between. Refused time stamps fail a check only for a member
of the active set, and membership is what the services say. So the runs here
are those in which the node's count of them never rises.

`SameNode` ties two such runs together, and `SameNode.next` and
`SameNode.liveness_next` are its one step.
-/

namespace ValidatorWatch

open Time (Instant)

namespace Bundle

/-- The answer of the node, without any other source. -/
def nodeOnly (b : Bundle) : Bundle :=
  { b with resources := none, rpc := none, primary := none, secondary := none }

/-- The node's count of refused time stamps, if it told one. -/
def refused (b : Bundle) : Option Nat :=
  (Answer.usable? (some b.node)).bind NodeMetrics.timestampFailures

/-- No count of refused time stamps is above the last known one. -/
def NeverRefusesMore : Option Nat → List Bundle → Prop
  | _, [] => True
  | known, b :: more => ¬ Exceeds b.refused known ∧ NeverRefusesMore (b.refused.or known) more

end Bundle

namespace Rules

/-- Checks one after another. Each goes by the state that the one before left
and by the last height in it. -/
def probes (rules : Rules) (validator : String) : Option State → List Bundle → List Transition
  | _, [] => []
  | previous, b :: more =>
    let t := rules.evaluate validator previous (b.reconcile (previous.bind State.lastHeight))
    t :: probes rules validator (some t.state) more

end Rules

/-- What a check says of the node: whether it answered, its height and when
that last rose, the failing streak, since when it is down, and the texts of
the down events. -/
structure Liveness where
  reachable : Bool
  height : Option Nat
  heightChange : Option Instant
  failures : Nat
  downSince : Option Instant
  outages : List String

/-- What a check says of the node. -/
def Transition.liveness (t : Transition) : Liveness where
  reachable := t.state.lastReachable
  height := t.state.lastHeight
  heightChange := t.state.lastHeightChange
  failures := t.state.consecutiveFailures
  downSince := t.state.downSince
  outages := (t.events.filter (·.category = .down)).map AlertEvent.summary

/-- Two states remember the same of the node. -/
structure SameNode (s t : State) : Prop where
  failures : s.consecutiveFailures = t.consecutiveFailures
  height : s.lastHeight = t.lastHeight
  heightChange : s.lastHeightChange = t.lastHeightChange
  since : s.downSince = t.downSince
  lagging : s.lastExecutionLagging = t.lastExecutionLagging
  refused : s.lastTimestampFailures = t.lastTimestampFailures

/-- Two observations saw the same of the node. -/
structure Observation.SameNode (o p : Observation) : Prop where
  reachable : o.reachable = p.reachable
  height : o.height = p.height
  advanced : o.heightAdvanced = p.heightAdvanced
  lagging : o.executionLagging = p.executionLagging
  refused : o.timestampFailures = p.timestampFailures
  time : o.time = p.time

namespace Bundle

variable {b c : Bundle}

theorem nodeOnly_eq_iff : b.nodeOnly = c.nodeOnly ↔ b.node = c.node ∧ b.collectedAt = c.collectedAt := by
  simp [nodeOnly]

theorem sameNode_reconcile (h : b.nodeOnly = c.nodeOnly) (height : Option Nat) :
    (b.reconcile height).SameNode (c.reconcile height) := by
  obtain ⟨hnode, htime⟩ := nodeOnly_eq_iff.1 h
  constructor <;> simp only [reconcile, hnode, htime]

theorem timestampFailures_reconcile (height : Option Nat) :
    (b.reconcile height).timestampFailures = b.refused := by
  rw [refused, reconcile]
  cases Answer.usable? (some b.node) <;> rfl

end Bundle

namespace State

variable {s : State} {o : Observation}

/-- A count that did not rise is no growth, for a member or not. -/
theorem timestampIncrease?_eq_none (h : ¬ Exceeds o.timestampFailures s.lastTimestampFailures) :
    s.timestampIncrease? o = none := by
  rw [exceeds_iff, Bool.not_eq_true, Option.isSome_eq_false_iff, Option.isNone_iff_eq_none] at h
  rw [timestampIncrease?, h, ite_self]

end State

namespace SameNode

variable {rules : Rules} {validator : String} {s t : State} {o p : Observation}

theorem refl (s : State) : SameNode s s :=
  ⟨rfl, rfl, rfl, rfl, rfl, rfl⟩

theorem height_eq (h : SameNode s t) (ho : o.SameNode p) : s.height o = t.height p := by
  rw [State.height, State.height, ho.height, h.height]

section Steady

variable (h : SameNode s t) (ho : o.SameNode p)
  (hs : ¬ Exceeds o.timestampFailures s.lastTimestampFailures)

include h ho hs

/-- Without more refused time stamps the causes of failure are the node's. -/
theorem increases_eq : s.laggingIncrease? o = t.laggingIncrease? p ∧
    s.timestampIncrease? o = none ∧ t.timestampIncrease? p = none := by
  have ht : ¬ Exceeds p.timestampFailures t.lastTimestampFailures := by
    rwa [← ho.refused, ← h.refused]
  refine ⟨?_, State.timestampIncrease?_eq_none hs, State.timestampIncrease?_eq_none ht⟩
  rw [State.laggingIncrease?, State.laggingIncrease?, ho.lagging, h.lagging]

theorem fails_eq : s.fails o = t.fails p := by
  obtain ⟨hl, hso, htp⟩ := h.increases_eq ho hs
  rw [State.fails, State.fails, Observation.stalled, Observation.stalled, ho.reachable, ho.advanced,
    hl, hso, htp]

theorem failureReason_eq : s.failureReason o = t.failureReason p := by
  obtain ⟨hl, hso, htp⟩ := h.increases_eq ho hs
  simp only [State.failureReason, Observation.stalled, ho.reachable, ho.advanced, ho.lagging,
    ho.refused, h.height_eq ho, hl, hso, htp]

theorem streak_eq : s.streak o = t.streak p := by
  rw [State.streak, State.streak, h.fails_eq ho hs, h.failures]

theorem goesDown_eq : s.goesDown rules o = t.goesDown rules p := by
  rw [State.goesDown, State.goesDown, h.streak_eq ho hs, h.failures]

theorem downEvent?_eq : (s.downEvent? rules validator o).map AlertEvent.summary =
    (t.downEvent? rules validator p).map AlertEvent.summary := by
  rw [State.downEvent?, State.downEvent?, h.goesDown_eq ho hs]
  split
  · simp only [Option.map_some, State.event, h.streak_eq ho hs, h.failureReason_eq ho hs]
  · rfl

/-- Two such checks leave states that still remember the same of the node. -/
theorem next : SameNode (s.next rules o) (t.next rules p) where
  failures := h.streak_eq ho hs
  height := h.height_eq ho
  heightChange := by simp only [State.next, ho.advanced, ho.time, h.heightChange]
  since := by
    simp only [State.next, State.nextDownSince, h.streak_eq ho hs, h.goesDown_eq ho hs, ho.time,
      h.since]
  lagging := by simp only [State.next, ho.lagging, h.lagging]
  refused := by simp only [State.next, ho.refused, h.refused]

/-- Two such checks say the same of the node. -/
theorem liveness_next :
    Transition.liveness ⟨s.next rules o, s.nextEvents rules validator o⟩ =
      Transition.liveness ⟨t.next rules p, t.nextEvents rules validator p⟩ := by
  have hn : SameNode (s.next rules o) (t.next rules p) := h.next ho hs
  have hd : ((s.nextEvents rules validator o).filter (·.category = .down)).map AlertEvent.summary =
      ((t.nextEvents rules validator p).filter (·.category = .down)).map AlertEvent.summary := by
    rw [State.filter_nextEvents, State.filter_nextEvents, ← Option.toList_map, ← Option.toList_map]
    exact congrArg Option.toList (h.downEvent?_eq ho hs)
  have hr : (s.next rules o).lastReachable = (t.next rules p).lastReachable := ho.reachable
  rw [Transition.liveness, Transition.liveness, Liveness.mk.injEq]
  exact ⟨hr, hn.height, hn.heightChange, hn.failures, hn.since, hd⟩

end Steady

end SameNode

/-! ## Runs -/

namespace Rules

variable {rules : Rules} {validator : String}

/-- Runs over the same answers of the node, from states that remember the
same of it, say the same of it at every check. -/
theorem liveness_probes (rules : Rules) (validator : String) {s t : State} (h : SameNode s t) {bs cs : List Bundle}
    (hnode : bs.map Bundle.nodeOnly = cs.map Bundle.nodeOnly)
    (hs : Bundle.NeverRefusesMore s.lastTimestampFailures bs) :
    (rules.probes validator (some s) bs).map Transition.liveness =
      (rules.probes validator (some t) cs).map Transition.liveness := by
  induction bs generalizing s t cs with
  | nil => rw [List.map_nil, eq_comm, List.map_eq_nil_iff] at hnode; rw [hnode]; rfl
  | cons b bs ih =>
    cases cs with
    | nil => cases hnode
    | cons c cs =>
      obtain ⟨hbc, hmore⟩ := List.cons.inj hnode
      have ho : (b.reconcile s.lastHeight).SameNode (c.reconcile t.lastHeight) :=
        h.height ▸ Bundle.sameNode_reconcile hbc _
      have hb : ¬ Exceeds (b.reconcile s.lastHeight).timestampFailures s.lastTimestampFailures := by
        rw [Bundle.timestampFailures_reconcile]
        exact hs.1
      have hknown : (s.next rules (b.reconcile s.lastHeight)).lastTimestampFailures =
          b.refused.or s.lastTimestampFailures := by
        rw [← Bundle.timestampFailures_reconcile]
        rfl
      exact congrArg₂ List.cons (h.liveness_next ho hb)
        (ih (h.next ho hb) hmore (hknown ▸ hs.2))

end Rules

/-- Two runs of checks in which the node answers the same at the same times,
and never has more time stamps refused than last known, say the same of it at
every check: whether it is reachable, its height, its streak, since when it is
down, and which outages are told in which words. What the host, the RPC
endpoint and the services answer, or fail to, is arbitrary in both. And a
source that fails is seen as one that was not asked. -/
theorem node_alone_decides_outages (rules : Rules) (validator : String) (bs cs : List Bundle)
    (hnode : bs.map Bundle.nodeOnly = cs.map Bundle.nodeOnly)
    (hrefused : Bundle.NeverRefusesMore none bs) :
    (rules.probes validator none bs).map Transition.liveness =
      (rules.probes validator none cs).map Transition.liveness ∧
    ∀ (b : Bundle) (height : Option Nat) (e : SourceError),
      { b with resources := some (.error e) }.reconcile height =
        { b with resources := none }.reconcile height ∧
      { b with rpc := some (.error e) }.reconcile height = { b with rpc := none }.reconcile height ∧
      { b with primary := some (.error e) }.reconcile height =
        { b with primary := none }.reconcile height ∧
      { b with secondary := some (.error e) }.reconcile height =
        { b with secondary := none }.reconcile height := by
  refine ⟨?_, fun b height e => ⟨rfl, rfl, rfl, rfl⟩⟩
  cases bs with
  | nil => rw [List.map_nil, eq_comm, List.map_eq_nil_iff] at hnode; rw [hnode]
  | cons b bs =>
    cases cs with
    | nil => cases hnode
    | cons c cs =>
      -- The first check goes by the fresh state of its own time, the same on both sides.
      have htime : b.collectedAt = c.collectedAt := (Bundle.nodeOnly_eq_iff.1 (List.cons.inj hnode).1).2
      have hfirst := Rules.liveness_probes rules validator
        (SameNode.refl (.fresh b.collectedAt)) hnode hrefused
      rw [show rules.probes validator none (c :: cs) =
        rules.probes validator (some (.fresh c.collectedAt)) (c :: cs) from rfl, ← htime]
      exact hfirst

/-- A node that answers, answers again with fewer refused time stamps, as after
a restart, and is silent from then on, while the other sources stay as they
are. -/
def stoppedNode (rpc : Option (Answer Bool)) (services : Option (Answer UptimeReport)) : List Bundle :=
  let check := fun (minute : Int) (node : Answer NodeMetrics) =>
    Bundle.mk node none rpc services services (.ofNanos (minute * 60000000000))
  [check 0 (.ok { height := some 7, timestampFailures := some 4 }),
    check 1 (.ok { height := some 8, timestampFailures := some 1 }),
    check 2 (.error (.timeout "metrics" 5)), check 3 (.error (.timeout "metrics" 5))]

/-- Whether the services fail and the RPC endpoint answers, or the services
know the validator in the active set and the RPC endpoint does not answer. -/
theorem stopped_node_told_either_way :
    let rules := Rules.ofSettings 2 {}
    let member : UptimeReport := ⟨.huginn, none, none, some 3, some true, .ofNanos 0⟩
    let failing := stoppedNode (some (.ok true)) (some (.error (.rateLimited "huginn")))
    let telling := stoppedNode (some (.error (.timeout "rpc" 5))) (some (.ok member))
    failing.map Bundle.nodeOnly = telling.map Bundle.nodeOnly ∧ Bundle.NeverRefusesMore none failing ∧
      (rules.probes "v" none failing).map (·.liveness.outages) =
        [[], [], [], ["v is DOWN: 2 consecutive failed checks, metrics endpoint unreachable"]] ∧
      (rules.probes "v" none failing).map Transition.liveness =
        (rules.probes "v" none telling).map Transition.liveness := by
  intro rules member failing telling
  have hnode : failing.map Bundle.nodeOnly = telling.map Bundle.nodeOnly := rfl
  have hrefused : Bundle.NeverRefusesMore none failing :=
    ⟨by decide, by decide, by decide, by decide, trivial⟩
  exact ⟨hnode, hrefused, by decide +kernel,
    (node_alone_decides_outages rules "v" failing telling hnode hrefused).1⟩

end ValidatorWatch
