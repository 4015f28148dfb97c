import ValidatorWatch.Proofs.Dispatch.Bounds
import ValidatorWatch.Proofs.Evaluation.Runs
import ValidatorWatch.Proofs.Monitor.Watch
/-!
# What a check leaves in the state

If what the sources answered can be stored, a state that can be stored is
followed by one that can be stored, as long as its counters fit: the tries of
waiting alerts, and the counts of the window. `State.Within` is a state that
can be stored if its counters may go up to a bound, and `Watch.within_check`
and `Watch.within_report` say how far the bound goes up.
-/

namespace ValidatorWatch

open Time (Instant)

/-! ## What the sources answer -/

/-- The counters of the node have 64 bits. -/
structure NodeMetrics.Storable (n : NodeMetrics) : Prop where
  height : ∀ k ∈ n.height, k < 2 ^ 64
  peers : ∀ k ∈ n.peers, k < 2 ^ 64
  executionLagging : ∀ k ∈ n.executionLagging, k < 2 ^ 64
  timestampFailures : ∀ k ∈ n.timestampFailures, k < 2 ^ 64

/-- The figures of the answers can be stored. -/
structure Bundle.Storable (b : Bundle) : Prop where
  node : ∀ n, b.node = .ok n → n.Storable
  resources : ∀ u, b.resources = some (.ok u) → u.Storable
  primary : ∀ r, b.primary = some (.ok r) → r.figures.Storable
  secondary : ∀ r, b.secondary = some (.ok r) → r.figures.Storable
  collectedAt : Instant.InYears b.collectedAt.date.year

/-- The figures of the observation can be stored. -/
structure Observation.Storable (o : Observation) : Prop where
  height : ∀ k ∈ o.height, k < 2 ^ 64
  peers : ∀ k ∈ o.peers, k < 2 ^ 64
  resources : o.resources.Storable
  uptime : ∀ u ∈ o.uptime, u.Storable
  executionLagging : ∀ k ∈ o.executionLagging, k < 2 ^ 64
  timestampFailures : ∀ k ∈ o.timestampFailures, k < 2 ^ 64
  time : Instant.InYears o.time.date.year

theorem ResourceUsage.storable_empty : ResourceUsage.Storable {} :=
  ⟨by simp, by simp, by simp⟩

theorem NodeMetrics.storable_empty : NodeMetrics.Storable {} :=
  ⟨by simp, by simp, by simp, by simp⟩

namespace Bundle

theorem storable_timedOut {t : Instant} (h : Instant.InYears t.date.year) (seconds : Nat) :
    (timedOut seconds t).Storable := by
  constructor <;> simp [timedOut, h]

theorem usable?_eq_some {α : Type} {x : Option (Answer α)} {a : α} :
    Answer.usable? x = some a ↔ x = some (.ok a) := by
  unfold Answer.usable?
  split <;> simp_all

/-- What is answered is observed. -/
theorem Storable.reconcile {b : Bundle} (h : b.Storable) (last : Option Nat) : (b.reconcile last).Storable := by
  have hnode : ((Answer.usable? (some b.node)).getD {}).Storable := by
    cases hn : Answer.usable? (some b.node) with
    | none => exact NodeMetrics.storable_empty
    | some n => exact h.node n (Option.some.inj (usable?_eq_some.1 hn))
  have hresources : ((Answer.usable? b.resources).getD {}).Storable := by
    cases hu : Answer.usable? b.resources with
    | none => exact ResourceUsage.storable_empty
    | some u => exact h.resources u (usable?_eq_some.1 hu)
  refine ⟨hnode.height, hnode.peers, hresources, fun u hu => ?_, hnode.executionLagging, hnode.timestampFailures,
    h.collectedAt⟩
  obtain ⟨r, hr, rfl⟩ := Option.map_eq_some_iff.1 hu
  rcases Option.or_eq_some_iff.1 hr with hr | ⟨-, hr⟩
  · exact h.primary r (usable?_eq_some.1 (Option.filter_eq_some_iff.1 hr).1)
  · exact h.secondary r (usable?_eq_some.1 (Option.filter_eq_some_iff.1 hr).1)

end Bundle

/-! ## States -/

/-- The counts of the window go up to a bound. -/
structure UptimeWindow.Within (n : Nat) (w : UptimeWindow) : Prop where
  startedAt : Instant.InYears w.startedAt.date.year
  checks : w.checks ≤ n
  healthyChecks : w.healthyChecks ≤ n
  failedChecks : w.failedChecks ≤ n
  downEpisodes : w.downEpisodes ≤ n

/-- A state that can be stored if its counters may go up to a bound. -/
structure State.Within (n : Nat) (s : State) : Prop where
  consecutiveFailures : s.consecutiveFailures < 2 ^ 32
  lastHeight : ∀ k ∈ s.lastHeight, k < 2 ^ 64
  lastHeightChange : ∀ t ∈ s.lastHeightChange, Instant.InYears t.date.year
  lastPeers : ∀ k ∈ s.lastPeers, k < 2 ^ 64
  lastObservation : ∀ t ∈ s.lastObservation, Instant.InYears t.date.year
  lastResources : s.lastResources.Storable
  lastTimeouts : ∀ k ∈ s.lastTimeouts, k < 2 ^ 64
  lastUptime : ∀ u ∈ s.lastUptime, u.Storable
  downSince : ∀ t ∈ s.downSince, Instant.InYears t.date.year
  lastExecutionLagging : ∀ k ∈ s.lastExecutionLagging, k < 2 ^ 64
  lastTimestampFailures : ∀ k ∈ s.lastTimestampFailures, k < 2 ^ 64
  resourceUnknownTicks : s.resourceUnknownTicks < 2 ^ 32
  ledger : s.ledger.Within n
  window : s.window.Within n

/-- The counters of a state have not outgrown their 32 and 64 bits. -/
structure State.Fits (s : State) : Prop where
  attempts : ∀ p ∈ s.ledger.pending, p.attempts < 2 ^ 32
  checks : s.window.checks < 2 ^ 64
  healthyChecks : s.window.healthyChecks < 2 ^ 64
  failedChecks : s.window.failedChecks < 2 ^ 64
  downEpisodes : s.window.downEpisodes < 2 ^ 64

namespace State

variable {n m : Nat} {s : State} {o : Observation} {rules : Rules} {validator : String}

theorem Within.mono (h : s.Within n) (hle : n ≤ m) : s.Within m :=
  { h with
    ledger := h.ledger.mono hle
    window := ⟨h.window.startedAt, h.window.checks.trans hle, h.window.healthyChecks.trans hle,
      h.window.failedChecks.trans hle, h.window.downEpisodes.trans hle⟩ }

theorem Within.fits (h : s.Within n) (hn : n < 2 ^ 32) : s.Fits where
  attempts p hp := (h.ledger.pending p hp).attempts.trans_lt hn
  checks := h.window.checks.trans_lt (hn.trans (by decide))
  healthyChecks := h.window.healthyChecks.trans_lt (hn.trans (by decide))
  failedChecks := h.window.failedChecks.trans_lt (hn.trans (by decide))
  downEpisodes := h.window.downEpisodes.trans_lt (hn.trans (by decide))

theorem Within.storable (h : s.Within n) (hf : s.Fits) : s.Storable :=
  { h with
    ledger := ⟨h.ledger.lastSent, h.ledger.lastEmergency,
      fun p hp => ⟨(h.ledger.pending p hp).event, (h.ledger.pending p hp).firstFailedAt, hf.attempts p hp⟩⟩
    window := ⟨h.window.startedAt, hf.checks, hf.healthyChecks, hf.failedChecks, hf.downEpisodes⟩ }

theorem within_fresh {t : Instant} (h : Instant.InYears t.date.year) (n : Nat) : (fresh t).Within n :=
  { storable_fresh h with
    ledger := AlertLedger.within_empty n
    window := ⟨h, Nat.zero_le n, Nat.zero_le n, Nat.zero_le n, Nat.zero_le n⟩ }

/-! ## A check -/

theorem countUp_lt (k : Nat) : countUp k < 2 ^ 32 := by
  have hle : countUp k ≤ streakLimit := Nat.min_le_right _ _
  exact Nat.lt_of_le_of_lt hle (by decide)

theorem streak_lt : s.streak o < 2 ^ 32 := by
  unfold streak
  split
  · exact countUp_lt _
  · decide

theorem unknownTicks_lt : s.unknownTicks o < 2 ^ 32 := by
  unfold unknownTicks
  split
  · exact countUp_lt _
  · decide

theorem forall_mem_or {α : Type} {P : α → Prop} {x y : Option α} (hx : ∀ a ∈ x, P a) (hy : ∀ a ∈ y, P a) :
    ∀ a ∈ x.or y, P a := by
  cases x with
  | none => exact hy
  | some b => exact hx

theorem storable_nextResources (h : s.Within n) (ho : o.Storable) : (s.nextResources o).Storable := by
  unfold nextResources
  split
  · split
    · exact ResourceUsage.storable_empty
    · exact h.lastResources
  · exact ho.resources

theorem within_nextWindow (h : s.window.Within n) : (s.nextWindow rules o).Within (n + 1) where
  startedAt := h.startedAt
  checks := Nat.succ_le_succ h.checks
  healthyChecks := Nat.add_le_add h.healthyChecks (by split <;> decide)
  failedChecks := Nat.add_le_add h.failedChecks (by split <;> decide)
  downEpisodes := Nat.add_le_add h.downEpisodes (by split <;> decide)

theorem Within.next (h : s.Within n) (ho : o.Storable) : (s.next rules o).Within (n + 1) where
  consecutiveFailures := streak_lt
  lastHeight := forall_mem_or ho.height h.lastHeight
  lastHeightChange t ht := by
    rw [State.next] at ht
    dsimp only at ht
    split at ht
    · obtain rfl := Option.some.inj ht
      exact ho.time
    · exact h.lastHeightChange t ht
  lastPeers := forall_mem_or ho.peers h.lastPeers
  lastObservation t ht := by
    obtain rfl := Option.some.inj ht
    exact ho.time
  lastResources := storable_nextResources h ho
  lastTimeouts := by
    refine forall_mem_or (fun k hk => ?_) h.lastTimeouts
    obtain ⟨u, hu, hk⟩ := Option.bind_eq_some_iff.1 hk
    exact (ho.uptime u hu).timeouts k hk
  lastUptime := forall_mem_or ho.uptime h.lastUptime
  downSince t ht := by
    have hsince : s.nextDownSince rules o = some t := ht
    unfold nextDownSince at hsince
    split at hsince
    · cases hsince
    split at hsince
    · obtain rfl := Option.some.inj hsince
      exact ho.time
    · exact h.downSince t hsince
  lastExecutionLagging := forall_mem_or ho.executionLagging h.lastExecutionLagging
  lastTimestampFailures := forall_mem_or ho.timestampFailures h.lastTimestampFailures
  resourceUnknownTicks := unknownTicks_lt
  ledger := h.ledger.mono (Nat.le_succ n)
  window := within_nextWindow h.window

theorem queueable_nextEvents (h : s.Within n) (ho : o.Storable) :
    ∀ e ∈ s.nextEvents rules validator o, e.Queueable := by
  intro e he
  obtain ⟨severity, category, summary, crossed, rfl⟩ := mem_nextEvents he
  refine ⟨ho.time, fun _ => ⟨forall_mem_or ho.height h.lastHeight, ho.peers, fun x hx => ?_, by simp [event], ho.time⟩⟩
  obtain ⟨u, hu, hx⟩ := Option.bind_eq_some_iff.1 hx
  exact (forall_mem_or ho.uptime h.lastUptime u hu).percent x hx

theorem length_nextEvents_le : (s.nextEvents rules validator o).length ≤ 5 :=
  List.length_filterMap_le _ _

/-! ## A report -/

theorem Within.extendedReport (h : s.Within n) {now : Instant} (hnow : Instant.InYears now.date.year) :
    (s.extendedReport validator now).2.Within n :=
  { h with window := ⟨hnow, Nat.zero_le n, Nat.zero_le n, Nat.zero_le n, Nat.zero_le n⟩ }

theorem queueable_extendedReport {now : Instant} (hnow : Instant.InYears now.date.year) :
    (s.extendedReport validator now).1.Queueable :=
  ⟨hnow, fun h => by cases h⟩

end State

namespace Watch

variable {n : Nat} {w : Watch} {now : Instant}

/-- Telling at most five events. -/
theorem within_tell {s : State} {events : List AlertEvent} (h : s.Within (n + 1)) (hl : s.ledger.Within n)
    (he : ∀ e ∈ events, e.Queueable) (hlength : events.length ≤ 5) (hnow : Instant.InYears now.date.year) :
    (w.tell now events s).state.Within (n + 16) := by
  -- One try for each alert that waits, and at most three for each of five events.
  have hledger := hl.dispatch w.dispatcher he hnow
  have hwindow := (h.mono (show n + 1 ≤ n + 16 by omega)).window
  exact { h with
    ledger := hledger.mono (by omega)
    window := hwindow }

theorem within_check (h : ∀ s ∈ w.state, s.Within n) {b : Bundle} (hb : b.Storable)
    (hnow : Instant.InYears now.date.year) (rules : Rules) (validator : String) :
    (w.check rules validator now b).state.Within (n + 16) := by
  have ho : (w.observation b).Storable := hb.reconcile _
  -- A first check goes by a fresh state.
  have hprev : (w.state.getD (.fresh (w.observation b).time)).Within n := by
    cases hs : w.state with
    | none => exact State.within_fresh ho.time n
    | some s => exact h s hs
  exact within_tell (hprev.next ho) hprev.ledger (State.queueable_nextEvents hprev ho) State.length_nextEvents_le hnow

theorem within_report {s : State} (h : s.Within n) (hnow : Instant.InYears now.date.year) (validator : String) :
    (w.report validator now s).state.Within (n + 16) := by
  have hnext : (s.extendedReport validator now).2.Within n := h.extendedReport hnow
  refine within_tell (hnext.mono (Nat.le_succ n)) hnext.ledger ?_ (Nat.le_add_left 1 4) hnow
  exact List.forall_mem_singleton.2 (State.queueable_extendedReport hnow)

end Watch

end ValidatorWatch
