import ValidatorWatch.Proofs.Evaluation.Runs
/-!
# The end of an outage

While the failing streak is at the threshold the verdict is critical, so a
check that makes such a validator active comes from a verdict that a recovery
is told from. It is told, with one exception: if a raised resource level goes
stale on that very check, the end of the outage is passed over in silence.
`recovery_told_unless_level_expires` has the exact condition, and
`outage_ends_in_silence` a run that meets it.
-/

namespace ValidatorWatch

open Time (Instant)

namespace Verdict

theorem critical_worst (v : Verdict) : Verdict.critical.worst v = .critical := by
  cases v <;> rfl

end Verdict

variable {rules : Rules} {validator : String} {s : State} {o : Observation}

namespace State

theorem nextVerdict_of_streak (h : rules.threshold ≤ s.streak o) :
    s.nextVerdict rules o = .critical := by
  rw [nextVerdict, streakVerdict, if_pos h, Verdict.critical_worst, Verdict.critical_worst]

/-- A level is dropped for want of figures: none now, none on the four checks
before, and a raised level on record. -/
theorem resourcesExpire_iff : s.resourcesExpire o = true ↔
    o.resources.isEmpty = true ∧ staleTicks ≤ s.resourceUnknownTicks + 1 ∧
      s.resourceLevel ≠ .normal := by
  by_cases he : o.resources.isEmpty = true
  · have hlimit : staleTicks ≤ streakLimit := by decide
    have hu : staleTicks ≤ s.unknownTicks o ↔ staleTicks ≤ s.resourceUnknownTicks + 1 := by
      rw [unknownTicks, if_pos he, countUp]
      omega
    simp [resourcesExpire, he, hu]
  · simp [resourcesExpire, he]

end State

/-- After every run a streak at the threshold goes with a critical verdict. -/
theorem Rules.verdict_of_outage {run : List Move} (hs : rules.after validator run = some s)
    (hout : rules.threshold ≤ s.consecutiveFailures) : s.verdict = .critical := by
  have h := @Rules.after_keeps rules validator
    (fun _ s => rules.threshold ≤ s.consecutiveFailures → s.verdict = .critical)
    ?_ ?_ ?_ run default
  · rw [hs] at h
    exact h hout
  · intro t h
    have hpos := rules.threshold_pos
    have h0 : rules.threshold ≤ 0 := h
    omega
  · intro _ s o _ h
    exact State.nextVerdict_of_streak h
  · intro _ s now h
    exact h

/-- The check that ends an outage in an active validator tells of the recovery
exactly once, unless on that check a raised resource level is dropped for want
of figures. Then it tells nothing of it. -/
theorem recovery_told_unless_level_expires (rules : Rules) (validator : String) (run : List Move)
    (s : State) (o : Observation) (hs : rules.after validator run = some s)
    (hout : rules.threshold ≤ s.consecutiveFailures)
    (hact : (rules.evaluate validator (some s) o).state.verdict = .active) :
    ((rules.evaluate validator (some s) o).events.filter (·.category = .recovery)).length =
      if o.resources.isEmpty = true ∧ staleTicks ≤ s.resourceUnknownTicks + 1 ∧
        s.resourceLevel ≠ .normal then 0 else 1 := by
  have hv : s.nextVerdict rules o = .active := hact
  have hdown : s.verdict.isDown = true := by rw [Rules.verdict_of_outage hs hout]; rfl
  rw [Rules.filter_evaluate, Option.getD_some, State.eventOf?, State.recoveryEvent?]
  by_cases hx : s.resourcesExpire o = true
  · rw [if_neg (by simp [hx]), if_pos (State.resourcesExpire_iff.1 hx)]
    rfl
  · rw [if_pos (by simp [hx, hv, hdown]), if_neg (fun h => hx (State.resourcesExpire_iff.2 h))]
    rfl

/-- A check in which everything is fine and no resource figure is known. -/
def fineCheck (minute : Int) : Observation where
  reachable := true
  height := none
  peers := none
  heightAdvanced := true
  resources := {}
  uptime := none
  inActiveSet := none
  unverified := false
  confidence := .low
  rpcHealthy := none
  executionLagging := none
  timestampFailures := none
  time := .ofNanos (minute * 60000000000)

/-- A check in which nothing answers. -/
def deadCheck (minute : Int) : Observation :=
  .unreachable (.ofNanos (minute * 60000000000))

/-- One dead check at a threshold of one, and then a fine one. -/
theorem recovery_told_after_one_dead_check :
    let rules := Rules.ofSettings 1 {}
    let s := (State.fresh (deadCheck 0).time).next rules (deadCheck 0)
    rules.after "v" [.check (deadCheck 0)] = some s ∧ rules.threshold ≤ s.consecutiveFailures ∧
      (rules.evaluate "v" (some s) (fineCheck 1)).state.verdict = .active ∧
      ((rules.evaluate "v" (some s) (fineCheck 1)).events.filter (·.category = .recovery)).length = 1 := by
  refine ⟨rfl, by decide, by decide, ?_⟩
  exact recovery_told_unless_level_expires _ "v" [.check (deadCheck 0)] _ (fineCheck 1) rfl
    (by decide) (by decide)

/-- The processor is busy beyond the critical threshold, then nothing answers
for four checks. -/
def busyThenDead : List Move :=
  [.check { fineCheck 0 with resources := { cpu := some 97 } }, .check (deadCheck 1),
    .check (deadCheck 2), .check (deadCheck 3), .check (deadCheck 4)]

/-- The outage of `busyThenDead` ends with a fine check that has no figures
either. The validator is active again and no recovery is told. -/
theorem outage_ends_in_silence :
    ¬ ∀ (rules : Rules) (validator : String) (run : List Move) (s : State) (o : Observation),
      rules.after validator run = some s → rules.threshold ≤ s.consecutiveFailures →
      (rules.evaluate validator (some s) o).state.verdict = .active →
      ((rules.evaluate validator (some s) o).events.filter (·.category = .recovery)).length = 1 := by
  intro h
  have hlen := h (Rules.ofSettings 3 {}) "v" busyThenDead _ (fineCheck 5) rfl
    (by decide +kernel) (by decide +kernel)
  revert hlen
  decide +kernel

end ValidatorWatch
