import ValidatorWatch.Monitor.Gauges
import ValidatorWatch.Proofs.Evaluation.Figures
import ValidatorWatch.Store.History
/-!
# Stale figures

A validator's figures are shown in three places: in its entry of the snapshot,
in its rows of the history and on the metric page. All three show what the
state has on record. So what they show of a host that has stopped answering
hangs on the record being cleared, and that is done along with a raised level
only: figures that raised none are shown for as long as no others come.
`stale_figures_hidden_iff` has the exact condition.
-/

namespace ValidatorWatch

open Time (Instant)

/-- Nothing is known of the host: no figure is on record, in the entry of the
snapshot or in a row of the history, and none is added to a metric page. -/
structure ShowsNoFigures (s : State) : Prop where
  record : s.lastResources = {}
  entry : ∀ network host, (ValidatorSnapshot.ofState network host s).resources = {}
  row : ∀ validator time, (CheckRecord.ofState validator s time).cpu = none ∧
    (CheckRecord.ofState validator s time).memory = none ∧ (CheckRecord.ofState validator s time).disk = none
  page : ∀ (r : GaugeRegistry) name network host,
    (r.showValidator name (.ofState network host s)).resources = r.resources

/-- All that is shown is what is on record. -/
theorem showsNoFigures_iff {s : State} : ShowsNoFigures s ↔ s.lastResources = {} := by
  constructor
  · intro h
    exact h.record
  · intro h
    constructor
    · exact h
    · intro network host
      exact h
    · intro validator time
      simp [CheckRecord.ofState, h]
    · intro r name network host
      simp [GaugeRegistry.showValidator, ValidatorSnapshot.ofState, Gauge.setKnown, h]

/-- From the fifth check without figures on none are shown, unless the last ones
that were seen raised no level. Then these stay on record. -/
theorem stale_figures_hidden_iff (rules : Rules) (validator : String) (run : List Move) (o : Observation)
    (hstale : 5 ≤ checksWithoutFigures (o :: seen run)) :
    let s := (rules.evaluate validator (rules.after validator run) o).state
    (ShowsNoFigures s ↔ ∀ u, lastFigures (o :: seen run) = some u → rules.thresholds.level u ≠ .normal) ∧
      ∀ u, lastFigures (o :: seen run) = some u → rules.thresholds.level u = .normal → s.lastResources = u := by
  intro s
  have hrecord : s.lastResources = figuresOnRecord rules.thresholds (o :: seen run) :=
    ((Remembers.after rules validator run o.time).next o).figures
  have hold : ¬ checksWithoutFigures (o :: seen run) ≤ 4 := by omega
  rw [showsNoFigures_iff, hrecord, figuresOnRecord]
  cases hu : lastFigures (o :: seen run) with
  | none => simp
  | some u =>
    have hsome : u ≠ {} := by
      intro hnone
      have hfigure := isEmpty_of_lastFigures hu
      rw [hnone] at hfigure
      cases hfigure
    by_cases hn : rules.thresholds.level u = .normal <;> simp [hold, hn, hsome]

/-- One check that finds the processor that busy, and four without figures. -/
def busyThenQuiet (percent : Float) : List Move :=
  .check { fineCheck 0 with resources := { cpu := some percent } } ::
    [1, 2, 3, 4].map fun minute => .check (fineCheck minute)

/-- At 97 percent the level is critical, and the figure is gone with the fifth
check without one. -/
theorem critical_figure_hidden :
    let rules := Rules.ofSettings 3 {}
    5 ≤ checksWithoutFigures (fineCheck 5 :: seen (busyThenQuiet 97)) ∧
      ShowsNoFigures (rules.evaluate "v" (rules.after "v" (busyThenQuiet 97)) (fineCheck 5)).state := by
  intro rules
  have hstale : 5 ≤ checksWithoutFigures (fineCheck 5 :: seen (busyThenQuiet 97)) := by decide
  refine ⟨hstale, (stale_figures_hidden_iff rules "v" (busyThenQuiet 97) (fineCheck 5) hstale).1.2 ?_⟩
  intro u hu
  obtain rfl := Option.some.inj hu
  decide +kernel

/-- At 50 percent the level is normal, and the figure is still there then. -/
theorem normal_figure_shown :
    ¬ ∀ (rules : Rules) (validator : String) (run : List Move) (o : Observation),
      5 ≤ checksWithoutFigures (o :: seen run) →
        ShowsNoFigures (rules.evaluate validator (rules.after validator run) o).state := by
  intro h
  have hrecord := (h (Rules.ofSettings 3 {}) "v" (busyThenQuiet 50) (fineCheck 5) (by decide)).record
  revert hrecord
  decide +kernel

end ValidatorWatch
