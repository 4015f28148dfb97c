import ValidatorWatch.Proofs.Evaluation.Recovery
import ValidatorWatch.Proofs.Evaluation.Streak
/-!
# Resource figures and their level

What the state has of the host's resources is said here by what was seen: the
last figures, and how many checks without any came after them. A level is in
force for four such checks and is normal from the fifth on. The figures
themselves stay on record, unless their level was raised: then they go with it.

`Remembers` is the invariant, and `level_from_last_figures` the closed form of
levels, resource events and verdicts.
-/

namespace ValidatorWatch

open Time (Instant)

/-! ## The history of figures, the latest observation first -/

/-- The last figures that were seen. -/
def lastFigures (history : List Observation) : Option ResourceUsage :=
  (history.find? fun o => !o.resources.isEmpty).map Observation.resources

/-- How many checks in a row had no figure, up to the latest one. -/
def checksWithoutFigures (history : List Observation) : Nat :=
  (history.takeWhile fun o => o.resources.isEmpty).length

/-- The level of the last figures, if at most four checks without figures
followed them, and the normal one otherwise. -/
def levelInForce (thresholds : ResourceThresholds) (history : List Observation) : ResourceLevel :=
  match lastFigures history with
  | some u => if checksWithoutFigures history ≤ 4 then thresholds.level u else .normal
  | none => .normal

/-- The last figures, unless their level was raised and more than four checks
without figures followed them. -/
def figuresOnRecord (thresholds : ResourceThresholds) (history : List Observation) : ResourceUsage :=
  match lastFigures history with
  | some u =>
    if checksWithoutFigures history ≤ 4 ∨ thresholds.level u = .normal then u else {}
  | none => {}

/-- What a failing streak says, given its length. -/
def streakVerdictOf (threshold length : Nat) : Verdict :=
  if threshold ≤ length then .critical else if 0 < length then .warning else .active

section History

variable {thresholds : ResourceThresholds} {o : Observation} {before : List Observation}

theorem lastFigures_cons_of_some (h : o.resources.isEmpty = false) : lastFigures (o :: before) = some o.resources := by
  simp [lastFigures, h]

theorem lastFigures_cons_of_none (h : o.resources.isEmpty = true) : lastFigures (o :: before) = lastFigures before := by
  simp [lastFigures, h]

theorem checksWithoutFigures_cons_of_some (h : o.resources.isEmpty = false) :
    checksWithoutFigures (o :: before) = 0 := by
  simp [checksWithoutFigures, h]

theorem checksWithoutFigures_cons_of_none (h : o.resources.isEmpty = true) :
    checksWithoutFigures (o :: before) = checksWithoutFigures before + 1 := by
  simp [checksWithoutFigures, h]

/-- A check without figures makes a level stale: four checks before it had none
either, and the level of the last figures was raised. -/
def GoesStale (thresholds : ResourceThresholds) (before : List Observation) : Prop :=
  checksWithoutFigures before = 4 ∧ (lastFigures before).any (fun u => thresholds.level u ≠ .normal) = true

instance (thresholds : ResourceThresholds) (before : List Observation) : Decidable (GoesStale thresholds before) :=
  inferInstanceAs (Decidable (_ ∧ _))

/-- If the fifth check without figures makes nothing stale, the last figures
raised no level. -/
theorem level_of_not_stale {u : ResourceUsage} (h : ¬ GoesStale thresholds before) (hu : lastFigures before = some u)
    (hfour : checksWithoutFigures before = 4) : thresholds.level u = .normal := by
  by_contra hraised
  exact h ⟨hfour, by simp [hu, hraised]⟩

theorem levelInForce_cons_of_none (h : o.resources.isEmpty = true) : levelInForce thresholds (o :: before) =
    if GoesStale thresholds before then .normal else levelInForce thresholds before := by
  rw [levelInForce, levelInForce, lastFigures_cons_of_none h, checksWithoutFigures_cons_of_none h]
  by_cases hstale : GoesStale thresholds before
  · rw [if_pos hstale, hstale.1]
    cases lastFigures before <;> rfl
  · rw [if_neg hstale]
    cases hu : lastFigures before with
    | none => rfl
    | some u =>
      by_cases hfour : checksWithoutFigures before = 4
      · simp [level_of_not_stale hstale hu hfour]
      · simp only [show checksWithoutFigures before + 1 ≤ 4 ↔ checksWithoutFigures before ≤ 4 by omega]

theorem figuresOnRecord_cons_of_none (h : o.resources.isEmpty = true) : figuresOnRecord thresholds (o :: before) =
    if GoesStale thresholds before then {} else figuresOnRecord thresholds before := by
  rw [figuresOnRecord, figuresOnRecord, lastFigures_cons_of_none h, checksWithoutFigures_cons_of_none h]
  by_cases hstale : GoesStale thresholds before
  · rw [if_pos hstale]
    obtain ⟨hfour, hraised⟩ := hstale
    cases hu : lastFigures before with
    | none => rfl
    | some u =>
      rw [hu, Option.any_some, decide_eq_true_eq] at hraised
      simp [hfour, hraised]
  · rw [if_neg hstale]
    cases hu : lastFigures before with
    | none => rfl
    | some u =>
      by_cases hfour : checksWithoutFigures before = 4
      · simp [level_of_not_stale hstale hu hfour]
      · simp only [show checksWithoutFigures before + 1 ≤ 4 ↔ checksWithoutFigures before ≤ 4 by omega]

/-- Figures that were seen are not empty. -/
theorem isEmpty_of_lastFigures {history : List Observation} {u : ResourceUsage} (h : lastFigures history = some u) :
    u.isEmpty = false := by
  obtain ⟨o, ho, rfl⟩ := Option.map_eq_some_iff.1 h
  simpa using List.find?_some ho

end History

theorem Verdict.rank_worst (a b : Verdict) : (a.worst b).rank = max a.rank b.rank := by
  cases a <;> cases b <;> rfl

theorem ResourceLevel.lt_iff_ne_normal {l : ResourceLevel} : .normal < l ↔ l ≠ .normal := by
  cases l <;> decide

/-! ## The state remembers them -/

/-- The history as the state keeps it, as far as resources go. -/
structure Remembers (rules : Rules) (history : List Observation) (s : State) : Prop where
  unknown : s.resourceUnknownTicks = min (checksWithoutFigures history) streakLimit
  level : s.resourceLevel = levelInForce rules.thresholds history
  figures : s.lastResources = figuresOnRecord rules.thresholds history

namespace Remembers

variable {rules : Rules} {validator : String} {before history : List Observation} {s : State} {o : Observation}

theorem fresh (t : Instant) : Remembers rules [] (.fresh t) := by
  constructor <;> rfl

/-- Figures replace whatever was on record. -/
theorem next_of_figures (rules : Rules) (s : State) (before : List Observation) (ho : o.resources.isEmpty = false) :
    Remembers rules (o :: before) (s.next rules o) := by
  constructor
  · rw [checksWithoutFigures_cons_of_some ho, Nat.zero_min]
    simp [State.next, State.unknownTicks, ho]
  · rw [levelInForce, lastFigures_cons_of_some ho, checksWithoutFigures_cons_of_some ho]
    simp [State.next, State.nextLevel, ho]
  · rw [figuresOnRecord, lastFigures_cons_of_some ho, checksWithoutFigures_cons_of_some ho]
    simp [State.next, State.nextResources, ho]

theorem expires_iff (h : Remembers rules before s) (ho : o.resources.isEmpty = true) :
    s.resourcesExpire o = true ↔ GoesStale rules.thresholds before := by
  have hlimit : staleTicks ≤ streakLimit := by decide
  have hstale : staleTicks = 5 := rfl
  rw [State.resourcesExpire_iff, h.unknown, h.level, levelInForce, GoesStale]
  cases hu : lastFigures before with
  | none => simp
  | some u =>
    by_cases hn : checksWithoutFigures before ≤ 4
    · simp only [ho, hn, true_and, if_true, Option.any_some, decide_eq_true_eq]
      constructor
      · rintro ⟨hticks, hlevel⟩
        exact ⟨by omega, hlevel⟩
      · rintro ⟨hticks, hlevel⟩
        exact ⟨by omega, hlevel⟩
    · simp only [hn, if_false, ne_eq, not_true_eq_false, and_false, false_iff, not_and]
      intro hfour
      omega

/-- Without figures the record is one check older. -/
theorem next_of_silence (h : Remembers rules before s) (ho : o.resources.isEmpty = true) :
    Remembers rules (o :: before) (s.next rules o) := by
  have hx := h.expires_iff ho
  constructor
  · have hticks : (s.next rules o).resourceUnknownTicks = countUp s.resourceUnknownTicks := by
      simp [State.next, State.unknownTicks, ho]
    rw [hticks, h.unknown, checksWithoutFigures_cons_of_none ho, countUp]
    omega
  · have hlevel : (s.next rules o).resourceLevel = if s.resourcesExpire o then .normal else s.resourceLevel := by
      simp [State.next, State.nextLevel, ho]
    rw [hlevel, levelInForce_cons_of_none ho, h.level]
    exact ite_congr (propext hx) (fun _ => rfl) (fun _ => rfl)
  · have hfigures : (s.next rules o).lastResources = if s.resourcesExpire o then {} else s.lastResources := by
      simp [State.next, State.nextResources, ho]
    rw [hfigures, figuresOnRecord_cons_of_none ho, h.figures]
    exact ite_congr (propext hx) (fun _ => rfl) (fun _ => rfl)

theorem next (h : Remembers rules before s) (o : Observation) : Remembers rules (o :: before) (s.next rules o) := by
  cases ho : o.resources.isEmpty with
  | true => exact h.next_of_silence ho
  | false => exact next_of_figures rules s before ho

theorem report (h : Remembers rules before s) (validator : String) (now : Instant) :
    Remembers rules before (s.extendedReport validator now).2 :=
  ⟨h.unknown, h.level, h.figures⟩

/-- After every run the state remembers what was seen. -/
theorem after (rules : Rules) (validator : String) (run : List Move) (t : Instant) :
    Remembers rules (seen run) ((rules.after validator run).getD (.fresh t)) :=
  Rules.after_keeps fresh (fun _ _ o h => h.next o) (fun _ _ now h => h.report validator now) run t

/-- A raised level is that of figures that are at most four checks old. -/
theorem unknown_le (h : Remembers rules history s) (hraised : .normal < s.resourceLevel) :
    s.resourceUnknownTicks ≤ 4 := by
  rw [ResourceLevel.lt_iff_ne_normal, h.level, levelInForce] at hraised
  rw [h.unknown]
  split at hraised
  · split at hraised
    · omega
    · exact absurd rfl hraised
  · exact absurd rfl hraised

end Remembers

namespace State

variable {rules : Rules} {validator : String} {s : State} {o : Observation}

/-- A check tells of the level of its figures if that is above the one on
record. -/
theorem isSome_resourceEvent?_iff : (s.resourceEvent? rules validator o).isSome = true ↔
    o.resources.isEmpty = false ∧ s.resourceLevel < rules.thresholds.level o.resources := by
  unfold resourceEvent?
  cases ho : o.resources.isEmpty with
  | true => simp
  | false =>
    by_cases hlt : s.resourceLevel < rules.thresholds.level o.resources
    · cases hl : rules.thresholds.level o.resources with
      | normal => rw [hl] at hlt; exact absurd hlt (Nat.not_lt_zero _)
      | warning => rw [hl] at hlt; simp [hlt, ResourceLevel.severity?]
      | critical => rw [hl] at hlt; simp [hlt, ResourceLevel.severity?]
    · simp [hlt]

theorem severity_of_resourceEvent? {e : AlertEvent} (h : s.resourceEvent? rules validator o = some e) :
    (rules.thresholds.level o.resources).severity? = some e.severity := by
  unfold resourceEvent? at h
  dsimp only at h
  split at h
  · cases h
  · split at h
    · obtain ⟨severity, hseverity, rfl⟩ := Option.map_eq_some_iff.1 h
      exact hseverity
    · cases h

/-- So it tells one resource event or none. -/
theorem resource_told (rules : Rules) (validator : String) (s : State) (o : Observation) :
    let level := rules.thresholds.level o.resources
    let told := (s.nextEvents rules validator o).filter (·.category = .resource)
    if o.resources.isEmpty = false ∧ s.resourceLevel < level then
      ∃ e, told = [e] ∧ level.severity? = some e.severity
    else told = [] := by
  intro level told
  have htold : told = (s.resourceEvent? rules validator o).toList := filter_nextEvents .resource
  have hiff := @isSome_resourceEvent?_iff rules validator s o
  split
  · next hraised =>
    obtain ⟨e, he⟩ := Option.isSome_iff_exists.1 (hiff.2 hraised)
    exact ⟨e, by rw [htold, he]; rfl, severity_of_resourceEvent? he⟩
  · next hraised =>
    have hnone : s.resourceEvent? rules validator o = none := by simpa using mt hiff.1 hraised
    rw [htold, hnone]
    rfl

end State

namespace Recalls

variable {rules : Rules} {before : List Observation} {s : State} {o : Observation}

theorem streakVerdict_eq (h : Recalls rules before s) (hr : rules.threshold ≤ streakLimit) :
    s.streakVerdict rules o = streakVerdictOf rules.threshold (streak (o :: before)) := by
  have hlimit : 0 < streakLimit := by decide
  have hreached : rules.threshold ≤ s.streak o ↔ rules.threshold ≤ streak (o :: before) := by
    rw [h.streak_eq]; omega
  have hpos : 0 < s.streak o ↔ 0 < streak (o :: before) := by
    rw [h.streak_eq]; omega
  simp only [State.streakVerdict, streakVerdictOf, hreached, hpos]

/-- The verdict is the worst of its three parts. -/
theorem rank_nextVerdict (h : Recalls rules before s) (hr : rules.threshold ≤ streakLimit) :
    (s.nextVerdict rules o).rank =
      max (max (streakVerdictOf rules.threshold (streak (o :: before))).rank (s.nextLevel rules o).verdict.rank)
        (if o.inActiveSet = some false then Verdict.inactive else .active).rank := by
  rw [State.nextVerdict, Verdict.rank_worst, Verdict.rank_worst, h.streakVerdict_eq hr, State.membershipVerdict]

end Recalls

/-- In every state that a run leaves, the level on record is that of the last
figures, if at most four checks without figures followed them, and normal
otherwise; a raised level goes with at most four such checks on count. A check
tells of the level of its figures exactly if that is above the one on record,
with the severity of the new level. And its verdict is the worst of what the
failing streak, the level and known absence say. -/
theorem level_from_last_figures (threshold : UInt32) (thresholds : ResourceThresholds) (validator : String)
    (run : List Move) (o : Observation) :
    let rules := Rules.ofSettings threshold.toNat thresholds
    let history := o :: seen run
    let recorded := levelInForce thresholds (seen run)
    let level := thresholds.level o.resources
    let t := rules.evaluate validator (rules.after validator run) o
    (∀ s, rules.after validator run = some s →
      s.resourceLevel = recorded ∧ (.normal < s.resourceLevel → s.resourceUnknownTicks ≤ 4)) ∧
    t.state.resourceLevel = levelInForce thresholds history ∧
    (if o.resources.isEmpty = false ∧ recorded < level then
      ∃ e, t.events.filter (·.category = .resource) = [e] ∧ level.severity? = some e.severity
    else t.events.filter (·.category = .resource) = []) ∧
    t.state.verdict.rank =
      max (max (streakVerdictOf (max threshold.toNat 1) (streak history)).rank t.state.resourceLevel.verdict.rank)
        (if o.inActiveSet = some false then Verdict.inactive else .active).rank := by
  intro rules history recorded level t
  have hr : rules.threshold ≤ streakLimit := Rules.threshold_ofSettings_le threshold thresholds
  have hprev := Remembers.after rules validator run o.time
  have hrecalls := Recalls.after hr validator run o.time
  refine ⟨?_, (hprev.next o).level, ?_, hrecalls.rank_nextVerdict hr⟩
  · intro s hs
    rw [hs, Option.getD_some] at hprev
    exact ⟨hprev.level, hprev.unknown_le⟩
  · have htold := State.resource_told rules validator ((rules.after validator run).getD (.fresh o.time)) o
    rw [hprev.level] at htold
    exact htold

end ValidatorWatch
