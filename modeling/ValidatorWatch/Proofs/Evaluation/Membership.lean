import ValidatorWatch.Proofs.Evaluation.Recovery
/-!
# Checks that know nothing of membership

The state keeps the last known membership, but the verdict goes by that of the
check alone. So when the services fall silent about a validator that is known
to be absent, nothing is told of its membership, and yet a recovery is told,
unless something else is wrong with the validator.
`recovery_told_of_absent_iff` has the exact condition.
-/

namespace ValidatorWatch

open Time (Instant)

namespace Verdict

theorem worst_eq_active_iff {a b : Verdict} : a.worst b = .active ↔ a = .active ∧ b = .active := by
  cases a <;> cases b <;> decide

theorem isDown_worst_inactive (v : Verdict) : (v.worst .inactive).isDown = true := by
  cases v <;> rfl

end Verdict

theorem ResourceLevel.verdict_eq_active_iff {l : ResourceLevel} : l.verdict = .active ↔ l = .normal := by
  cases l <;> decide

variable {rules : Rules} {validator : String} {s : State} {o : Observation}

namespace State

theorem streakVerdict_eq_active_iff : s.streakVerdict rules o = .active ↔ s.fails o = false := by
  have hpos := rules.threshold_pos
  have hlimit : 1 ≤ streakLimit := by decide
  cases hf : s.fails o with
  | true =>
    have hs : 0 < s.streak o := by
      rw [streak, if_pos hf, countUp]
      omega
    rw [streakVerdict, if_pos hs]
    split <;> simp
  | false =>
    have hs : s.streak o = 0 := by rw [streak, hf]; rfl
    rw [streakVerdict, hs, if_neg (by omega), if_neg (by omega)]
    simp

theorem membershipVerdict_eq_active_iff : membershipVerdict o = .active ↔ o.inActiveSet ≠ some false := by
  rw [membershipVerdict]
  split <;> simp [*]

/-- A check makes the validator active if nothing fails, no resource level is
raised and it is not known to be absent. -/
theorem nextVerdict_eq_active_iff : s.nextVerdict rules o = .active ↔
    s.fails o = false ∧ s.nextLevel rules o = .normal ∧ o.inActiveSet ≠ some false := by
  rw [nextVerdict, Verdict.worst_eq_active_iff, Verdict.worst_eq_active_iff,
    streakVerdict_eq_active_iff, ResourceLevel.verdict_eq_active_iff,
    membershipVerdict_eq_active_iff, and_assoc]

/-- The level of the figures, or the recorded one if there are none, however
stale that is. -/
def heldLevel (rules : Rules) (s : State) (o : Observation) : ResourceLevel :=
  if o.resources.isEmpty then s.resourceLevel else rules.thresholds.level o.resources

/-- A stale level becomes normal, but only a level that was not raised counts
as one. -/
theorem heldLevel_eq_normal_iff : s.heldLevel rules o = .normal ↔
    s.nextLevel rules o = .normal ∧ s.resourcesExpire o = false := by
  by_cases he : o.resources.isEmpty = true
  · rw [heldLevel, if_pos he, nextLevel, if_pos he]
    cases hx : s.resourcesExpire o with
    | true =>
      have hraised := (resourcesExpire_iff.1 hx).2.2
      simp [hraised]
    | false => simp
  · have hx : s.resourcesExpire o = false := by simp [resourcesExpire, he]
    rw [heldLevel, if_neg he, nextLevel, if_neg he, hx]
    simp

/-- When a check tells of a recovery. -/
theorem isSome_recoveryEvent?_iff : (s.recoveryEvent? rules validator o).isSome = true ↔
    s.verdict.isDown = true ∧ s.fails o = false ∧ s.heldLevel rules o = .normal ∧
      o.inActiveSet ≠ some false := by
  have hsome : (s.recoveryEvent? rules validator o).isSome = true ↔
      s.verdict.isDown = true ∧ s.nextVerdict rules o = .active ∧ s.resourcesExpire o = false := by
    rw [recoveryEvent?]
    split <;> simp_all
  rw [hsome, nextVerdict_eq_active_iff, heldLevel_eq_normal_iff]
  tauto

end State

/-- If the last check knew of the recorded absence, it left a verdict that a
recovery is told from. -/
theorem Rules.isDown_after_absence {run : List Move} (hs : rules.after validator run = some s)
    (hm : s.inActiveSet = some false) {before : List Observation} (hseen : seen run = o :: before)
    (ho : o.inActiveSet ≠ none) : s.verdict.isDown = true := by
  have h := @Rules.after_keeps rules validator
    (fun history s => ∀ o before, history = o :: before → o.inActiveSet ≠ none →
      s.inActiveSet = some false → s.verdict.isDown = true)
    ?_ ?_ ?_ run default
  · rw [hs] at h
    exact h o before hseen ho hm
  · intro t o before hnil
    cases hnil
  · intro history s o _ o' before hcons hknown hm
    obtain ⟨rfl, -⟩ := List.cons.inj hcons
    have habsent : o.inActiveSet = some false := by
      have hm' : o.inActiveSet.or s.inActiveSet = some false := hm
      cases ho : o.inActiveSet with
      | none => exact absurd ho hknown
      | some member => rwa [ho, Option.some_or] at hm'
    show (s.nextVerdict rules o).isDown = true
    rw [State.nextVerdict, State.membershipVerdict, if_pos habsent]
    exact Verdict.isDown_worst_inactive _
  · intro _ s now h
    exact h

/-- While the recorded membership is that of an absent validator, a check that
does not know the membership tells nothing of it. But it tells of a recovery
if the recorded verdict is inactive or critical, nothing fails and no resource
level is raised or held, and only then. After a check that knew of the absence
the recorded verdict is one of these two. -/
theorem recovery_told_of_absent_iff (rules : Rules) (validator : String) (run : List Move)
    (s : State) (o : Observation) (hs : rules.after validator run = some s)
    (hm : s.inActiveSet = some false) (ho : o.inActiveSet = none) :
    let events := (rules.evaluate validator (some s) o).events
    events.filter (·.category = .activeSet) = [] ∧
      (events.filter (·.category = .recovery)).length =
        (if s.verdict.isDown = true ∧ s.fails o = false ∧ s.heldLevel rules o = .normal then 1 else 0) ∧
      ∀ last before, seen run = last :: before → last.inActiveSet ≠ none → s.verdict.isDown = true := by
  intro events
  refine ⟨?_, ?_, fun last before hseen hknown => Rules.isDown_after_absence hs hm hseen hknown⟩
  · rw [Rules.filter_evaluate, Option.getD_some, State.eventOf?, State.activeSetEvent?, ho]
    cases s.inActiveSet <;> rfl
  · have hiff : (s.recoveryEvent? rules validator o).isSome = true ↔ _ := State.isSome_recoveryEvent?_iff
    rw [ho] at hiff
    rw [Rules.filter_evaluate, Option.getD_some, State.eventOf?]
    cases hr : s.recoveryEvent? rules validator o with
    | none => rw [if_neg (by simpa [hr] using hiff)]; rfl
    | some e => rw [if_pos (by simpa [hr] using hiff)]; rfl

/-- One check that knows of the absence. -/
def absence : List Move :=
  [.check { fineCheck 0 with inActiveSet := some false }]

/-- The check after it knows nothing of membership and tells of a recovery. -/
theorem recovery_told_of_absent_once :
    let rules := Rules.ofSettings 3 {}
    let s := (State.fresh (fineCheck 0).time).next rules { fineCheck 0 with inActiveSet := some false }
    rules.after "v" absence = some s ∧ s.inActiveSet = some false ∧ (fineCheck 1).inActiveSet = none ∧
      ((rules.evaluate "v" (some s) (fineCheck 1)).events.filter (·.category = .recovery)).length = 1 := by
  intro rules s
  have h := recovery_told_of_absent_iff rules "v" absence s (fineCheck 1) rfl rfl rfl
  exact ⟨rfl, rfl, rfl, h.2.1.trans (by decide +kernel)⟩

/-- So silence about an absent validator may well tell of a recovery. -/
theorem silence_tells_recovery :
    ¬ ∀ (rules : Rules) (validator : String) (run : List Move) (s : State) (o : Observation),
      rules.after validator run = some s → s.inActiveSet = some false → o.inActiveSet = none →
      ∀ e ∈ (rules.evaluate validator (some s) o).events,
        e.category ≠ .activeSet ∧ e.category ≠ .recovery := by
  intro h
  have hnone := h (Rules.ofSettings 3 {}) "v" absence _ (fineCheck 1) rfl rfl rfl
  revert hnone
  decide +kernel

end ValidatorWatch
