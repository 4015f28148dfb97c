import ValidatorWatch.Proofs.Evaluation.Runs
/-!
# Failing streaks

Whether a check fails is said here by what was seen before it: `Failing` looks
up the last known counters and the last known membership in the history. The
streak is then a plain recursion over the history, the latest observation
first.

`Recalls` is the invariant: the few fields of the state that the rules read
are what the history says, in every order of known and unknown values. So a
validator is told to be down by exactly the check that takes the streak to the
threshold.
-/

namespace ValidatorWatch

open Time (Instant)

/-- The last known value of a figure, the latest observation first. -/
def latest {α : Type} (figure : Observation → Option α) (history : List Observation) : Option α :=
  history.findSome? figure

/-- A known counter above the one known before. -/
def Exceeds : Option Nat → Option Nat → Prop
  | some current, some known => known < current
  | _, _ => False

instance : (current known : Option Nat) → Decidable (Exceeds current known)
  | some c, some k => inferInstanceAs (Decidable (k < c))
  | some _, none => inferInstanceAs (Decidable False)
  | none, _ => inferInstanceAs (Decidable False)

/-- The check fails, given what was seen before: nothing answered, the height
did not advance, execution fell further behind, or a member had more of its
time stamps refused. -/
def Failing (before : List Observation) (o : Observation) : Prop :=
  o.reachable = false ∨ (o.reachable = true ∧ o.heightAdvanced = false) ∨
    Exceeds o.executionLagging (latest Observation.executionLagging before) ∨
    (Exceeds o.timestampFailures (latest Observation.timestampFailures before) ∧
      latest Observation.inActiveSet (o :: before) = some true)

instance (before : List Observation) (o : Observation) : Decidable (Failing before o) :=
  inferInstanceAs (Decidable (_ ∨ _ ∨ _ ∨ _))

/-- How many checks in a row failed, up to the latest one. -/
def streak : List Observation → Nat
  | [] => 0
  | o :: before => if Failing before o then streak before + 1 else 0

/-- When the streak reached a length, if it is that long. -/
def reachedAt (length : Nat) (history : List Observation) : Option Instant :=
  if length ≤ streak history then (history[streak history - length]?).map Observation.time else none

theorem latest_cons {α : Type} (figure : Observation → Option α) (o : Observation)
    (before : List Observation) :
    latest figure (o :: before) = (figure o).or (latest figure before) := by
  cases h : figure o <;> simp [latest, h]

theorem streak_cons {before : List Observation} {o : Observation} :
    streak (o :: before) = if Failing before o then streak before + 1 else 0 := rfl

theorem exceeds_iff {current known : Option Nat} :
    Exceeds current known ↔ (counterIncrease? known current).isSome := by
  cases current <;> cases known <;> simp [Exceeds, counterIncrease?]

/-- The history as the state keeps it, as far as failing checks go. -/
structure Recalls (rules : Rules) (history : List Observation) (s : State) : Prop where
  lagging : s.lastExecutionLagging = latest Observation.executionLagging history
  refused : s.lastTimestampFailures = latest Observation.timestampFailures history
  member : s.inActiveSet = latest Observation.inActiveSet history
  failures : s.consecutiveFailures = min (streak history) streakLimit
  since : s.downSince = reachedAt rules.threshold history

namespace Recalls

variable {rules : Rules} {history before : List Observation} {s : State} {o : Observation}

theorem membership_eq (h : Recalls rules before s) :
    s.membership o = latest Observation.inActiveSet (o :: before) := by
  rw [latest_cons, ← h.member]
  rfl

theorem fails_iff (h : Recalls rules before s) : s.fails o = true ↔ Failing before o := by
  simp only [State.fails, State.laggingIncrease?, State.timestampIncrease?, Observation.stalled,
    Failing, exceeds_iff, h.membership_eq, h.lagging, h.refused, Bool.or_eq_true,
    Bool.not_eq_true', Bool.and_eq_true, or_assoc]
  by_cases hm : latest Observation.inActiveSet (o :: before) = some true <;> simp [hm]

theorem streak_eq (h : Recalls rules before s) :
    s.streak o = min (streak (o :: before)) streakLimit := by
  simp only [State.streak, h.fails_iff, streak_cons, h.failures, countUp]
  split <;> omega

/-- With a threshold that the counter can reach, the counter crosses it exactly
when the streak does. -/
theorem goesDown_iff (h : Recalls rules before s) (hr : rules.threshold ≤ streakLimit) :
    s.goesDown rules o = true ↔ streak (o :: before) = rules.threshold := by
  have hpos := rules.threshold_pos
  simp only [State.goesDown, h.streak_eq, h.failures, streak_cons, Bool.and_eq_true,
    decide_eq_true_eq]
  split <;> omega

theorem fresh (t : Instant) : Recalls rules [] (.fresh t) := by
  have hpos := rules.threshold_pos
  refine ⟨rfl, rfl, rfl, rfl, ?_⟩
  rw [reachedAt, if_neg (by simp only [streak]; omega)]
  rfl

theorem since_next (h : Recalls rules before s) (hr : rules.threshold ≤ streakLimit) :
    s.nextDownSince rules o = reachedAt rules.threshold (o :: before) := by
  have hpos := rules.threshold_pos
  have hlt : s.streak o < rules.threshold ↔ streak (o :: before) < rules.threshold := by
    rw [h.streak_eq]; omega
  simp only [State.nextDownSince, hlt, h.goesDown_iff hr, h.since]
  rcases Nat.lt_trichotomy (streak (o :: before)) rules.threshold with hl | he | hg
  · rw [if_pos hl, reachedAt, if_neg (by omega)]
  · rw [if_neg (by omega), if_pos he, reachedAt, if_pos (by omega), he]
    simp
  -- Past the threshold: the check that reached it is one further back.
  · have hf : streak (o :: before) = streak before + 1 := by
      rw [streak_cons] at hg ⊢
      split at hg <;> [rw [if_pos ‹_›]; omega]
    rw [if_neg (by omega), if_neg (by omega), reachedAt, reachedAt, if_pos (by omega),
      if_pos (by omega), hf,
      show streak before + 1 - rules.threshold = (streak before - rules.threshold) + 1 by omega,
      List.getElem?_cons_succ]

theorem next (h : Recalls rules before s) (hr : rules.threshold ≤ streakLimit) :
    Recalls rules (o :: before) (s.next rules o) where
  lagging := by rw [latest_cons, ← h.lagging]; rfl
  refused := by rw [latest_cons, ← h.refused]; rfl
  member := h.membership_eq
  failures := h.streak_eq
  since := h.since_next hr

theorem report (h : Recalls rules before s) (validator : String) (now : Instant) :
    Recalls rules before (s.extendedReport validator now).2 :=
  ⟨h.lagging, h.refused, h.member, h.failures, h.since⟩

/-- After every run the state recalls what was seen. -/
theorem after (hr : rules.threshold ≤ streakLimit) (validator : String) (run : List Move)
    (t : Instant) : Recalls rules (seen run) ((rules.after validator run).getD (.fresh t)) :=
  Rules.after_keeps fresh (fun _ _ _ h => h.next hr) (fun _ _ now h => h.report validator now) run t

end Recalls

theorem Rules.threshold_ofSettings_le (threshold : UInt32) (thresholds : ResourceThresholds) :
    (Rules.ofSettings threshold.toNat thresholds).threshold ≤ streakLimit := by
  have h : threshold.toNat < 4294967296 := threshold.toNat_lt
  show max threshold.toNat 1 ≤ 4294967296 - 1
  omega

/-- After every check the counter is the length of the failing streak, the
check tells that the validator is down exactly if it takes the streak to the
threshold, and the time on record is that of the check that did. Reports in
between change nothing. -/
theorem down_exactly_at_threshold (threshold : UInt32) (thresholds : ResourceThresholds)
    (validator : String) (run : List Move) (o : Observation) :
    let rules := Rules.ofSettings threshold.toNat thresholds
    let length := max threshold.toNat 1
    let history := o :: seen run
    let t := rules.evaluate validator (rules.after validator run) o
    t.state.consecutiveFailures = min (streak history) (UInt32.size - 1) ∧
      (if streak history = length then
        ∃ e, t.events.filter (·.category = .down) = [e] ∧ e.severity = .critical
      else t.events.filter (·.category = .down) = []) ∧
      t.state.downSince = reachedAt length history := by
  intro rules length history t
  have hr : rules.threshold ≤ streakLimit := Rules.threshold_ofSettings_le threshold thresholds
  have h := Recalls.after hr validator run o.time
  refine ⟨(h.next hr).failures, ?_, (h.next hr).since⟩
  have hd := h.goesDown_iff hr (o := o)
  have ht := rules.filter_evaluate validator (rules.after validator run) o .down
  rw [State.eventOf?, State.downEvent?] at ht
  by_cases hs : streak history = length
  · rw [if_pos hs]
    rw [if_pos (hd.2 hs)] at ht
    exact ⟨_, ht, rfl⟩
  · rw [if_neg hs]
    rwa [if_neg (fun hg => hs (hd.1 hg))] at ht

end ValidatorWatch
