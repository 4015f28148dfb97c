import ValidatorWatch.Proofs.Evaluation.Recovery
import ValidatorWatch.Proofs.Evaluation.Streak
/-!
# Changes of the threshold

The state outlives a restart and the settings do not: a process may begin with
another alert threshold in the middle of a failing streak. The counter goes on,
but a check compares it with the threshold of its own process alone. So an
outage is told by the check that finds the streak exactly as long as the
threshold of its time, and if a restart lowers the threshold past the streak
there is no such check.

`Log` is what is known of the checks afterwards, and
`outage_told_iff_threshold_reached` says of each check whether the outage it
belongs to has been told.
-/

namespace ValidatorWatch

open Time (Instant)

/-! ## Runs across restarts -/

/-- A move and the settings of the process that makes it. A restart may come
before any move. -/
structure SettledMove where
  threshold : UInt32
  thresholds : ResourceThresholds
  move : Move

def SettledMove.rules (m : SettledMove) : Rules :=
  .ofSettings m.threshold.toNat m.thresholds

/-- What is known of a check afterwards. -/
structure LoggedCheck where
  rules : Rules
  seen : Observation
  told : List AlertEvent

/-- The state, and the checks that led to it, the latest first. -/
structure Log where
  state : Option State := none
  checks : List LoggedCheck := []

namespace Log

/-- Adds a move. -/
def add (validator : String) (l : Log) (m : SettledMove) : Log :=
  let (next, told) := m.rules.move validator l.state m.move
  match m.move with
  | .check o => ⟨next, ⟨m.rules, o, told⟩ :: l.checks⟩
  | .report _ => ⟨next, l.checks⟩

/-- The log of a run. -/
def ofRun (validator : String) (run : List SettledMove) : Log :=
  run.foldl (add validator) {}

/-- The observations, the latest first. -/
def history (l : Log) : List Observation :=
  l.checks.map LoggedCheck.seen

/-- The checks of the failing streak, the latest first. -/
def failing (l : Log) : List LoggedCheck :=
  l.checks.take (streak l.history)

/-- The thresholds that were in force at the checks of the failing streak, from
the first check on. -/
def thresholds (l : Log) : List Nat :=
  (l.failing.map fun c => c.rules.threshold).reverse

/-- Some check of the failing streak told that the validator is down. -/
def TellsOutage (l : Log) : Prop :=
  ∃ c ∈ l.failing, ∃ e ∈ c.told, e.category = .down

instance (l : Log) : Decidable l.TellsOutage :=
  inferInstanceAs (Decidable (∃ c ∈ l.failing, ∃ e ∈ c.told, e.category = .down))

end Log

/-! ## Streaks and their thresholds -/

/-- Some check took the streak to exactly the threshold of its time. -/
def ReachesThreshold (thresholds : List Nat) : Prop :=
  ∃ i, thresholds[i]? = some (i + 1)

/-- Some check took the streak to exactly the threshold of its time, and no later
one found it below its own. -/
def StaysAtThreshold (thresholds : List Nat) : Prop :=
  ∃ i, thresholds[i]? = some (i + 1) ∧ ∀ j t, i < j → thresholds[j]? = some t → t ≤ j + 1

section Thresholds

variable {ts : List Nat} {t : Nat}

theorem not_reachesThreshold_nil : ¬ ReachesThreshold [] := by
  rintro ⟨i, hi⟩
  simp at hi

theorem not_staysAtThreshold_nil : ¬ StaysAtThreshold [] := by
  rintro ⟨i, hi, -⟩
  simp at hi

theorem StaysAtThreshold.reachesThreshold (h : StaysAtThreshold ts) : ReachesThreshold ts := by
  obtain ⟨i, hi, -⟩ := h
  exact ⟨i, hi⟩

theorem getElem?_concat_eq_some {i u : Nat} :
    (ts ++ [t])[i]? = some u ↔ ts[i]? = some u ∨ (i = ts.length ∧ t = u) := by
  rcases Nat.lt_trichotomy i ts.length with hlt | rfl | hgt
  · simp [List.getElem?_append_left hlt, Nat.ne_of_lt hlt]
  · simp
  · simp [List.getElem?_append_right (Nat.le_of_lt hgt), Nat.ne_of_gt hgt, Nat.sub_ne_zero_of_lt hgt,
      List.getElem?_eq_none (Nat.le_of_lt hgt)]

theorem lt_length_of_getElem? {i u : Nat} (h : ts[i]? = some u) : i < ts.length :=
  (List.getElem?_eq_some_iff.1 h).1

theorem reachesThreshold_concat : ReachesThreshold (ts ++ [t]) ↔ t = ts.length + 1 ∨ ReachesThreshold ts := by
  unfold ReachesThreshold
  simp only [getElem?_concat_eq_some]
  constructor
  · rintro ⟨i, hi | ⟨rfl, rfl⟩⟩
    · exact .inr ⟨i, hi⟩
    · exact .inl rfl
  · rintro (rfl | ⟨i, hi⟩)
    · exact ⟨ts.length, .inr ⟨rfl, rfl⟩⟩
    · exact ⟨i, .inl hi⟩

theorem staysAtThreshold_concat :
    StaysAtThreshold (ts ++ [t]) ↔ t = ts.length + 1 ∨ (t ≤ ts.length ∧ StaysAtThreshold ts) := by
  unfold StaysAtThreshold
  simp only [getElem?_concat_eq_some]
  constructor
  · rintro ⟨i, hi | ⟨rfl, rfl⟩, hlater⟩
    · have ht := hlater ts.length t (lt_length_of_getElem? hi) (.inr ⟨rfl, rfl⟩)
      rcases Nat.lt_or_eq_of_le ht with hbelow | heq
      · exact .inr ⟨by omega, i, hi, fun j u hij hj => hlater j u hij (.inl hj)⟩
      · exact .inl heq
    · exact .inl rfl
  · rintro (rfl | ⟨hle, i, hi, hlater⟩)
    · refine ⟨ts.length, .inr ⟨rfl, rfl⟩, ?_⟩
      rintro j u hj (hu | ⟨rfl, rfl⟩)
      · have hlt := lt_length_of_getElem? hu
        omega
      · omega
    · refine ⟨i, .inl hi, ?_⟩
      rintro j u hij (hj | ⟨rfl, rfl⟩)
      · exact hlater j u hij hj
      · omega

/-- Thresholds that only rise are met: the streak grows by one with each check
and begins below the first of them. -/
theorem staysAtThreshold_of_rising (hpos : ∀ t ∈ ts, 1 ≤ t) (hrising : ts.Pairwise (· ≤ ·))
    (hreached : ∃ t, ts.getLast? = some t ∧ t ≤ ts.length) : StaysAtThreshold ts := by
  induction ts using List.reverseRecOn with
  | nil =>
    obtain ⟨t, ht, -⟩ := hreached
    cases ht
  | append_singleton ts t ih =>
    obtain ⟨t', ht', hle⟩ := hreached
    rw [List.getLast?_concat, Option.some.injEq] at ht'
    subst ht'
    rw [List.length_append, List.length_singleton] at hle
    rw [staysAtThreshold_concat]
    rcases Nat.lt_or_eq_of_le hle with hlt | heq
    · have hone : 1 ≤ t := hpos t (by simp)
      obtain ⟨hbefore, -, hlast⟩ := List.pairwise_append.1 hrising
      refine .inr ⟨by omega, ih (fun u hu => hpos u (by simp [hu])) hbefore ?_⟩
      have hne : ts ≠ [] := by
        rintro rfl
        simp at hlt
        omega
      have hmem := List.getLast_mem hne
      have hbound := hlast _ hmem t (by simp)
      exact ⟨ts.getLast hne, List.getLast?_eq_some_getLast hne, by omega⟩
    · exact .inl heq

end Thresholds

/-! ## The state across restarts -/

theorem streak_le_length (history : List Observation) : streak history ≤ history.length := by
  induction history with
  | nil => exact Nat.le_refl 0
  | cons o before ih =>
    rw [streak_cons, List.length_cons]
    split <;> omega

/-- The history as the state keeps it, whatever the thresholds have been. -/
structure Tallies (history : List Observation) (s : State) : Prop where
  lagging : s.lastExecutionLagging = latest Observation.executionLagging history
  refused : s.lastTimestampFailures = latest Observation.timestampFailures history
  member : s.inActiveSet = latest Observation.inActiveSet history
  failures : s.consecutiveFailures = min (streak history) streakLimit

namespace Tallies

variable {rules : Rules} {history before : List Observation} {s : State} {o : Observation}

/-- Nothing is counted by the time since when the validator is down, so that
may be taken to be the one that any rules would have led to. -/
theorem recalls (h : Tallies history s) (rules : Rules) :
    Recalls rules history { s with downSince := reachedAt rules.threshold history } :=
  ⟨h.lagging, h.refused, h.member, h.failures, rfl⟩

theorem fresh (t : Instant) : Tallies [] (.fresh t) :=
  ⟨rfl, rfl, rfl, rfl⟩

theorem streak_eq (h : Tallies before s) : s.streak o = min (streak (o :: before)) streakLimit :=
  (h.recalls ⟨1, {}, Nat.le_refl 1⟩).streak_eq

theorem goesDown_iff (h : Tallies before s) (hr : rules.threshold ≤ streakLimit) :
    s.goesDown rules o = true ↔ streak (o :: before) = rules.threshold :=
  (h.recalls rules).goesDown_iff hr

theorem next (h : Tallies before s) (rules : Rules) (o : Observation) : Tallies (o :: before) (s.next rules o) where
  lagging := by rw [latest_cons, ← h.lagging]; rfl
  refused := by rw [latest_cons, ← h.refused]; rfl
  member := (h.recalls rules).membership_eq
  failures := h.streak_eq

/-- Since the check that took the streak to the threshold of its time, as long
as no check finds it below its own. -/
theorem isSome_downSince_next (h : Tallies before s) (hr : rules.threshold ≤ streakLimit) :
    (s.next rules o).downSince.isSome = true ↔ streak (o :: before) = rules.threshold ∨
      (rules.threshold < streak (o :: before) ∧ s.downSince.isSome = true) := by
  have hlt : s.streak o < rules.threshold ↔ streak (o :: before) < rules.threshold := by
    rw [h.streak_eq]; omega
  have hsince : (s.next rules o).downSince = s.nextDownSince rules o := rfl
  rw [hsince]
  simp only [State.nextDownSince, hlt, h.goesDown_iff hr]
  rcases Nat.lt_trichotomy (streak (o :: before)) rules.threshold with hl | he | hg
  · simp [hl, Nat.ne_of_lt hl, Nat.not_lt_of_lt hl]
  · simp [he]
  · simp [hg, Nat.ne_of_gt hg, Nat.not_lt_of_lt hg]

end Tallies

theorem State.tells_down_iff {rules : Rules} {validator : String} {s : State} {o : Observation} :
    (∃ e ∈ s.nextEvents rules validator o, e.category = .down) ↔ s.goesDown rules o = true := by
  rw [exists_mem_nextEvents_iff, eventOf?, downEvent?]
  split <;> simp_all

namespace Log

variable {validator : String} {l : Log}

theorem ofRun_concat (run : List SettledMove) (m : SettledMove) :
    ofRun validator (run ++ [m]) = (ofRun validator run).add validator m := by
  rw [ofRun, List.foldl_append]
  rfl

theorem length_thresholds (l : Log) : l.thresholds.length = streak l.history := by
  have hle := streak_le_length l.history
  rw [history, List.length_map] at hle
  simp [thresholds, failing, history, hle]

theorem failing_cons (state : Option State) (c : LoggedCheck) :
    (Log.mk state (c :: l.checks)).failing = if Failing l.history c.seen then c :: l.failing else [] := by
  have hhistory : (Log.mk state (c :: l.checks)).history = c.seen :: l.history := rfl
  rw [failing, hhistory, streak_cons]
  split
  · rw [List.take_succ_cons]; rfl
  · rfl

/-- A failing check adds its threshold, and any other ends the streak. -/
theorem thresholds_cons (state : Option State) (c : LoggedCheck) : (Log.mk state (c :: l.checks)).thresholds =
    if Failing l.history c.seen then l.thresholds ++ [c.rules.threshold] else [] := by
  rw [thresholds, failing_cons]
  split
  · rw [List.map_cons, List.reverse_cons]; rfl
  · rfl

theorem threshold_pos {t : Nat} (h : t ∈ l.thresholds) : 1 ≤ t := by
  rw [thresholds, List.mem_reverse, List.mem_map] at h
  obtain ⟨c, -, rfl⟩ := h
  exact c.rules.threshold_pos

/-- What a log says of the state and of the outage. A validator that was never
checked has the fresh state. -/
structure Sound (l : Log) : Prop where
  tallies : ∀ t, Tallies l.history (l.state.getD (.fresh t))
  told : l.TellsOutage ↔ ReachesThreshold l.thresholds
  since : ∀ t, (l.state.getD (.fresh t)).downSince.isSome = true ↔ StaysAtThreshold l.thresholds

namespace Sound

theorem empty : Sound {} where
  tallies := .fresh
  told := by
    constructor
    · rintro ⟨c, hc, -⟩
      cases hc
    · intro h
      exact absurd h not_reachesThreshold_nil
  since t := by
    constructor
    · intro h
      cases h
    · intro h
      exact absurd h not_staysAtThreshold_nil

theorem check (h : l.Sound) {rules : Rules} (hr : rules.threshold ≤ streakLimit) (o : Observation) :
    let s := l.state.getD (.fresh o.time)
    Sound ⟨some (s.next rules o), ⟨rules, o, s.nextEvents rules validator o⟩ :: l.checks⟩ := by
  intro s
  have htallies : Tallies l.history s := h.tallies o.time
  have hpos := rules.threshold_pos
  constructor
  · intro t
    exact htallies.next rules o
  · rw [thresholds_cons, TellsOutage, failing_cons]
    by_cases hf : Failing l.history o
    · rw [if_pos hf, if_pos hf, reachesThreshold_concat, length_thresholds, ← h.told]
      simp only [List.mem_cons, exists_eq_or_imp]
      rw [State.tells_down_iff, htallies.goesDown_iff hr, streak_cons, if_pos hf, eq_comm]
      rfl
    · rw [if_neg hf, if_neg hf]
      simp [not_reachesThreshold_nil]
  · intro t
    rw [Option.getD_some, htallies.isSome_downSince_next hr, thresholds_cons, streak_cons]
    by_cases hf : Failing l.history o
    · rw [if_pos hf, if_pos hf, staysAtThreshold_concat, length_thresholds, ← h.since o.time, eq_comm,
        Nat.lt_succ_iff]
    · rw [if_neg hf, if_neg hf]
      simp only [not_staysAtThreshold_nil, iff_false]
      omega

theorem add (h : l.Sound) (m : SettledMove) : (l.add validator m).Sound := by
  have hr : m.rules.threshold ≤ streakLimit := Rules.threshold_ofSettings_le m.threshold m.thresholds
  obtain ⟨threshold, thresholds, move⟩ := m
  cases move with
  | check o => exact h.check hr o
  | report now =>
    obtain ⟨state, checks⟩ := l
    cases state with
    | none => exact h
    | some s =>
      constructor
      · intro t
        have hs := h.tallies t
        exact ⟨hs.lagging, hs.refused, hs.member, hs.failures⟩
      · exact h.told
      · exact h.since

theorem ofRun (validator : String) (run : List SettledMove) : (ofRun validator run).Sound := by
  induction run using List.reverseRecOn with
  | nil => exact empty
  | append_singleton run m ih =>
    rw [ofRun_concat]
    exact ih.add m

end Sound

/-- Right after a failing check its threshold is the last of the streak. -/
theorem getLast?_thresholds_check {state : Option State} {rules : Rules} {o : Observation} {told : List AlertEvent}
    (hfailing : 0 < (Log.mk state (⟨rules, o, told⟩ :: l.checks)).failing.length) :
    (Log.mk state (⟨rules, o, told⟩ :: l.checks)).thresholds.getLast? = some rules.threshold := by
  rw [failing_cons] at hfailing
  rw [thresholds_cons]
  by_cases hf : Failing l.history o
  · rw [if_pos hf, List.getLast?_concat]
  · rw [if_neg hf] at hfailing
    simp at hfailing

end Log

/-- After every check, whatever thresholds there have been: its counter is the
length of the streak, an outage has been told in the streak exactly if some
check took it to the threshold of its time, and the time of that is on record
exactly if no later check found the streak below its own threshold. So as long
as thresholds only rise, a streak at the threshold is known to be an outage. -/
theorem outage_told_iff_threshold_reached (validator : String) (run : List SettledMove) (threshold : UInt32)
    (thresholds : ResourceThresholds) (o : Observation) :
    let l := Log.ofRun validator (run ++ [⟨threshold, thresholds, .check o⟩])
    ∃ s, l.state = some s ∧ s.consecutiveFailures = min l.failing.length (UInt32.size - 1) ∧
      (l.TellsOutage ↔ ReachesThreshold l.thresholds) ∧
      (s.downSince.isSome = true ↔ StaysAtThreshold l.thresholds) ∧
      (l.thresholds.Pairwise (· ≤ ·) → max threshold.toNat 1 ≤ s.consecutiveFailures →
        l.TellsOutage ∧ s.downSince.isSome = true) := by
  intro l
  have hsound : l.Sound := Log.Sound.ofRun validator _
  obtain ⟨s, hs, hlast⟩ : ∃ s, l.state = some s ∧
      (0 < l.failing.length → l.thresholds.getLast? = some (max threshold.toNat 1)) := by
    have hadd : l = (Log.ofRun validator run).add validator ⟨threshold, thresholds, .check o⟩ :=
      Log.ofRun_concat run _
    rw [hadd]
    exact ⟨_, rfl, Log.getLast?_thresholds_check⟩
  have htallies : Tallies l.history s := by simpa [hs] using hsound.tallies o.time
  have hsince := hsound.since o.time
  rw [hs, Option.getD_some] at hsince
  have hlength : l.failing.length = l.thresholds.length := by
    rw [Log.thresholds, List.length_reverse, List.length_map]
  have hcounter : s.consecutiveFailures = min l.failing.length (UInt32.size - 1) := by
    rw [htallies.failures, hlength, l.length_thresholds]
    rfl
  refine ⟨s, hs, hcounter, hsound.told, hsince, ?_⟩
  intro hrising hreached
  have hstays : StaysAtThreshold l.thresholds := by
    refine staysAtThreshold_of_rising (fun t => Log.threshold_pos) hrising ⟨_, hlast ?_, ?_⟩
    · omega
    · omega
  exact ⟨hsound.told.2 (StaysAtThreshold.reachesThreshold hstays), hsince.2 hstays⟩

/-- Three dead checks under a threshold of five. -/
def belowFive : List SettledMove :=
  [⟨5, {}, .check (deadCheck 0)⟩, ⟨5, {}, .check (deadCheck 1)⟩, ⟨5, {}, .check (deadCheck 2)⟩]

/-- After a restart with a threshold of two, the fourth dead check is past it and
tells nothing. -/
theorem outage_untold_after_lowering :
    ¬ ∀ (validator : String) (run : List SettledMove) (threshold : UInt32) (thresholds : ResourceThresholds)
      (o : Observation) (s : State),
      (∀ m ∈ run, 1 ≤ m.threshold ∧ m.thresholds = thresholds) → 1 ≤ threshold →
      let l := Log.ofRun validator (run ++ [⟨threshold, thresholds, .check o⟩])
      l.state = some s → threshold.toNat ≤ s.consecutiveFailures →
        l.TellsOutage ∧ s.downSince.isSome = true := by
  intro h
  have htold := h "v" belowFive 2 {} (deadCheck 3) _ (by decide) (by decide) rfl (by decide +kernel)
  revert htold
  decide +kernel

end ValidatorWatch
