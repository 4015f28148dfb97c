import Mathlib.Algebra.GroupWithZero.Nat
import ValidatorWatch.Proofs.Evaluation.Membership
import ValidatorWatch.Proofs.Evaluation.Streak
/-!
# Reports between checks

A report closes the window of counts and begins a new one, and a check reads
nothing of the window. So checks come to the same whatever reports are made
between them, and the windows of all reports, with the last one that is still
open, follow one another without a gap and count every check once.

`Bounded` is what a window keeps at all times: a check that fails is not
healthy, and only a check that fails takes a validator down.
-/

namespace ValidatorWatch

open Time (Instant)

/-! ## Runs with their reports -/

/-- Whether a move is a check. -/
def Move.isCheck : Move → Bool
  | .check _ => true
  | .report _ => false

/-- When a report is made. -/
def Move.reportTime? : Move → Option Instant
  | .check _ => none
  | .report now => some now

namespace Rules

/-- The checks of a run that goes on from a state, in order. -/
def checks (rules : Rules) (validator : String) : Option State → List Move → List Transition
  | _, [] => []
  | s, .check o :: run =>
    let t := rules.evaluate validator s o
    t :: checks rules validator (some t.state) run
  | s, .report now :: run => checks rules validator (rules.move validator s (.report now)).1 run

/-- The reports of a run that goes on from a state, in order: those that its
events carry. -/
def reports (rules : Rules) (validator : String) : Option State → List Move → List ExtendedReport
  | _, [] => []
  | s, m :: run =>
    let told := rules.move validator s m
    told.2.filterMap (·.report) ++ reports rules validator told.1 run

end Rules

/-- How many checks failed. -/
def failures : List Observation → Nat
  | [] => 0
  | o :: before => failures before + if Failing before o then 1 else 0

/-! ## The window plays no part in a check -/

/-- The state apart from its window. -/
def State.apart (s : State) : State :=
  { s with window := default }

/-- The check apart from the window that it leaves. -/
def Transition.apart (t : Transition) : Transition :=
  { t with state := t.state.apart }

variable {rules : Rules} {validator : String} {s s' : State} {p q : Option State} {before : List Observation}
  {o : Observation} {run : List Move}

theorem State.apart_next (h : s.apart = s'.apart) : (s.next rules o).apart = (s'.next rules o).apart := by
  have hnext (r : State) : (r.next rules o).apart = (r.apart.next rules o).apart := rfl
  rw [hnext s, hnext s', h]

theorem State.nextEvents_apart (h : s.apart = s'.apart) :
    s.nextEvents rules validator o = s'.nextEvents rules validator o := by
  have hevents (r : State) : r.nextEvents rules validator o = r.apart.nextEvents rules validator o := rfl
  rw [hevents s, hevents s', h]

namespace Rules

theorem apart_evaluate (h : p.map State.apart = q.map State.apart) :
    (rules.evaluate validator p o).apart = (rules.evaluate validator q o).apart := by
  have hprev : (p.getD (.fresh o.time)).apart = (q.getD (.fresh o.time)).apart := by
    cases p <;> cases q <;> simp_all
  simp only [evaluate, Transition.apart, State.apart_next hprev, State.nextEvents_apart hprev]

theorem apart_report (p : Option State) (now : Instant) :
    (rules.move validator p (.report now)).1.map State.apart = p.map State.apart := by
  cases p <;> rfl

/-- Without the reports of a run its checks come to the same. -/
theorem apart_checks (h : p.map State.apart = q.map State.apart) (run : List Move) :
    (rules.checks validator p run).map Transition.apart =
      (rules.checks validator q (run.filter Move.isCheck)).map Transition.apart := by
  induction run generalizing p q with
  | nil => rfl
  | cons m run ih =>
    cases m with
    | check o =>
      have ht := @apart_evaluate rules validator p q o h
      have hstate : (some (rules.evaluate validator p o).state).map State.apart =
          (some (rules.evaluate validator q o).state).map State.apart :=
        congrArg (some ∘ Transition.state) ht
      rw [List.filter_cons_of_pos rfl, checks, checks, List.map_cons, List.map_cons, ht, ih hstate]
    | report now =>
      rw [List.filter_cons_of_neg (by simp [Move.isCheck])]
      exact ih ((apart_report p now).trans h)

/-! ## What a window counts -/

theorem reports_check : rules.reports validator p (.check o :: run) =
    rules.reports validator (some (rules.evaluate validator p o).state) run := by
  have hnone : (rules.evaluate validator p o).events.filterMap (·.report) = [] := by
    refine List.filterMap_eq_nil_iff.2 fun e he => ?_
    obtain ⟨_, _, _, _, rfl⟩ := State.mem_nextEvents he
    rfl
  rw [reports]
  exact congrArg (· ++ _) hnone

end Rules

/-- The counts of a window are those of some checks: none is both healthy and
failed, and only one that failed can take a validator down. -/
def UptimeWindow.Bounded (w : UptimeWindow) : Prop :=
  w.healthyChecks + w.failedChecks ≤ w.checks ∧ w.downEpisodes ≤ w.failedChecks

theorem UptimeWindow.bounded_fresh (t : Instant) : (UptimeWindow.fresh t).Bounded :=
  ⟨Nat.le_refl 0, Nat.le_refl 0⟩

namespace State

theorem fails_of_goesDown (h : s.goesDown rules o = true) : s.fails o = true := by
  have hpos := rules.threshold_pos
  by_contra hf
  rw [goesDown, streak, if_neg hf, Bool.and_eq_true, decide_eq_true_eq, decide_eq_true_eq] at h
  omega

theorem fails_of_isHealthy (h : (s.nextVerdict rules o).isHealthy = true) : s.fails o = false :=
  (nextVerdict_eq_active_iff.1 (of_decide_eq_true h)).1

theorem bounded_nextWindow (h : s.window.Bounded) : (s.nextWindow rules o).Bounded := by
  obtain ⟨hchecks, hdown⟩ := h
  refine ⟨?_, ?_⟩ <;> simp only [nextWindow]
  · cases hv : (s.nextVerdict rules o).isHealthy with
    | true => rw [fails_of_isHealthy hv, if_pos rfl, if_neg Bool.false_ne_true]; omega
    | false => rw [if_neg Bool.false_ne_true]; split <;> omega
  · cases hg : s.goesDown rules o with
    | true => rw [fails_of_goesDown hg, if_pos rfl]; omega
    | false => rw [if_neg Bool.false_ne_true]; split <;> omega

/-- A check tells that the validator is down at most once. -/
theorem countP_down : (s.nextEvents rules validator o).countP (·.category = .down) =
    if s.goesDown rules o then 1 else 0 := by
  rw [List.countP_eq_length_filter, filter_nextEvents, eventOf?, downEvent?]
  split <;> rfl

end State

/-- What the windows of some reports and the one that is open after them have
in common with the checks of their time, which began in a window that was open
already. -/
structure Accounted (before after : List Observation) (checks : List Transition) (reports : List ExtendedReport)
    (first last : UptimeWindow) : Prop where
  checked : (reports.map (·.checks)).sum + last.checks = first.checks + checks.length
  healthy : (reports.map (·.healthyChecks)).sum + last.healthyChecks =
    first.healthyChecks + checks.countP (·.state.verdict = .active)
  failed : (reports.map (·.failedChecks)).sum + last.failedChecks + failures before =
    first.failedChecks + failures after
  down : (reports.map (·.downEpisodes)).sum + last.downEpisodes =
    first.downEpisodes + (checks.flatMap (·.events)).countP (·.category = .down)
  bounded : first.Bounded → last.Bounded ∧
    ∀ r ∈ reports, r.healthyChecks + r.failedChecks ≤ r.checks ∧ r.downEpisodes ≤ r.failedChecks
  tiled : reports.map (·.windowStarted) ++ [last.startedAt] = first.startedAt :: reports.map (·.windowEnded)

namespace Accounted

variable {after : List Observation} {checks : List Transition} {reports : List ExtendedReport} {last : UptimeWindow}

theorem none (before : List Observation) (w : UptimeWindow) : Accounted before before [] [] w w :=
  ⟨by simp, by simp, by simp, by simp, fun h => ⟨h, by simp⟩, rfl⟩

/-- A check before others is counted in the first window. -/
theorem check (h : Accounted (o :: before) after checks reports (s.nextWindow rules o) last)
    (hs : Recalls rules before s) :
    Accounted before after (⟨s.next rules o, s.nextEvents rules validator o⟩ :: checks) reports s.window last where
  checked := by
    have hsum := h.checked
    simp only [State.nextWindow] at hsum
    rw [hsum, List.length_cons]
    omega
  healthy := by
    have hsum := h.healthy
    have hcount : List.countP (fun t : Transition => t.state.verdict = .active)
        (⟨s.next rules o, s.nextEvents rules validator o⟩ :: checks) =
          checks.countP (·.state.verdict = .active) + if (s.nextVerdict rules o).isHealthy then 1 else 0 :=
      List.countP_cons
    simp only [State.nextWindow] at hsum
    rw [hcount]
    omega
  failed := by
    have hsum := h.failed
    simp only [State.nextWindow, failures, hs.fails_iff] at hsum
    omega
  down := by
    have hsum := h.down
    simp only [State.nextWindow] at hsum
    rw [hsum, List.flatMap_cons, List.countP_append, State.countP_down]
    omega
  bounded hfirst := h.bounded (State.bounded_nextWindow hfirst)
  tiled := h.tiled

/-- A report before others closes the first window. -/
theorem report {now : Instant} {r : ExtendedReport} (h : Accounted before after checks reports (.fresh now) last)
    (validator : String) (hr : (s.extendedReport validator now).1.report = some r) :
    Accounted before after checks (r :: reports) s.window last := by
  obtain rfl := Option.some.inj hr
  have hchecked := h.checked
  have hhealthy := h.healthy
  have hfailed := h.failed
  have hdown := h.down
  simp only [UptimeWindow.fresh] at hchecked hhealthy hfailed hdown
  obtain ⟨hlast, hreports⟩ := h.bounded (UptimeWindow.bounded_fresh now)
  constructor
  case checked => rw [List.map_cons, List.sum_cons]; dsimp only; omega
  case healthy => rw [List.map_cons, List.sum_cons]; dsimp only; omega
  case failed => rw [List.map_cons, List.sum_cons]; dsimp only; omega
  case down => rw [List.map_cons, List.sum_cons]; dsimp only; omega
  case bounded => exact fun hfirst => ⟨hlast, List.forall_mem_cons.2 ⟨hfirst, hreports⟩⟩
  case tiled => exact congrArg (s.window.startedAt :: ·) h.tiled

end Accounted

namespace Rules

theorem checks_check : rules.checks validator (some s) (.check o :: run) =
    ⟨s.next rules o, s.nextEvents rules validator o⟩ :: rules.checks validator (some (s.next rules o)) run := rfl

/-- The windows of a run that goes on from a state account for its checks. -/
theorem accounted (hthreshold : rules.threshold ≤ streakLimit) (hs : Recalls rules before s)
    (hend : run.foldl (fun s m => (rules.move validator s m).1) (some s) = some s') :
    Accounted before (seen run ++ before) (rules.checks validator (some s) run) (rules.reports validator (some s) run)
      s.window s'.window := by
  induction run generalizing s before with
  | nil =>
    obtain rfl := Option.some.inj hend
    exact .none before s.window
  | cons m run ih =>
    cases m with
    | check o =>
      have hrest := ih (hs.next hthreshold) hend
      rw [reports_check, checks_check, seen, List.append_assoc]
      exact hrest.check hs
    | report now =>
      have hrest := ih (hs.report validator now) hend
      exact hrest.report validator rfl

/-- There is one report for each time that one is made, once the validator was
checked. -/
theorem windowEnded_reports (s : State) (run : List Move) :
    (rules.reports validator (some s) run).map (·.windowEnded) = run.filterMap Move.reportTime? := by
  induction run generalizing s with
  | nil => rfl
  | cons m run ih =>
    cases m with
    | check o => rw [reports_check]; exact ih _
    | report now => exact congrArg (now :: ·) (ih _)

theorem length_checks (p : Option State) (run : List Move) :
    (rules.checks validator p run).length = (seen run).length := by
  induction run generalizing p with
  | nil => rfl
  | cons m run ih =>
    cases m with
    | check o => rw [checks, seen, List.length_cons, ih, List.length_append]; rfl
    | report now => exact ih _

/-! A run without a state goes on from that of its first check. -/

theorem windowEnded_reports_none (run : List Move) : (rules.reports validator none run).map (·.windowEnded) =
    (run.dropWhile fun m => !m.isCheck).filterMap Move.reportTime? := by
  induction run with
  | nil => rfl
  | cons m run ih =>
    cases m with
    | check o => exact windowEnded_reports (.fresh o.time) (.check o :: run)
    | report now => exact ih

theorem accounted_none (hthreshold : rules.threshold ≤ streakLimit) (hend : rules.after validator run = some s) :
    ∃ first, (seen run).getLast? = some first ∧
      Accounted [] (seen run) (rules.checks validator none run) (rules.reports validator none run)
        (.fresh first.time) s.window := by
  induction run with
  | nil => cases hend
  | cons m run ih =>
    cases m with
    | check o =>
      have hrun := @accounted rules validator (.fresh o.time) s [] (.check o :: run) hthreshold (.fresh o.time) hend
      rw [List.append_nil] at hrun
      exact ⟨o, List.getLast?_concat, hrun⟩
    | report now => exact ih hend

end Rules

/-- Reports leave checks alone: each check comes to the same without them,
apart from the window. And their windows account for every check: the first
begins with the first check, each of the others where the one before it ended,
and together with the window that is still open they count all checks, those
that were healthy, those that failed and those that told that the validator is
down. -/
theorem reports_account_for_checks (threshold : UInt32) (thresholds : ResourceThresholds) (validator : String)
    (run : List Move) :
    let rules := Rules.ofSettings threshold.toNat thresholds
    let checks := rules.checks validator none run
    let reports := rules.reports validator none run
    checks.map Transition.apart = (rules.checks validator none (run.filter Move.isCheck)).map Transition.apart ∧
    checks.length = (seen run).length ∧
    reports.map (·.windowEnded) = (run.dropWhile fun m => !m.isCheck).filterMap Move.reportTime? ∧
    ∀ s, rules.after validator run = some s →
      (reports.map (·.checks)).sum + s.window.checks = checks.length ∧
      (reports.map (·.healthyChecks)).sum + s.window.healthyChecks = checks.countP (·.state.verdict = .active) ∧
      (reports.map (·.failedChecks)).sum + s.window.failedChecks = failures (seen run) ∧
      (reports.map (·.downEpisodes)).sum + s.window.downEpisodes =
        (checks.flatMap (·.events)).countP (·.category = .down) ∧
      s.window.Bounded ∧
      (∀ r ∈ reports, r.healthyChecks + r.failedChecks ≤ r.checks ∧ r.downEpisodes ≤ r.failedChecks) ∧
      ∃ first, (seen run).getLast? = some first ∧
        reports.map (·.windowStarted) ++ [s.window.startedAt] = first.time :: reports.map (·.windowEnded) := by
  intro rules checks reports
  have hthreshold : rules.threshold ≤ streakLimit := Rules.threshold_ofSettings_le threshold thresholds
  refine ⟨Rules.apart_checks rfl run, Rules.length_checks none run, Rules.windowEnded_reports_none run, fun s hs => ?_⟩
  obtain ⟨first, hfirst, h⟩ := Rules.accounted_none hthreshold hs
  obtain ⟨hopen, hclosed⟩ := h.bounded (UptimeWindow.bounded_fresh first.time)
  exact ⟨h.checked.trans (Nat.zero_add _), h.healthy.trans (Nat.zero_add _), h.failed.trans (Nat.zero_add _),
    h.down.trans (Nat.zero_add _), hopen, hclosed, first, hfirst, h.tiled⟩

/-- An outage of two checks with a report before it, one after it and one after
the check that ends it. -/
def reportedOutage : List Move :=
  [.report (deadCheck 0).time, .check (deadCheck 1), .check (deadCheck 2), .report (deadCheck 3).time,
    .check (fineCheck 4), .report (fineCheck 5).time]

/-- The reports once the validator was checked, and the window that is open
after them, count three checks, two failures and one time that the validator
was told to be down. -/
theorem reportedOutage_accounted :
    let rules := Rules.ofSettings (2 : UInt32).toNat {}
    let reports := rules.reports "v" none reportedOutage
    reports.map (·.windowEnded) = [(deadCheck 3).time, (fineCheck 5).time] ∧
    ∃ s, rules.after "v" reportedOutage = some s ∧
      (reports.map (·.checks)).sum + s.window.checks = 3 ∧
      (reports.map (·.failedChecks)).sum + s.window.failedChecks = 2 ∧
      (reports.map (·.downEpisodes)).sum + s.window.downEpisodes = 1 := by
  intro rules reports
  obtain ⟨-, -, hended, h⟩ := reports_account_for_checks 2 {} "v" reportedOutage
  have hsome : (rules.after "v" reportedOutage).isSome = true := by decide +kernel
  obtain ⟨s, hs⟩ := Option.isSome_iff_exists.1 hsome
  obtain ⟨hchecks, -, hfailed, hdown, -⟩ := h s hs
  refine ⟨hended.trans (by decide +kernel), s, hs, ?_, ?_, ?_⟩
  · exact hchecks.trans (by decide +kernel)
  · exact hfailed.trans (by decide +kernel)
  · exact hdown.trans (by decide +kernel)

end ValidatorWatch
