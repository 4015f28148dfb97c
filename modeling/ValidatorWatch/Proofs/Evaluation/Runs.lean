import Mathlib.Data.List.Induction
import ValidatorWatch.Validator.Evaluation
/-!
# Runs of checks and reports

A validator is checked again and again, and now and then a report closes its
window. `Rules.after` is the state that such a run leaves, and
`Rules.after_keeps` the one induction over runs: what holds of a fresh state
and is kept by a check and by a report holds after every run.

A check tells at most one event of each category. `filter_nextEvents` says
which, so that no later proof looks at the list of events again.
-/

namespace ValidatorWatch

open Time (Instant)

/-- What is done about a validator. -/
inductive Move where
  | check (o : Observation)
  | report (now : Instant)

namespace Rules

/-- The state after a move and what it tells. A validator that was never
checked has nothing to report. -/
def move (rules : Rules) (validator : String) : Option State → Move → Option State × List AlertEvent
  | previous, .check o =>
    let t := rules.evaluate validator previous o
    (some t.state, t.events)
  | some s, .report now =>
    let (event, next) := s.extendedReport validator now
    (some next, [event])
  | none, .report _ => (none, [])

/-- The state after a run that began without one. -/
def after (rules : Rules) (validator : String) (run : List Move) : Option State :=
  run.foldl (fun s m => (rules.move validator s m).1) none

end Rules

/-- What the checks of a run saw, the latest first. -/
def seen : List Move → List Observation
  | [] => []
  | .check o :: run => seen run ++ [o]
  | .report _ :: run => seen run

theorem seen_append (run more : List Move) : seen (run ++ more) = seen more ++ seen run := by
  induction run with
  | nil => simp [seen]
  | cons m run ih => cases m <;> simp [seen, ih]

namespace Rules

variable {rules : Rules} {validator : String}

theorem after_append (run : List Move) (m : Move) :
    rules.after validator (run ++ [m]) = (rules.move validator (rules.after validator run) m).1 := by
  rw [after, List.foldl_append]
  rfl

/-- What a fresh state has, and a check and a report keep, holds after every
run, together with what was seen. Before the first check that is the fresh
state of whatever time the first check will have. -/
theorem after_keeps {P : List Observation → State → Prop}
    (fresh : ∀ t, P [] (.fresh t))
    (check : ∀ before s o, P before s → P (o :: before) (s.next rules o))
    (report : ∀ before s now, P before s → P before (s.extendedReport validator now).2)
    (run : List Move) (t : Instant) : P (seen run) ((rules.after validator run).getD (.fresh t)) := by
  induction run using List.reverseRecOn generalizing t with
  | nil => exact fresh t
  | append_singleton run m ih =>
    rw [after_append, seen_append]
    cases m with
    | check o => exact check _ _ o (ih o.time)
    | report now =>
      cases h : rules.after validator run with
      | none => rw [h] at ih; exact ih t
      | some s => rw [h] at ih; exact report _ s now (ih t)

end Rules

namespace State

/-! ## The events of a check -/

/-- The event of a category that a check tells, if any. -/
def eventOf? (rules : Rules) (prev : State) (validator : String) (o : Observation) :
    Category → Option AlertEvent
  | .down => prev.downEvent? rules validator o
  | .recovery => prev.recoveryEvent? rules validator o
  | .resource => prev.resourceEvent? rules validator o
  | .activeSet => prev.activeSetEvent? validator o
  | .consensusTimeout => prev.timeoutEvent? validator o
  | .extendedReport => none

variable {rules : Rules} {prev : State} {validator : String} {o : Observation}

theorem category_of_eventOf? {c : Category} {e : AlertEvent}
    (h : prev.eventOf? rules validator o c = some e) : e.category = c := by
  cases c <;> simp only [eventOf?, reduceCtorEq, downEvent?, recoveryEvent?, resourceEvent?,
    activeSetEvent?, timeoutEvent?] at h
  all_goals repeat' split at h
  all_goals first
    | cases h; rfl
    | (obtain ⟨_, -, rfl⟩ := Option.map_eq_some_iff.1 h; rfl)
    | cases h

theorem nextEvents_eq : prev.nextEvents rules validator o =
    [Category.down, .resource, .activeSet, .consensusTimeout, .recovery].flatMap fun c =>
      (prev.eventOf? rules validator o c).toList := by
  simp only [nextEvents, eventOf?, List.filterMap_cons, List.filterMap_nil, List.flatMap_cons,
    List.flatMap_nil, id]
  cases prev.downEvent? rules validator o <;> cases prev.resourceEvent? rules validator o <;>
    cases prev.activeSetEvent? validator o <;> cases prev.timeoutEvent? validator o <;>
    cases prev.recoveryEvent? rules validator o <;> rfl

theorem filter_eventOf? (c d : Category) :
    (prev.eventOf? rules validator o d).toList.filter (·.category = c) =
      if d = c then (prev.eventOf? rules validator o c).toList else [] := by
  cases h : prev.eventOf? rules validator o d with
  | none => split <;> simp_all
  | some e =>
    have hc := category_of_eventOf? h
    by_cases hd : d = c
    · subst hd; simp [hc, h]
    · simp [hc, hd]

/-- A check tells at most one event of each category. -/
theorem filter_nextEvents (c : Category) :
    (prev.nextEvents rules validator o).filter (·.category = c) =
      (prev.eventOf? rules validator o c).toList := by
  rw [nextEvents_eq, List.filter_flatMap]
  simp only [filter_eventOf?]
  cases c <;> simp [eventOf?]

/-- A check tells of a category what the rule for it says. -/
theorem exists_mem_nextEvents_iff {c : Category} : (∃ e ∈ prev.nextEvents rules validator o, e.category = c) ↔
    (prev.eventOf? rules validator o c).isSome = true := by
  have hmem : (∃ e ∈ prev.nextEvents rules validator o, e.category = c) ↔
      (prev.nextEvents rules validator o).filter (·.category = c) ≠ [] := by
    simp [List.filter_eq_nil_iff]
  rw [hmem, filter_nextEvents]
  cases prev.eventOf? rules validator o c <;> simp

/-- All that a check tells is about its own moment. -/
theorem mem_nextEvents {e : AlertEvent} (h : e ∈ prev.nextEvents rules validator o) :
    ∃ severity category summary crossed, e = prev.event validator o severity category summary crossed := by
  rw [nextEvents, List.mem_filterMap] at h
  obtain ⟨x, hx, rfl⟩ := h
  simp only [List.mem_cons, List.not_mem_nil, or_false] at hx
  rcases hx with hx | hx | hx | hx | hx
  · unfold downEvent? at hx
    split at hx <;> cases hx
    exact ⟨_, _, _, _, rfl⟩
  · unfold resourceEvent? at hx
    split at hx
    · cases hx
    dsimp only at hx
    split at hx
    · obtain ⟨_, -, rfl⟩ := Option.map_eq_some_iff.1 hx.symm
      exact ⟨_, _, _, _, rfl⟩
    · cases hx
  · unfold activeSetEvent? at hx
    split at hx
    · split at hx <;> cases hx
      exact ⟨_, _, _, _, rfl⟩
    · cases hx
  · unfold timeoutEvent? at hx
    split at hx
    · split at hx <;> cases hx
      exact ⟨_, _, _, _, rfl⟩
    · cases hx
  · unfold recoveryEvent? at hx
    split at hx <;> cases hx
    exact ⟨_, _, _, _, rfl⟩

end State

theorem Rules.filter_evaluate (rules : Rules) (validator : String) (previous : Option State)
    (o : Observation) (c : Category) :
    (rules.evaluate validator previous o).events.filter (·.category = c) =
      ((previous.getD (.fresh o.time)).eventOf? rules validator o c).toList :=
  State.filter_nextEvents c

end ValidatorWatch
