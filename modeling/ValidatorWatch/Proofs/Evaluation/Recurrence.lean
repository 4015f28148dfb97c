import ValidatorWatch.Proofs.Evaluation.Figures
import ValidatorWatch.Proofs.Evaluation.Reports
/-!
# Recoveries in a run

A recovery is told by a check that makes the validator active, and only after a
check that left it inactive or critical. An active check has no failure and no
raised level of resources, so it tells neither that the validator is down nor
of its resources. And since a recovery leaves the validator active, there is
another check that does not before the next recovery (`recoveries_apart`).

`Rules.checks_predecessor` says how a check of a run follows from the one before
it, whatever reports are made in between.
-/

namespace ValidatorWatch

open Time (Instant)

/-- The categories of what a check may tell, in order. -/
def Category.ofChecks : List Category :=
  [.down, .resource, .activeSet, .consensusTimeout, .recovery]

/-- The check tells an event of a category. -/
def Transition.Tells (t : Transition) (c : Category) : Prop :=
  ∃ e ∈ t.events, e.category = c

instance (t : Transition) (c : Category) : Decidable (t.Tells c) :=
  inferInstanceAs (Decidable (∃ e ∈ t.events, e.category = c))

theorem Verdict.isDown_iff {v : Verdict} : v.isDown = true ↔ v = .inactive ∨ v = .critical := by
  simp [isDown]

/-! ## One check -/

namespace State

variable {rules : Rules} {validator : String} {s : State} {o : Observation}

theorem category_sublist {f : Category → Option AlertEvent} (hf : ∀ c e, f c = some e → e.category = c)
    (cs : List Category) : ((cs.flatMap fun c => (f c).toList).map (·.category)).Sublist cs := by
  induction cs with
  | nil => exact List.Sublist.refl []
  | cons c cs ih =>
    rw [List.flatMap_cons, List.map_append]
    cases h : f c with
    | none => exact ih.cons c
    | some e =>
      rw [← hf c e h]
      exact ih.cons_cons e.category

/-- A check tells its events in order, one of a category at most. -/
theorem category_nextEvents (rules : Rules) (validator : String) (s : State) (o : Observation) :
    ((s.nextEvents rules validator o).map (·.category)).Sublist Category.ofChecks := by
  rw [nextEvents_eq]
  exact category_sublist (fun c e => category_of_eventOf?) Category.ofChecks

/-- What a recovery says of the check that tells it. -/
structure Recovers (rules : Rules) (validator : String) (s : State) (o : Observation) : Prop where
  before : s.verdict.isDown = true
  after : s.nextVerdict rules o = .active
  notDown : ¬ ∃ e ∈ s.nextEvents rules validator o, e.category = .down
  noResource : ¬ ∃ e ∈ s.nextEvents rules validator o, e.category = .resource

theorem recovers (h : ∃ e ∈ s.nextEvents rules validator o, e.category = .recovery) :
    Recovers rules validator s o := by
  rw [exists_mem_nextEvents_iff] at h
  obtain ⟨hdown, hfine, hlevel, hmember⟩ := isSome_recoveryEvent?_iff.1 h
  constructor
  case before => exact hdown
  case after => exact nextVerdict_eq_active_iff.2 ⟨hfine, (heldLevel_eq_normal_iff.1 hlevel).1, hmember⟩
  case notDown =>
    rw [exists_mem_nextEvents_iff, eventOf?, downEvent?]
    split
    · next hgoes =>
      rw [fails_of_goesDown hgoes] at hfine
      cases hfine
    · simp
  case noResource =>
    rw [exists_mem_nextEvents_iff]
    intro hresource
    obtain ⟨hfigures, hraised⟩ := isSome_resourceEvent?_iff.1 hresource
    rw [heldLevel, if_neg (by simp [hfigures])] at hlevel
    rw [hlevel] at hraised
    exact absurd hraised (Nat.not_lt_zero _)

end State

/-! ## Runs -/

namespace Rules

variable {rules : Rules} {validator : String} {p : Option State} {t : Transition} {i : Nat}

/-- Each check of a run is that of some state, with the verdict that the check
before it left, or for the first check the one that there was. -/
theorem checks_predecessor (run : List Move) (h : (rules.checks validator p run)[i]? = some t) :
    ∃ (s : State) (o : Observation), t = ⟨s.next rules o, s.nextEvents rules validator o⟩ ∧
      ((i = 0 ∧ s.verdict = (p.map State.verdict).getD .active) ∨
        ∃ (j : Nat) (u : Transition), i = j + 1 ∧ (rules.checks validator p run)[j]? = some u ∧ u.state.verdict = s.verdict) := by
  induction run generalizing p i with
  | nil => cases h
  | cons m run ih =>
    cases m with
    | check o =>
      cases i with
      | zero =>
        obtain rfl := Option.some.inj h
        refine ⟨p.getD (.fresh o.time), o, rfl, .inl ⟨rfl, ?_⟩⟩
        cases p <;> rfl
      | succ i =>
        obtain ⟨s, o', rfl, ⟨rfl, hfirst⟩ | ⟨j, u, rfl, hu, hv⟩⟩ := ih h
        · exact ⟨s, o', rfl, .inr ⟨0, _, rfl, rfl, hfirst.symm⟩⟩
        · exact ⟨s, o', rfl, .inr ⟨j + 1, u, rfl, hu, hv⟩⟩
    | report now =>
      obtain ⟨s, o, rfl, hbefore⟩ := ih h
      refine ⟨s, o, rfl, ?_⟩
      have hverdict : ((rules.move validator p (.report now)).1.map State.verdict) = p.map State.verdict := by
        cases p <;> rfl
      rw [hverdict] at hbefore
      exact hbefore

/-- A recovery is never told by a first check. -/
theorem recovery_follows (run : List Move) (h : (rules.checks validator none run)[i]? = some t)
    (htells : t.Tells .recovery) :
    t.state.verdict = .active ∧ ¬ t.Tells .down ∧ ¬ t.Tells .resource ∧
      ∃ (j : Nat) (u : Transition), i = j + 1 ∧ (rules.checks validator none run)[j]? = some u ∧
        u.state.verdict.isDown = true := by
  obtain ⟨s, o, rfl, hbefore⟩ := checks_predecessor run h
  have hr : s.Recovers rules validator o := State.recovers htells
  refine ⟨hr.after, hr.notDown, hr.noResource, ?_⟩
  rcases hbefore with ⟨-, hfirst⟩ | ⟨j, u, hi, hu, hv⟩
  · have hdown := hr.before
    rw [hfirst] at hdown
    cases hdown
  · exact ⟨j, u, hi, hu, by rw [hv]; exact hr.before⟩

theorem category_checks (run : List Move) (h : (rules.checks validator p run)[i]? = some t) :
    (t.events.map (·.category)).Sublist Category.ofChecks := by
  obtain ⟨s, o, rfl, -⟩ := checks_predecessor run h
  exact State.category_nextEvents rules validator s o

end Rules

/-- A check tells at most one event of each category, in their order. One that
tells of a recovery makes the validator active, tells neither that it is down
nor of its resources, and follows a check that left the validator inactive or
critical. And between any two of them there is such a check. -/
theorem recoveries_apart (rules : Rules) (validator : String) (run : List Move) :
    let checks := rules.checks validator none run
    (∀ t ∈ checks, (t.events.map (·.category)).Sublist Category.ofChecks) ∧
    (∀ i : Nat, ∀ t ∈ checks[i]?, t.Tells .recovery →
      t.state.verdict = .active ∧ ¬ t.Tells .down ∧ ¬ t.Tells .resource ∧
      ∃ j : Nat, i = j + 1 ∧ ∃ u ∈ checks[j]?, u.state.verdict = .inactive ∨ u.state.verdict = .critical) ∧
    ∀ i j : Nat, i < j → (∃ t ∈ checks[i]?, t.Tells .recovery) → (∃ t ∈ checks[j]?, t.Tells .recovery) →
      ∃ k : Nat, i < k ∧ k < j ∧ ∃ u ∈ checks[k]?, u.state.verdict = .inactive ∨ u.state.verdict = .critical := by
  intro checks
  refine ⟨?_, ?_, ?_⟩
  · intro t ht
    obtain ⟨i, hi⟩ := List.mem_iff_getElem?.1 ht
    exact Rules.category_checks run hi
  · intro i t ht htells
    obtain ⟨hactive, hdown, hresource, j, u, hi, hu, hv⟩ := Rules.recovery_follows run ht htells
    exact ⟨hactive, hdown, hresource, j, hi, u, hu, Verdict.isDown_iff.1 hv⟩
  · rintro i j hij ⟨t, ht, htells⟩ ⟨t', ht', htells'⟩
    obtain ⟨hactive, -⟩ := Rules.recovery_follows run ht htells
    obtain ⟨-, -, -, k, u, rfl, hu, hv⟩ := Rules.recovery_follows run ht' htells'
    -- The check before the later one is not the earlier one, which leaves the validator active.
    have hne : i ≠ k := by
      rintro rfl
      obtain rfl : t = u := Option.some.inj (ht.symm.trans hu)
      rw [hactive] at hv
      cases hv
    exact ⟨k, by omega, by omega, u, hu, Verdict.isDown_iff.1 hv⟩

/-- Two outages of one check, and what follows them. -/
def recoveredTwice : List Move :=
  [.check (deadCheck 0), .check (fineCheck 1), .report (fineCheck 2).time, .check (fineCheck 2),
    .check (deadCheck 3), .check (fineCheck 4)]

/-- The second and the fifth check tell of a recovery, so there is one between them
that leaves the validator inactive or critical. -/
theorem recoveredTwice_apart :
    let checks := (Rules.ofSettings 1 {}).checks "v" none recoveredTwice
    (∃ t ∈ checks[1]?, t.Tells .recovery) ∧ (∃ t ∈ checks[4]?, t.Tells .recovery) ∧
      ∃ k : Nat, 1 < k ∧ k < 4 ∧ ∃ u ∈ checks[k]?, u.state.verdict = .inactive ∨ u.state.verdict = .critical := by
  intro checks
  have hfirst : ∃ t ∈ checks[1]?, t.Tells .recovery := by decide +kernel
  have hsecond : ∃ t ∈ checks[4]?, t.Tells .recovery := by decide +kernel
  obtain ⟨-, -, hapart⟩ := recoveries_apart (.ofSettings 1 {}) "v" recoveredTwice
  exact ⟨hfirst, hsecond, hapart 1 4 (by decide) hfirst hsecond⟩

end ValidatorWatch
