import Mathlib.Data.List.Chain
import ValidatorWatch.Proofs.Evaluation.Reports
/-!
# Changes between known values

Neither the membership nor the count of timeouts is known on every check. What
is told of them goes by the values that are known: it compares that of the
check with the last known one before it, however many checks lie in between
that knew none.

`Tracked` is what the two have in common. The state keeps the last known value,
and what a check tells depends on nothing else of the state, apart from the
height and the uptime that an event has from earlier checks. So a run can be
compared with one that lacks the checks that know nothing (`Tracked.edges_filter`).
-/

namespace ValidatorWatch

open Time (Instant)

/-! ## Events of a change -/

/-- A known membership other than the one known before. -/
def Differs : Option Bool → Option Bool → Prop
  | some current, some known => current ≠ known
  | _, _ => False

instance : (current known : Option Bool) → Decidable (Differs current known)
  | some c, some k => inferInstanceAs (Decidable (c ≠ k))
  | some _, none => inferInstanceAs (Decidable False)
  | none, _ => inferInstanceAs (Decidable False)

/-- The words for a change of membership. -/
def membershipText (validator : String) (entered : Bool) : String :=
  if entered then s!"{validator} entered the active set" else s!"{validator} left the active set"

/-- The event without the figures that it may have from earlier checks. -/
def AlertEvent.own (e : AlertEvent) : AlertEvent :=
  { e with height := none, uptimePercent := none }

namespace State

/-- What a check tells of membership. -/
theorem membership_told (rules : Rules) (validator : String) (s : State) (o : Observation) :
    let told := (s.nextEvents rules validator o).filter (·.category = .activeSet)
    (∃ known entered, s.inActiveSet = some known ∧ o.inActiveSet = some entered ∧ entered ≠ known ∧
      told = [s.event validator o .info .activeSet (membershipText validator entered) none]) ∨
    (¬ Differs o.inActiveSet s.inActiveSet ∧ told = []) := by
  intro told
  have htold : told = (s.activeSetEvent? validator o).toList := filter_nextEvents .activeSet
  rw [htold]
  unfold activeSetEvent?
  cases hs : s.inActiveSet with
  | none =>
    right
    cases o.inActiveSet <;> exact ⟨id, rfl⟩
  | some known =>
    cases ho : o.inActiveSet with
    | none => exact .inr ⟨id, rfl⟩
    | some entered =>
      dsimp only
      by_cases heq : known = entered
      · rw [if_pos heq]
        exact .inr ⟨fun hne => hne heq.symm, rfl⟩
      · rw [if_neg heq]
        exact .inl ⟨known, entered, rfl, rfl, Ne.symm heq, rfl⟩

/-- What a check tells of timeouts. -/
theorem timeouts_told (rules : Rules) (validator : String) (s : State) (o : Observation) :
    let told := (s.nextEvents rules validator o).filter (·.category = .consensusTimeout)
    (∃ known missed, s.lastTimeouts = some known ∧ timeouts? o = some (known + missed) ∧ 0 < missed ∧
      told = [s.event validator o .critical .consensusTimeout
        s!"{validator} missed {missed} consensus round(s), {known + missed} timeouts in total"
        (some s!"timeouts {known} -> {known + missed}")]) ∨
    (¬ Exceeds (timeouts? o) s.lastTimeouts ∧ told = []) := by
  intro told
  have htold : told = (s.timeoutEvent? validator o).toList := filter_nextEvents .consensusTimeout
  rw [htold]
  unfold timeoutEvent?
  cases hs : s.lastTimeouts with
  | none =>
    right
    cases timeouts? o <;> exact ⟨id, rfl⟩
  | some known =>
    cases ho : timeouts? o with
    | none => exact .inr ⟨id, rfl⟩
    | some current =>
      dsimp only
      by_cases hlt : known < current
      · obtain ⟨missed, rfl⟩ := Nat.exists_eq_add_of_le (Nat.le_of_lt hlt)
        rw [if_pos hlt, Nat.add_sub_cancel_left]
        exact .inl ⟨known, missed, rfl, rfl, by omega, rfl⟩
      · rw [if_neg hlt]
        exact .inr ⟨hlt, rfl⟩

end State

/-! ## Runs with what they told -/

/-- Whether a move is a check on which a figure is known. -/
def Move.knows {α : Type} (figure : Observation → Option α) : Move → Bool
  | .check o => (figure o).isSome
  | .report _ => false

namespace Rules

/-- What the checks of a run that goes on from a state saw and told, in order. -/
def tellings (rules : Rules) (validator : String) (p : Option State) (run : List Move) :
    List (Observation × List AlertEvent) :=
  (seen run).reverse.zip ((rules.checks validator p run).map (·.events))

/-- What the checks that knew a figure told in a category. -/
def edges {α : Type} (rules : Rules) (validator : String) (figure : Observation → Option α) (c : Category)
    (p : Option State) (run : List Move) : List (Observation × List AlertEvent) :=
  ((rules.tellings validator p run).filter fun x => (figure x.1).isSome).map
    fun x => (x.1, (x.2.filter (·.category = c)).map AlertEvent.own)

variable {α : Type} {rules : Rules} {validator : String} {figure : Observation → Option α} {c : Category}
  {p q : Option State} {o : Observation} {run : List Move}

theorem tellings_check : rules.tellings validator p (.check o :: run) =
    (o, (rules.evaluate validator p o).events) ::
      rules.tellings validator (some (rules.evaluate validator p o).state) run := by
  simp [tellings, seen, checks]

theorem edges_check_of_none (h : figure o = none) : rules.edges validator figure c p (.check o :: run) =
    rules.edges validator figure c (some (rules.evaluate validator p o).state) run := by
  rw [edges, tellings_check, List.filter_cons_of_neg (by simp [h])]
  rfl

theorem edges_check_of_some (h : (figure o).isSome = true) : rules.edges validator figure c p (.check o :: run) =
    (o, ((rules.evaluate validator p o).events.filter (·.category = c)).map AlertEvent.own) ::
      rules.edges validator figure c (some (rules.evaluate validator p o).state) run := by
  rw [edges, tellings_check, List.filter_cons_of_pos (by exact h), List.map_cons]
  rfl

end Rules

/-! ## Tracked figures -/

/-- A figure whose last known value the state keeps, and a category of events
that depends on nothing else of the state. -/
structure Tracked (α : Type) where
  figure : Observation → Option α
  record : State → Option α
  category : Category
  fresh : ∀ t, record (.fresh t) = none
  next : ∀ rules s o, record (s.next rules o) = (figure o).or (record s)
  report : ∀ s validator now, record (s.extendedReport validator now).2 = record s
  alike : ∀ rules validator s s' o, record s = record s' →
    (s.eventOf? rules validator o category).map AlertEvent.own =
      (s'.eventOf? rules validator o category).map AlertEvent.own

namespace Tracked

/-- Membership and its changes. -/
def membership : Tracked Bool where
  figure := Observation.inActiveSet
  record := State.inActiveSet
  category := .activeSet
  fresh _ := rfl
  next _ _ _ := rfl
  report _ _ _ := rfl
  alike _ _ s s' o h := by
    simp only [State.eventOf?, State.activeSetEvent?, h]
    cases s'.inActiveSet <;> cases o.inActiveSet <;> try rfl
    dsimp only
    split <;> rfl

/-- The count of timeouts and its growth. -/
def timeouts : Tracked Nat where
  figure := State.timeouts?
  record := State.lastTimeouts
  category := .consensusTimeout
  fresh _ := rfl
  next _ _ _ := rfl
  report _ _ _ := rfl
  alike _ _ s s' o h := by
    simp only [State.eventOf?, State.timeoutEvent?, h]
    cases s'.lastTimeouts <;> cases State.timeouts? o <;> try rfl
    dsimp only
    split <;> rfl

variable {α : Type} (T : Tracked α) {rules : Rules} {validator : String} {p q : Option State} {o : Observation}

/-- After every run the last known value is on record. -/
theorem record_after (rules : Rules) (validator : String) (run : List Move) (t : Instant) :
    T.record ((rules.after validator run).getD (.fresh t)) = latest T.figure (seen run) := by
  refine Rules.after_keeps (P := fun history s => T.record s = latest T.figure history) T.fresh ?_ ?_ run t
  · intro before s o h
    rw [T.next, latest_cons, h]
  · intro before s now h
    rw [T.report, h]

theorem record_getD (p : Option State) (t : Instant) : T.record (p.getD (.fresh t)) = p.bind T.record := by
  cases p with
  | none => exact T.fresh t
  | some s => rfl

theorem record_evaluate : (some (rules.evaluate validator p o).state).bind T.record =
    (T.figure o).or (p.bind T.record) := by
  rw [← T.record_getD p o.time]
  exact T.next _ _ _

theorem record_report (now : Instant) :
    (rules.move validator p (.report now)).1.bind T.record = p.bind T.record := by
  cases p with
  | none => rfl
  | some s => exact T.report s validator now

theorem alike_evaluate (h : p.bind T.record = q.bind T.record) :
    ((rules.evaluate validator p o).events.filter (·.category = T.category)).map AlertEvent.own =
      ((rules.evaluate validator q o).events.filter (·.category = T.category)).map AlertEvent.own := by
  have halike := T.alike rules validator (p.getD (.fresh o.time)) (q.getD (.fresh o.time)) o
    (by rw [T.record_getD, T.record_getD, h])
  rw [Rules.filter_evaluate, Rules.filter_evaluate, ← Option.toList_map, ← Option.toList_map, halike]

/-- Without the checks that know nothing of the figure the others tell the same. -/
theorem edges_filter (h : p.bind T.record = q.bind T.record) (run : List Move) :
    rules.edges validator T.figure T.category p run =
      rules.edges validator T.figure T.category q (run.filter (Move.knows T.figure)) := by
  induction run generalizing p q with
  | nil => rfl
  | cons m run ih =>
    cases m with
    | check o =>
      cases hknown : T.figure o with
      | none =>
        rw [Rules.edges_check_of_none hknown, List.filter_cons_of_neg (by simp [Move.knows, hknown])]
        apply ih
        rw [record_evaluate, hknown, Option.none_or, h]
      | some a =>
        have hsome : (T.figure o).isSome = true := by rw [hknown]; rfl
        rw [List.filter_cons_of_pos (by exact hsome), Rules.edges_check_of_some hsome, Rules.edges_check_of_some hsome,
          T.alike_evaluate h]
        congr 1
        apply ih
        rw [record_evaluate, record_evaluate, h]
    | report now =>
      rw [List.filter_cons_of_neg (by simp [Move.knows])]
      exact ih ((T.record_report now).trans h)

theorem edges_eq {run other : List Move}
    (h : other.filter (Move.knows T.figure) = run.filter (Move.knows T.figure)) :
    rules.edges validator T.figure T.category none other = rules.edges validator T.figure T.category none run := by
  rw [T.edges_filter rfl other, T.edges_filter rfl run, h]

end Tracked

/-! ## The checks of a run -/

namespace Rules

theorem membership_told (rules : Rules) (validator : String) (run : List Move) (o : Observation) :
    let told := (rules.evaluate validator (rules.after validator run) o).events
    if Differs o.inActiveSet (latest Observation.inActiveSet (seen run)) then
      ∃ e entered, o.inActiveSet = some entered ∧ told.filter (·.category = .activeSet) = [e] ∧
        e.severity = .info ∧ e.summary = membershipText validator entered
    else told.filter (·.category = .activeSet) = [] := by
  intro told
  have hrecord : ((rules.after validator run).getD (.fresh o.time)).inActiveSet =
      latest Observation.inActiveSet (seen run) := Tracked.membership.record_after rules validator run o.time
  have hcases := State.membership_told rules validator ((rules.after validator run).getD (.fresh o.time)) o
  rw [hrecord] at hcases
  rcases hcases with ⟨known, entered, hknown, hentered, hne, htold⟩ | ⟨hsame, htold⟩
  · have hdiffers : Differs o.inActiveSet (latest Observation.inActiveSet (seen run)) := by
      rw [hentered, hknown]
      exact hne
    rw [if_pos hdiffers]
    exact ⟨_, entered, hentered, htold, rfl, rfl⟩
  · rw [if_neg hsame]
    exact htold

theorem timeouts_told (rules : Rules) (validator : String) (run : List Move) (o : Observation) :
    let told := (rules.evaluate validator (rules.after validator run) o).events
    if Exceeds (State.timeouts? o) (latest State.timeouts? (seen run)) then
      ∃ e known missed, latest State.timeouts? (seen run) = some known ∧
        State.timeouts? o = some (known + missed) ∧ 0 < missed ∧
        told.filter (·.category = .consensusTimeout) = [e] ∧ e.severity = .critical ∧
        e.summary = s!"{validator} missed {missed} consensus round(s), {known + missed} timeouts in total"
    else told.filter (·.category = .consensusTimeout) = [] := by
  intro told
  have hrecord : ((rules.after validator run).getD (.fresh o.time)).lastTimeouts =
      latest State.timeouts? (seen run) := Tracked.timeouts.record_after rules validator run o.time
  have hcases := State.timeouts_told rules validator ((rules.after validator run).getD (.fresh o.time)) o
  rw [hrecord] at hcases
  rcases hcases with ⟨known, missed, hknown, hmore, hpos, htold⟩ | ⟨hsame, htold⟩
  · have hexceeds : Exceeds (State.timeouts? o) (latest State.timeouts? (seen run)) := by
      rw [hmore, hknown]
      exact Nat.lt_add_of_pos_right hpos
    rw [if_pos hexceeds]
    exact ⟨_, known, missed, hknown, hmore, hpos, htold, rfl, rfl⟩
  · rw [if_neg hsame]
    exact htold

end Rules

/-! ## Turns of membership -/

/-- Without a change the value before may be put for the one after. -/
theorem isChain_of_not_differs {current known : Option Bool} {turns : List Bool} (h : ¬ Differs current known)
    (hchain : ((current.or known).toList ++ turns).IsChain (· ≠ ·)) :
    (known.toList ++ turns).IsChain (· ≠ ·) := by
  cases known with
  | none => cases current with
    | none => exact hchain
    | some c => exact hchain.tail
  | some k => cases current with
    | none => exact hchain
    | some c =>
      have heq : c = k := Decidable.not_not.1 h
      exact heq ▸ hchain

/-- The changes that a run tells alternate, and the first of them is away from the
membership that was known before. -/
theorem Rules.membership_alternates (rules : Rules) (validator : String) (p : Option State) (run : List Move) :
    ∃ turns : List Bool, ((p.bind State.inActiveSet).toList ++ turns).IsChain (· ≠ ·) ∧
      (((rules.checks validator p run).flatMap (·.events)).filter (·.category = .activeSet)).map (·.summary) =
        turns.map (membershipText validator) := by
  induction run generalizing p with
  | nil =>
    refine ⟨[], ?_, rfl⟩
    cases p.bind State.inActiveSet <;> simp
  | cons m run ih =>
    cases m with
    | check o =>
      obtain ⟨turns, hchain, htexts⟩ := ih (some (rules.evaluate validator p o).state)
      have hprev : (p.getD (.fresh o.time)).inActiveSet = p.bind State.inActiveSet :=
        Tracked.membership.record_getD p o.time
      have hnext : (some (rules.evaluate validator p o).state).bind State.inActiveSet =
          o.inActiveSet.or (p.bind State.inActiveSet) := Tracked.membership.record_evaluate
      rw [hnext] at hchain
      rw [checks, List.flatMap_cons, List.filter_append, List.map_append, htexts, ← hprev]
      rcases State.membership_told rules validator (p.getD (.fresh o.time)) o with
        ⟨known, entered, hknown, hentered, hne, htold⟩ | ⟨hsame, htold⟩
      · refine ⟨entered :: turns, ?_, ?_⟩
        · rw [hentered] at hchain
          rw [hknown]
          exact List.isChain_cons_cons.2 ⟨Ne.symm hne, hchain⟩
        · rw [evaluate, htold]
          rfl
      · rw [← hprev] at hchain
        refine ⟨turns, isChain_of_not_differs hsame hchain, ?_⟩
        rw [evaluate, htold]
        rfl
    | report now =>
      obtain ⟨turns, hchain, htexts⟩ := ih (rules.move validator p (.report now)).1
      have hkept : (rules.move validator p (.report now)).1.bind State.inActiveSet = p.bind State.inActiveSet :=
        Tracked.membership.record_report now
      exact ⟨turns, hkept ▸ hchain, htexts⟩

/-- A check tells of membership exactly if the membership is known and other than
the last known one before it, and of timeouts exactly if their count is known
and above the last known one before it, by as much as it is above it. The
changes of membership that a run tells are to and fro in turn. And two runs that
agree on the checks that know the membership tell the same changes of it on
these, and likewise for timeouts. -/
theorem told_changes_between_known_values (rules : Rules) (validator : String) (run : List Move) :
    (∀ o, let told := (rules.evaluate validator (rules.after validator run) o).events
      (if Differs o.inActiveSet (latest Observation.inActiveSet (seen run)) then
        ∃ e entered, o.inActiveSet = some entered ∧ told.filter (·.category = .activeSet) = [e] ∧
          e.severity = .info ∧ e.summary = membershipText validator entered
      else told.filter (·.category = .activeSet) = []) ∧
      (if Exceeds (State.timeouts? o) (latest State.timeouts? (seen run)) then
        ∃ e known missed, latest State.timeouts? (seen run) = some known ∧
          State.timeouts? o = some (known + missed) ∧ 0 < missed ∧
          told.filter (·.category = .consensusTimeout) = [e] ∧ e.severity = .critical ∧
          e.summary = s!"{validator} missed {missed} consensus round(s), {known + missed} timeouts in total"
      else told.filter (·.category = .consensusTimeout) = [])) ∧
    (∃ turns : List Bool, turns.IsChain (· ≠ ·) ∧
      (((rules.checks validator none run).flatMap (·.events)).filter (·.category = .activeSet)).map (·.summary) =
        turns.map (membershipText validator)) ∧
    ∀ other : List Move,
      (other.filter (Move.knows Observation.inActiveSet) = run.filter (Move.knows Observation.inActiveSet) →
        rules.edges validator Observation.inActiveSet .activeSet none other =
          rules.edges validator Observation.inActiveSet .activeSet none run) ∧
      (other.filter (Move.knows State.timeouts?) = run.filter (Move.knows State.timeouts?) →
        rules.edges validator State.timeouts? .consensusTimeout none other =
          rules.edges validator State.timeouts? .consensusTimeout none run) := by
  refine ⟨?_, rules.membership_alternates validator none run, ?_⟩
  · intro o told
    exact ⟨rules.membership_told validator run o, rules.timeouts_told validator run o⟩
  · intro other
    exact ⟨Tracked.membership.edges_eq, Tracked.timeouts.edges_eq⟩

/-- A check that knows the validator to be a member and how many timeouts it had. -/
def memberCheck (minute : Int) (count : Nat) : Observation :=
  { fineCheck minute with
    inActiveSet := some true
    uptime := some ⟨none, none, some count, .gmonads⟩ }

/-- A check that knows it to be absent. -/
def absentCheck (minute : Int) : Observation :=
  { fineCheck minute with inActiveSet := some false }

/-- A member with three timeouts, and later with five, leaves. In between nothing
answers. -/
def silenceBetween : List Move :=
  [.check (memberCheck 0 3), .check (deadCheck 1), .check (memberCheck 2 5), .check (deadCheck 3),
    .check (absentCheck 4)]

/-- The same without the silence. -/
def silenceLeftOut : List Move :=
  [.check (memberCheck 0 3), .check (memberCheck 2 5), .check (absentCheck 4)]

/-- Both ways one change of membership and one growth by two timeouts is told. -/
theorem silence_changes_nothing :
    let rules := Rules.ofSettings 1 {}
    let left := rules.edges "v" Observation.inActiveSet .activeSet none
    let missed := rules.edges "v" State.timeouts? .consensusTimeout none
    left silenceLeftOut = left silenceBetween ∧ missed silenceLeftOut = missed silenceBetween ∧
      (left silenceBetween).map (fun x => x.2.map (·.summary)) = [[], [], ["v left the active set"]] ∧
      (missed silenceBetween).map (fun x => x.2.map (·.summary)) =
        [[], ["v missed 2 consensus round(s), 5 timeouts in total"]] := by
  intro rules left missed
  obtain ⟨hleft, hmissed⟩ :=
    (told_changes_between_known_values (.ofSettings 1 {}) "v" silenceBetween).2.2 silenceLeftOut
  refine ⟨hleft rfl, hmissed rfl, ?_, ?_⟩
  · decide +kernel
  · decide +kernel

end ValidatorWatch
