import ValidatorWatch.Proofs.Monitor.Agreement
/-!
# The parts of a run

A tick and a round of reports go through the validators one after another, and
between two of them there may be a request, a check that was asked for, a
report or a shutdown. `Part` has the pieces that are not divided any further,
so runs of parts in any order go through every moment of a monitor, those
inside a tick too. `run_parts` divides the operations into their parts.

`Mirrors` holds at all these moments: the monitor tracks the validators that
are enabled, and what it shows of their health is what it holds of it.
-/

namespace ValidatorWatch

open Time (Instant)

/-- A part of what a monitor goes through. -/
inductive Part where
  | check (c : CheckConditions) (name : String) (v : ValidatorEntry)
  | networks (c : TickConditions)
  | endTick (now : Instant)
  | report (c : ReportConditions) (name : String)
  | prune (now : Instant)
  | signal (shutdown : Bool)
  | restart (now : Instant) (d : Dispatcher) (h : HistoryAccess)

/-- What a part leaves behind. Only a check has an outcome. -/
structure PartResult where
  monitor : Monitor
  outcome : Option CheckOutcome := none
  attempts : List Attempt := []

theorem Settings.mem_enabledValidators_iff {s : Settings} {name : String} {v : ValidatorEntry} :
    (name, v) ∈ s.enabledValidators ↔ s.validators.get? name = some v ∧ v.enabled = true := by
  rw [enabledValidators, List.mem_filter]
  exact and_congr_left' NameMap.get?_eq_some_iff.symm

namespace Monitor

/-- Goes through a part. -/
def part (m : Monitor) : Part → PartResult
  | .check c name v =>
    let r := m.check c name v
    { monitor := r.monitor, outcome := some r.outcome, attempts := r.attempts }
  | .networks c => { monitor := m.showNetworks c }
  | .endTick now => { monitor := m.endTick now }
  | .report c name =>
    let r := report c { monitor := m } name
    { monitor := r.monitor, attempts := r.attempts }
  | .prune now => { monitor := (m.pruneHistory now).2 }
  | .signal shutdown => { monitor := { m with shutdown := shutdown } }
  | .restart now d h => { monitor := { start m.settings d m.store h now with shutdown := m.shutdown } }

/-- The monitor after some parts. -/
def run (m : Monitor) (parts : List Part) : Monitor :=
  parts.foldl (fun m p => (m.part p).monitor) m

/-- A monitor that was started and has gone through some parts. -/
def Reachable (m : Monitor) : Prop :=
  ∃ settings d store history started parts, m = (start settings d store history started).run parts

/-- The parts of an operation. -/
def parts (m : Monitor) : Operation → List Part
  | .tick c => (m.checkOrder c).map (fun e => .check (c.check e.1) e.1 e.2) ++ [.networks c, .endTick c.now]
  | .check c name v => [.check c name v]
  | .reports c => m.settings.enabledValidators.map fun e => .report c e.1
  | .restart now d h => [.restart now d h, .signal false]

variable {m : Monitor} {name : String} {parts : List Part}

theorem run_append (m : Monitor) (parts more : List Part) : m.run (parts ++ more) = (m.run parts).run more :=
  List.foldl_append

theorem run_checks {c : TickConditions} (order : List (String × ValidatorEntry)) (r : TickResult) :
    r.monitor.run (order.map fun e => .check (c.check e.1) e.1 e.2) =
      (order.foldl (TickResult.addCheck c) r).monitor := by
  induction order generalizing r with
  | nil => rfl
  | cons e rest ih => exact ih (r.addCheck c e)

theorem run_reports {c : ReportConditions} (entries : List (String × ValidatorEntry)) (r : ReportsResult) :
    r.monitor.run (entries.map fun e => .report c e.1) =
      ((entries.map Prod.fst).foldl (Monitor.report c) r).monitor := by
  induction entries generalizing r with
  | nil => rfl
  | cons e rest ih =>
    rw [List.map_cons, List.map_cons, List.foldl_cons, ← ih, ← monitor_report]
    rfl

/-- An operation is the run of its parts. -/
theorem run_parts (m : Monitor) (op : Operation) : m.run (m.parts op) = m.operate op := by
  cases op with
  | tick c =>
    rw [Monitor.parts, run_append, run_checks (m.checkOrder c) { monitor := m }]
    rfl
  | check c name v => rfl
  | reports c => exact run_reports m.settings.enabledValidators { monitor := m }
  | restart now d h => rfl

theorem settings_part (m : Monitor) (p : Part) : (m.part p).monitor.settings = m.settings := by
  cases p with
  | check c name v =>
    rcases check_of m c name v with ⟨x, -, -, -, -, ht, -⟩ | ⟨-, hr⟩
    · exact ht.settings
    · exact congrArg (·.monitor.settings) hr
  | report c name =>
    rcases report_of c { monitor := m } name with ⟨x, -, -, -, -, ht, -⟩ | ⟨-, hr⟩
    · exact ht.settings
    · exact congrArg (·.monitor.settings) hr
  | prune now => rw [part, pruneHistory]; split <;> rfl
  | networks | endTick | signal | restart => rfl

theorem settings_run (m : Monitor) (parts : List Part) : (m.run parts).settings = m.settings := by
  induction parts generalizing m with
  | nil => rfl
  | cons p rest ih => exact (ih _).trans (settings_part m p)

/-- Operations one after another are the run of their parts. -/
theorem run_operations (m : Monitor) (ops : List Operation) : m.run (ops.flatMap m.parts) = ops.foldl operate m := by
  induction ops generalizing m with
  | nil => rfl
  | cons op rest ih =>
    have hparts : (m.operate op).parts = m.parts := by
      funext op'
      rw [← run_parts]
      cases op' <;> simp only [parts, checkOrder, settings_run]
    rw [List.flatMap_cons, run_append, run_parts, ← hparts, ih, List.foldl_cons]

theorem Reachable.run (h : m.Reachable) (parts : List Part) : (m.run parts).Reachable := by
  obtain ⟨settings, d, store, history, started, before, rfl⟩ := h
  exact ⟨settings, d, store, history, started, before ++ parts, (run_append _ before parts).symm⟩

/-! ## The health that is shown -/

/-- The validator was checked and is active. -/
def isActive (m : Monitor) (name : String) : Bool :=
  (m.state? name).any (·.verdict.isHealthy)

theorem isActive_iff : m.isActive name = true ↔ ∃ s, m.state? name = some s ∧ s.verdict = .active := by
  simp [isActive, Option.any_eq_true, Verdict.isHealthy]

/-- The enabled validators are tracked, and the snapshot shows for every
validator whether it is enabled and active. -/
structure Mirrors (m : Monitor) : Prop where
  tracked : ∀ name, (m.states.get? name).isSome = m.settings.tracks name
  shown : ∀ name, (m.snapshot.validators.get? name).map (fun e => (e.enabled, e.healthy)) =
    (m.settings.validators.get? name).map fun v => (v.enabled, m.isActive name)

theorem isActive_insert {m' : Monitor} {s : State} (hstates : m'.states = m.states.insert name (some s))
    (other : String) :
    m'.isActive other = if name = other then s.verdict.isHealthy else m.isActive other := by
  rw [isActive, state?, hstates, NameMap.get?_insert, isActive, state?]
  split <;> rfl

theorem health_view (v : ValidatorEntry) (state : Option State) :
    ((v.view state).enabled, (v.view state).healthy) =
      (v.enabled, v.enabled && state.any (·.verdict.isHealthy)) := by
  rw [ValidatorEntry.view.eq_def]
  cases v.enabled with
  | false => rfl
  | true => cases state <;> rfl

theorem mirrors_start (settings : Settings) (d : Dispatcher) (store : StateStore) (history : HistoryAccess)
    (now : Instant) : (start settings d store history now).Mirrors where
  tracked := (sound_start settings d store history now).tracked
  shown name := by
    have hshown : (start settings d store history now).snapshot.validators.get? name =
        (settings.validators.get? name).map fun v => v.view (if v.enabled then store.restore name else none) :=
      NameMap.get?_map ..
    have hsettings : (start settings d store history now).settings = settings := rfl
    rw [hshown, hsettings, isActive, state?_start, Settings.tracks_eq, Option.map_map]
    cases settings.validators.get? name with
    | none => rfl
    | some v =>
      refine congrArg some ((health_view v _).trans ?_)
      rw [Option.any_some]
      cases hon : v.enabled <;> simp [hon]

/-- A new state of a validator that is tracked, shown as it is. -/
theorem Mirrors.insert {m' : Monitor} {s : State} (h : m.Mirrors) (htracked : (m.states.get? name).isSome = true)
    (hsettings : m'.settings = m.settings) (hstates : m'.states = m.states.insert name (some s))
    (hown : (m'.snapshot.validators.get? name).map (fun e => (e.enabled, e.healthy)) =
      some (true, s.verdict.isHealthy))
    (hothers : ∀ other, name ≠ other → m'.snapshot.validators.get? other = m.snapshot.validators.get? other) :
    m'.Mirrors where
  tracked other := by
    rw [hsettings, hstates, NameMap.get?_insert, ← h.tracked]
    split
    next hname => rw [← hname, htracked]; rfl
    next => rfl
  shown other := by
    rw [hsettings, isActive_insert hstates]
    by_cases hname : name = other
    · subst hname
      rw [h.tracked, Settings.tracks_eq, Option.any_eq_true] at htracked
      obtain ⟨v, hv, henabled⟩ := htracked
      rw [hown, if_pos rfl, hv, Option.map_some, henabled]
    · rw [hothers other hname, if_neg hname, h.shown]

theorem Mirrors.check (h : m.Mirrors) (c : CheckConditions) (name : String) (v : ValidatorEntry) :
    (m.check c name v).monitor.Mirrors := by
  rcases check_of m c name v with ⟨x, hx, -, -, htracked, ht, -⟩ | ⟨-, hr⟩
  · have hkept := monitor_check v hx
    refine h.insert htracked ht.settings ht.states ?_ fun other hne => ?_ <;> rw [hkept]
    · exact congrArg (Option.map _) (NameMap.get?_insert_self ..)
    · exact NameMap.get?_insert_of_ne _ _ hne
  · rw [hr]
    exact ⟨h.tracked, h.shown⟩

theorem Mirrors.report {r : ReportsResult} (h : r.monitor.Mirrors) (c : ReportConditions) (name : String) :
    (Monitor.report c r name).monitor.Mirrors := by
  rcases report_of c r name with ⟨x, hx, -, -, htracked, ht, -⟩ | ⟨-, hr⟩
  · obtain ⟨s, hs, hxs⟩ := Option.map_eq_some_iff.1 hx
    have hsnapshot := snapshot_report (c := c) hs
    refine h.insert htracked ht.settings ht.states ?_ fun other _ => by rw [hsnapshot]
    have hverdict : x.telling.state.verdict = s.verdict := by rw [← hxs]; rfl
    have hactive : r.monitor.isActive name = s.verdict.isHealthy := by rw [isActive, hs]; rfl
    rw [h.tracked, Settings.tracks_eq, Option.any_eq_true] at htracked
    obtain ⟨v, hv, henabled⟩ := htracked
    rw [hsnapshot, h.shown, hv, Option.map_some, henabled, hactive, hverdict]
  · rw [hr]
    exact h

theorem Mirrors.part (h : m.Mirrors) (p : Part) : (m.part p).monitor.Mirrors := by
  cases p with
  | check c name v => exact h.check c name v
  | networks c =>
    refine ⟨h.tracked, fun name => ?_⟩
    rw [Monitor.part, validators_showNetworks]
    exact h.shown name
  | endTick now => exact ⟨h.tracked, h.shown⟩
  | report c name => exact Mirrors.report (r := { monitor := m }) h c name
  | prune now =>
    rw [Monitor.part, pruneHistory]
    split <;> exact ⟨h.tracked, h.shown⟩
  | signal shutdown => exact ⟨h.tracked, h.shown⟩
  | restart now d history =>
    have hstart := mirrors_start m.settings d m.store history now
    exact ⟨hstart.tracked, hstart.shown⟩

theorem Mirrors.run (h : m.Mirrors) (parts : List Part) : (m.run parts).Mirrors := by
  induction parts generalizing m with
  | nil => exact h
  | cons p rest ih => exact ih (h.part p)

theorem Reachable.mirrors (h : m.Reachable) : m.Mirrors := by
  obtain ⟨settings, d, store, history, started, parts, rfl⟩ := h
  exact (mirrors_start settings d store history started).run parts

theorem Mirrors.of_entry {entry : ValidatorSnapshot} (h : m.Mirrors)
    (hentry : m.snapshot.validators.get? name = some entry) :
    ∃ v, m.settings.validators.get? name = some v ∧ entry.enabled = v.enabled ∧ entry.healthy = m.isActive name := by
  have hshown := (h.shown name).symm
  rw [hentry, Option.map_some, Option.map_eq_some_iff] at hshown
  obtain ⟨v, hv, hsame⟩ := hshown
  obtain ⟨henabled, hhealthy⟩ := Prod.mk.inj hsame
  exact ⟨v, hv, henabled.symm, hhealthy.symm⟩

theorem Mirrors.entry_of (h : m.Mirrors) {v : ValidatorEntry} (hv : m.settings.validators.get? name = some v) :
    ∃ entry, m.snapshot.validators.get? name = some entry ∧ entry.enabled = v.enabled ∧
      entry.healthy = m.isActive name := by
  have hshown := h.shown name
  rw [hv, Option.map_some, Option.map_eq_some_iff] at hshown
  obtain ⟨entry, hentry, hsame⟩ := hshown
  obtain ⟨henabled, hhealthy⟩ := Prod.mk.inj hsame
  exact ⟨entry, hentry, henabled, hhealthy⟩

/-- All is shown to be well if every enabled validator is active. -/
theorem Mirrors.allHealthy_iff (h : m.Mirrors) : m.snapshot.allHealthy = true ↔
    ∀ e ∈ m.settings.enabledValidators, m.isActive e.1 = true := by
  rw [Snapshot.allHealthy, List.all_eq_true]
  constructor
  · rintro hall ⟨name, v⟩ he
    obtain ⟨hv, hon⟩ := Settings.mem_enabledValidators_iff.1 he
    obtain ⟨entry, hentry, henabled, hhealthy⟩ := h.entry_of hv
    have hok := hall entry (NameMap.mem_values_iff.2 ⟨name, hentry⟩)
    rwa [henabled, hon, Bool.not_true, Bool.false_or, hhealthy] at hok
  · intro hall entry hentry
    obtain ⟨name, hname⟩ := NameMap.mem_values_iff.1 hentry
    obtain ⟨v, hv, henabled, hhealthy⟩ := h.of_entry hname
    rw [henabled, hhealthy]
    cases hon : v.enabled with
    | false => rfl
    | true => exact hall (name, v) (Settings.mem_enabledValidators_iff.2 ⟨hv, hon⟩)

theorem status_endTick_iff (h : m.Mirrors) (now : Instant) : (m.endTick now).snapshot.status = "healthy" ↔
    ∀ e ∈ m.settings.enabledValidators, m.isActive e.1 = true := by
  rw [← h.allHealthy_iff, endTick]
  cases m.snapshot.allHealthy <;> simp

end Monitor

end ValidatorWatch
