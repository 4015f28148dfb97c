import ValidatorWatch.Proofs.Dispatch.Buckets
import ValidatorWatch.Proofs.Monitor.Watch
import ValidatorWatch.Proofs.Store.Saves
/-!
# Errands

Whatever a tick or a round of reports does, it does for one validator after
another, and for each of them it is the same: some events are told on the
ledger of a state, and that state is saved. `Errand` is one such piece of work,
and `Monitor.errands` lists those of a tick or a round.

`Monitor.check_of` and `Monitor.report_of` say all that a check and a report
do: an errand, or nothing but a note that the monitor is to shut down.
-/

namespace ValidatorWatch

open Time (Instant)

/-- Events to be told of a validator, and the state that is kept then. -/
structure Errand where
  validator : String
  watch : Watch
  now : Instant
  trouble : Option SaveTrouble
  events : List AlertEvent
  state : State

namespace Errand

/-- What comes of it. -/
def telling (x : Errand) : Telling :=
  x.watch.tell x.now x.events x.state

/-- The save at its end. -/
def save (x : Errand) : StateStore.Save :=
  ⟨x.trouble, x.now, x.validator, x.telling.state⟩

/-- What becomes of its events. -/
def journal (x : Errand) : List Entry :=
  x.watch.dispatcher.journal ⟨x.now, x.events⟩ x.state.ledger

/-- No bucket keeps one of its events from a channel. -/
def Unhindered (x : Errand) : Prop :=
  ∀ e ∈ x.journal, e.starved = false

instance (x : Errand) : Decidable x.Unhindered :=
  inferInstanceAs (Decidable (∀ e ∈ x.journal, e.starved = false))

/-- The errand with channels without buckets. -/
def unlimited (x : Errand) : Errand :=
  { x with watch := { x.watch with dispatcher := x.watch.dispatcher.unlimited } }

/-- An errand that no bucket hinders comes to the same without buckets. -/
theorem telling_unlimited {x : Errand} (h : x.Unhindered) :
    x.unlimited.telling =
      { x.telling with sent := { x.telling.sent with dispatcher := x.telling.sent.dispatcher.unlimited } } := by
  have hsent := Dispatcher.dispatch_unlimited h
  simp only [telling, unlimited, Watch.tell, hsent]

/-- The messages that errands attempt. -/
def attempts (xs : List Errand) : List Attempt :=
  xs.flatMap fun x => x.telling.sent.attempts

theorem attempts_append {xs ys : List Errand} : attempts (xs ++ ys) = attempts xs ++ attempts ys :=
  List.flatMap_append

theorem attempts_unlimited {xs : List Errand} (h : ∀ x ∈ xs, x.Unhindered) :
    attempts (xs.map unlimited) = attempts xs := by
  induction xs with
  | nil => rfl
  | cons x rest ih =>
    have hrest := ih fun y hy => h y (List.mem_cons_of_mem _ hy)
    rw [attempts, attempts] at *
    rw [List.map_cons, List.flatMap_cons, List.flatMap_cons, telling_unlimited (h x List.mem_cons_self), hrest]

end Errand

/-- What a probe finds, if it comes to an end in the time there is or not at all. -/
def ProbeOutcome.bundle? (seconds : Nat) (now : Instant) : ProbeOutcome → Option Bundle
  | .answered b => some b
  | .silent => some (.timedOut seconds now)
  | .panicked | .shutdown => none

namespace Monitor

/-! ## One validator -/

/-- The errand of a check, unless the check is given up. -/
def checkErrand? (m : Monitor) (c : CheckConditions) (name : String) : Option Errand :=
  match m.states.get? name, m.shutdown, c.probe.bundle? m.settings.probeTimeoutSeconds c.now with
  | some previous, false, some b =>
    let w : Watch := ⟨m.dispatcher, previous⟩
    let t := m.settings.rules.evaluate name previous (w.observation b)
    some ⟨name, w, c.now, c.saveTrouble, t.events, t.state⟩
  | _, _, _ => none

/-- How a check ends that is given up. -/
def givenUp (m : Monitor) (c : CheckConditions) (name : String) : CheckOutcome :=
  match m.states.get? name, m.shutdown, c.probe with
  | none, _, _ => .untracked
  | some _, false, .panicked => .panicked
  | some _, _, _ => .cancelled

/-- The errand of a report, if the validator was checked. -/
def reportErrand? (m : Monitor) (c : ReportConditions) (name : String) : Option Errand :=
  (m.state? name).map fun s =>
    let (event, next) := s.extendedReport name c.now
    ⟨name, ⟨m.dispatcher, some s⟩, c.now, c.saveTrouble name, [event], next⟩

variable {m : Monitor} {name : String}

/-- All that a check does. -/
theorem check_of (m : Monitor) (c : CheckConditions) (name : String) (v : ValidatorEntry) :
    -- Concluded.
    (∃ x, m.checkErrand? c name = some x ∧ x.validator = name ∧ x.now = c.now ∧
      (m.states.get? name).isSome = true ∧
      m.Takes x.trouble x.now name x.telling (m.check c name v).monitor ∧
      (m.check c name v).attempts = x.telling.sent.attempts ∧
      (m.check c name v).outcome =
        .completed x.telling.state.verdict x.events.length x.telling.sent.report.delivered.length) ∨
    -- Given up.
    m.checkErrand? c name = none ∧ m.check c name v =
      { monitor := { m with shutdown := m.shutdown || (m.states.get? name).isSome && c.probe.isShutdown }
        outcome := m.givenUp c name } := by
  unfold check checkErrand? givenUp
  cases m.states.get? name with
  | none => exact .inr ⟨rfl, by simp⟩
  | some previous =>
    cases hs : m.shutdown with
    | true =>
      have hsame : { m with shutdown := true } = m := by rw [← hs]
      exact .inr ⟨rfl, by simp only [Bool.true_or, hsame, if_true]⟩
    | false =>
      cases hp : c.probe with
      | answered b => exact .inl ⟨_, rfl, rfl, rfl, rfl, conclude_takes c v previous b⟩
      | silent => exact .inl ⟨_, rfl, rfl, rfl, rfl, conclude_takes c v previous _⟩
      | panicked => exact .inr ⟨rfl, by simp [← hs, ProbeOutcome.isShutdown]⟩
      | shutdown => exact .inr ⟨rfl, by simp [ProbeOutcome.isShutdown]⟩

/-- A check that is concluded keeps its state and leaves the channels as its
errand does. -/
theorem monitor_check {c : CheckConditions} {x : Errand} (v : ValidatorEntry) (hx : m.checkErrand? c name = some x) :
    (m.check c name v).monitor =
      ({ m with dispatcher := x.telling.sent.dispatcher } : Monitor).keep c name v x.telling.state := by
  unfold checkErrand? at hx
  split at hx
  next previous b hget hrunning hbundle =>
    obtain rfl := Option.some.inj hx
    rw [check, hget]
    dsimp only
    rw [if_neg (by rw [hrunning]; exact Bool.false_ne_true)]
    cases hp : c.probe with
    | answered b' =>
      rw [hp] at hbundle
      obtain rfl := Option.some.inj hbundle
      exact monitor_conclude m c name v previous b'
    | silent =>
      rw [hp] at hbundle
      obtain rfl := Option.some.inj hbundle
      exact monitor_conclude m c name v previous _
    | panicked | shutdown => rw [hp] at hbundle; cases hbundle
  next => cases hx

/-- All that a report does. -/
theorem report_of (c : ReportConditions) (r : ReportsResult) (name : String) :
    (∃ x, r.monitor.reportErrand? c name = some x ∧ x.validator = name ∧ x.now = c.now ∧
      (r.monitor.states.get? name).isSome = true ∧
      r.monitor.Takes x.trouble x.now name x.telling (report c r name).monitor ∧
      (report c r name).attempts = r.attempts ++ x.telling.sent.attempts ∧
      (report c r name).delivered = r.delivered + x.telling.sent.report.delivered.length) ∨
    r.monitor.reportErrand? c name = none ∧ report c r name = r := by
  unfold reportErrand?
  cases hs : r.monitor.state? name with
  | none => exact .inr ⟨rfl, by rw [report, hs]⟩
  | some s =>
    have htracked : (r.monitor.states.get? name).isSome = true := by
      rw [state?] at hs
      cases hget : r.monitor.states.get? name with
      | none => rw [hget] at hs; cases hs
      | some _ => rfl
    exact .inl ⟨_, rfl, rfl, rfl, htracked, report_takes hs⟩

/-! ## Ticks and rounds of reports -/

/-- The errands of some checks. -/
def checkErrands (m : Monitor) (c : TickConditions) : List (String × ValidatorEntry) → List Errand
  | [] => []
  | e :: rest =>
    (m.checkErrand? (c.check e.1) e.1).toList ++ checkErrands (m.check (c.check e.1) e.1 e.2).monitor c rest

/-- The errands of some reports. -/
def reportErrands (m : Monitor) (c : ReportConditions) : List String → List Errand
  | [] => []
  | name :: rest =>
    (m.reportErrand? c name).toList ++ reportErrands (report c { monitor := m } name).monitor c rest

theorem attempts_foldl_addCheck {c : TickConditions} (order : List (String × ValidatorEntry)) (r : TickResult) :
    (order.foldl (TickResult.addCheck c) r).attempts =
      r.attempts ++ Errand.attempts (r.monitor.checkErrands c order) := by
  induction order generalizing r with
  | nil => exact (List.append_nil _).symm
  | cons e rest ih =>
    have hattempts : (r.addCheck c e).attempts = r.attempts ++
        Errand.attempts (r.monitor.checkErrand? (c.check e.1) e.1).toList := by
      rw [TickResult.addCheck]
      rcases check_of r.monitor (c.check e.1) e.1 e.2 with ⟨x, hx, -, -, -, -, ha, -⟩ | ⟨hx, hr⟩
      · rw [ha, hx, Errand.attempts, Option.toList_some, List.flatMap_singleton]
      · rw [hr, hx]
        rfl
    rw [List.foldl_cons, ih, hattempts, checkErrands, Errand.attempts_append, List.append_assoc]
    rfl

/-- What a tick attempts to tell is what its errands do. -/
theorem attempts_tick (m : Monitor) (c : TickConditions) :
    (m.tick c).attempts = Errand.attempts (m.checkErrands c (m.checkOrder c)) :=
  attempts_foldl_addCheck (m.checkOrder c) { monitor := m }

/-- The errand of a check is saved. -/
theorem store_check (m : Monitor) (c : CheckConditions) (name : String) (v : ValidatorEntry) :
    (m.check c name v).monitor.store = m.store.saveAll ((m.checkErrand? c name).toList.map Errand.save) := by
  rcases check_of m c name v with ⟨x, hx, hv, -, -, ht, -, -⟩ | ⟨hx, hr⟩
  · rw [hx, ht.store, ← hv]
    rfl
  · rw [hr, hx]
    rfl

/-- The errands of checks are saved one after another. -/
theorem store_foldl_addCheck {c : TickConditions} (order : List (String × ValidatorEntry)) (r : TickResult) :
    (order.foldl (TickResult.addCheck c) r).monitor.store =
      r.monitor.store.saveAll ((r.monitor.checkErrands c order).map Errand.save) := by
  induction order generalizing r with
  | nil => rfl
  | cons e rest ih =>
    have hstore : (r.addCheck c e).monitor.store = _ := store_check r.monitor (c.check e.1) e.1 e.2
    rw [List.foldl_cons, ih, hstore, checkErrands, List.map_append, StateStore.saveAll_append]
    rfl

/-- What was reported before does not matter. -/
theorem monitor_report {c : ReportConditions} {r : ReportsResult} :
    (report c { monitor := r.monitor } name).monitor = (report c r name).monitor := by
  unfold report
  cases r.monitor.state? name <;> rfl

theorem store_report (c : ReportConditions) (r : ReportsResult) (name : String) :
    (report c r name).monitor.store =
      r.monitor.store.saveAll ((r.monitor.reportErrand? c name).toList.map Errand.save) := by
  rcases report_of c r name with ⟨x, hx, hv, -, -, ht, -, -⟩ | ⟨hx, hr⟩
  · rw [hx, ht.store, ← hv]
    rfl
  · rw [hr, hx]
    rfl

/-- The errands of reports are saved one after another. -/
theorem store_foldl_report {c : ReportConditions} (names : List String) (r : ReportsResult) :
    (names.foldl (report c) r).monitor.store =
      r.monitor.store.saveAll ((r.monitor.reportErrands c names).map Errand.save) := by
  induction names generalizing r with
  | nil => rfl
  | cons name rest ih =>
    rw [List.foldl_cons, ih, store_report, reportErrands, monitor_report, List.map_append, StateStore.saveAll_append]

theorem attempts_foldl_report {c : ReportConditions} (names : List String) (r : ReportsResult) :
    (names.foldl (report c) r).attempts =
      r.attempts ++ Errand.attempts (r.monitor.reportErrands c names) := by
  induction names generalizing r with
  | nil => exact (List.append_nil _).symm
  | cons name rest ih =>
    have hattempts : (report c r name).attempts = r.attempts ++
        Errand.attempts (r.monitor.reportErrand? c name).toList := by
      rcases report_of c r name with ⟨x, hx, -, -, -, -, ha, -⟩ | ⟨hx, hr⟩
      · rw [ha, hx, Errand.attempts, Option.toList_some, List.flatMap_singleton]
      · rw [hr, hx]
        exact (List.append_nil _).symm
    rw [List.foldl_cons, ih, hattempts, reportErrands, monitor_report, Errand.attempts_append, List.append_assoc]

/-- What a round of reports attempts to tell is what its errands do. -/
theorem attempts_sendReports (m : Monitor) (c : ReportConditions) : (m.sendReports c).attempts =
    Errand.attempts (m.reportErrands c (m.settings.enabledValidators.map Prod.fst)) :=
  attempts_foldl_report _ { monitor := m }

/-! ## Whether all states are on disk -/

/-- The snapshot says whether the last save of every validator succeeded. -/
def Flags (m : Monitor) : Prop :=
  m.snapshot.persistenceOk = m.unsaved.isEmpty

variable {c : CheckConditions} {x : Errand}

theorem flags_check (v : ValidatorEntry) (hx : m.checkErrand? c name = some x) :
    (m.check c name v).monitor.Flags := by
  rw [monitor_check v hx]
  rfl

theorem snapshot_check (v : ValidatorEntry) (hx : m.checkErrand? c name = none) :
    (m.check c name v).monitor.snapshot = m.snapshot ∧ (m.check c name v).monitor.unsaved = m.unsaved := by
  rcases check_of m c name v with ⟨x, hx', -⟩ | ⟨-, hr⟩
  · rw [hx] at hx'
    cases hx'
  · rw [hr]
    exact ⟨rfl, rfl⟩

theorem Flags.check (h : m.Flags) (v : ValidatorEntry) : (m.check c name v).monitor.Flags := by
  cases hx : m.checkErrand? c name with
  | some x => exact flags_check v hx
  | none =>
    obtain ⟨hsnapshot, hunsaved⟩ := snapshot_check v hx
    rw [Flags, hsnapshot, hunsaved]
    exact h

theorem Flags.checkAll {c : TickConditions} {r : TickResult} (h : r.monitor.Flags)
    (order : List (String × ValidatorEntry)) : (order.foldl (TickResult.addCheck c) r).monitor.Flags := by
  refine List.foldlRecOn order _ (motive := fun r : TickResult => r.monitor.Flags) h ?_
  intro r hr e _
  exact hr.check e.2

theorem flags_checkAll {c : TickConditions} {order : List (String × ValidatorEntry)} {r : TickResult}
    (h : r.monitor.checkErrands c order ≠ []) : (order.foldl (TickResult.addCheck c) r).monitor.Flags := by
  induction order generalizing r with
  | nil => exact absurd rfl h
  | cons e rest ih =>
    cases hx : r.monitor.checkErrand? (c.check e.1) e.1 with
    | some x => exact Flags.checkAll (r := r.addCheck c e) (flags_check e.2 hx) rest
    | none =>
      rw [checkErrands, hx] at h
      exact ih (r := r.addCheck c e) h

/-! ## Around the checks of a tick -/

theorem checkOrder_perm (m : Monitor) (c : TickConditions) :
    (m.checkOrder c).Perm m.settings.enabledValidators := by
  have hsplit := List.filter_append_perm (fun e => !(c.probe e.1).isSilent) m.settings.enabledValidators
  simp only [Bool.not_not] at hsplit
  exact hsplit

/-- Of the snapshot only the figures of the networks change. -/
theorem snapshot_showNetworks (m : Monitor) (c : TickConditions) : (m.showNetworks c).snapshot =
    { m.snapshot with networkHealth := (m.showNetworks c).snapshot.networkHealth } := by
  refine List.foldlRecOn _ _
    (motive := fun s : Snapshot => s = { m.snapshot with networkHealth := s.networkHealth }) rfl ?_
  intro s hs n _
  unfold showNetwork
  split
  · rw [hs]
  · exact hs

theorem validators_showNetworks (m : Monitor) (c : TickConditions) :
    (m.showNetworks c).snapshot.validators = m.snapshot.validators := by
  rw [snapshot_showNetworks]

end Monitor

end ValidatorWatch
