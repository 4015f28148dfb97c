import ValidatorWatch.Proofs.Monitor.Parts
/-!
# Checks that are given up, and shutdowns

A check is concluded or given up: its validator is not tracked, its probe
panics, or there is a shutdown before the probe ends. A check that is given up
leaves no trace but the signal to shut down, so a tick comes to what its
concluded checks come to (`Pared`). Once the monitor is to shut down, every
check is given up and the check loop begins no further tick.
-/

namespace ValidatorWatch

open Time (Instant)

/-- Whether a check was concluded. -/
def CheckOutcome.isCompleted : CheckOutcome → Bool
  | .completed .. => true
  | _ => false

/-- Whether a part takes back the signal to shut down. -/
def Part.withdraws : Part → Bool
  | .signal shutdown => !shutdown
  | _ => false

/-- A tick of the check loop that is due, or what happens while the loop waits. -/
inductive Wake where
  | due (c : TickConditions)
  | meanwhile (p : Part)

/-- Whether the signal to shut down is taken back. -/
def Wake.withdraws : Wake → Bool
  | .due _ => false
  | .meanwhile p => p.withdraws

namespace Monitor

/-- The check loop with what happens while it waits. A signal to shut down ends
it there. -/
def loop (m : Monitor) : List Wake → LoopResult
  | [] => { monitor := m }
  | .due c :: rest =>
    if m.shutdown then { monitor := m }
    else
      let r := m.tick c
      let more := loop r.monitor rest
      { monitor := more.monitor, ticks := r :: more.ticks }
  | .meanwhile p :: rest =>
    let m := (m.part p).monitor
    if m.shutdown then { monitor := m } else loop m rest

/-- The checks of some that are concluded. -/
def concluded (m : Monitor) (c : TickConditions) : List (String × ValidatorEntry) → List (String × ValidatorEntry)
  | [] => []
  | e :: rest =>
    let r := m.check (c.check e.1) e.1 e.2
    let more := concluded r.monitor c rest
    if r.outcome.isCompleted then e :: more else more

/-- If nothing happens while the loop waits, it is the loop over the ticks. -/
theorem loop_due (m : Monitor) (cs : List TickConditions) : m.loop (cs.map .due) = m.runLoop cs := by
  induction cs generalizing m with
  | nil => rfl
  | cons c rest ih =>
    rw [List.map_cons, loop, runLoop]
    dsimp only
    rw [ih]

variable {m : Monitor} {c : CheckConditions} {name : String} {v : ValidatorEntry}

/-! ## Checks that are given up -/

/-- A check that is given up attempts to tell nothing, and of the monitor it
changes nothing but whether it is to shut down. -/
theorem check_of_given_up (h : (m.check c name v).outcome.isCompleted = false) :
    (m.check c name v).monitor = { m with shutdown := (m.check c name v).monitor.shutdown } ∧
      (m.check c name v).attempts = [] := by
  rcases check_of m c name v with ⟨x, -, -, -, -, -, -, ho⟩ | ⟨-, hr⟩
  · rw [ho] at h
    cases h
  · rw [hr]
    exact ⟨rfl, rfl⟩

theorem isSome_checkErrand?_iff : (m.checkErrand? c name).isSome = true ↔
    (m.states.get? name).isSome = true ∧ m.shutdown = false ∧
      (c.probe.bundle? m.settings.probeTimeoutSeconds c.now).isSome = true := by
  unfold checkErrand?
  cases m.states.get? name <;> cases m.shutdown <;>
    cases c.probe.bundle? m.settings.probeTimeoutSeconds c.now <;> simp

/-- A check is concluded if its validator is tracked, there is no shutdown and
the probe comes to an end or its time is up. -/
theorem isCompleted_iff : (m.check c name v).outcome.isCompleted = true ↔
    (m.states.get? name).isSome = true ∧ m.shutdown = false ∧
      (c.probe.bundle? m.settings.probeTimeoutSeconds c.now).isSome = true := by
  rw [← isSome_checkErrand?_iff]
  rcases check_of m c name v with ⟨x, hx, -, -, -, -, -, ho⟩ | ⟨hx, hr⟩
  · simp [hx, ho, CheckOutcome.isCompleted]
  · rw [hx, hr, givenUp]
    split <;> simp [CheckOutcome.isCompleted]

/-- A signal to shut down is not lost in a check. -/
theorem shutdown_check (h : m.shutdown = true) : (m.check c name v).monitor.shutdown = true := by
  rcases check_of m c name v with ⟨x, -, -, -, -, ht, -⟩ | ⟨-, hr⟩
  · rw [ht.shutdown, h]
  · rw [hr, h]
    rfl

theorem check_of_shutdown (h : m.shutdown = true) (htracked : (m.states.get? name).isSome = true) :
    m.check c name v = { monitor := m, outcome := .cancelled } := by
  obtain ⟨previous, hget⟩ := Option.isSome_iff_exists.1 htracked
  rw [check, hget]
  exact if_pos h

/-- The checks `q` are the checks `r` without those that were given up. -/
structure Pared (r q : TickResult) : Prop where
  monitor : r.monitor = { q.monitor with shutdown := r.monitor.shutdown }
  shutdown : q.monitor.shutdown = true → r.monitor.shutdown = true
  attempts : r.attempts = q.attempts
  outcomes : r.outcomes.filter (·.2.isCompleted) = q.outcomes

theorem Pared.addCheck {c : TickConditions} {r q : TickResult} {e : String × ValidatorEntry} (h : Pared r q)
    (hdone : (r.monitor.check (c.check e.1) e.1 e.2).outcome.isCompleted = true) :
    Pared (r.addCheck c e) (q.addCheck c e) := by
  -- A check is concluded only without a shutdown, so this far nothing was given up for one.
  have hrunning : r.monitor.shutdown = false := (isCompleted_iff.1 hdone).2.1
  have hsame : r.monitor = q.monitor := by
    have hq : q.monitor.shutdown = false := by
      by_contra hq
      rw [h.shutdown (by simpa using hq)] at hrunning
      cases hrunning
    rw [h.monitor, hrunning, ← hq]
  constructor
  case monitor => rw [TickResult.addCheck, TickResult.addCheck, hsame]
  case shutdown => rw [TickResult.addCheck, TickResult.addCheck, hsame]; exact id
  case attempts => simp only [TickResult.addCheck, hsame, h.attempts]
  case outcomes =>
    rw [hsame] at hdone
    simp only [TickResult.addCheck, hsame, List.filter_append, h.outcomes, List.filter_singleton, hdone, cond_true]

theorem Pared.giveUp {c : TickConditions} {r q : TickResult} {e : String × ValidatorEntry} (h : Pared r q)
    (hdone : (r.monitor.check (c.check e.1) e.1 e.2).outcome.isCompleted = false) : Pared (r.addCheck c e) q := by
  obtain ⟨hsame, hnone⟩ := check_of_given_up hdone
  constructor
  case monitor =>
    have hrest (b : Bool) : ({ r.monitor with shutdown := b } : Monitor) = { q.monitor with shutdown := b } := by
      rw [h.monitor]
    exact hsame.trans (hrest _)
  case shutdown => exact fun hq => shutdown_check (h.shutdown hq)
  case attempts => simp only [TickResult.addCheck, hnone, List.append_nil, h.attempts]
  case outcomes =>
    simp only [TickResult.addCheck, List.filter_append, h.outcomes, List.filter_singleton, hdone, cond_false,
      List.append_nil]

theorem Pared.checkAll {c : TickConditions} {r q : TickResult} (h : Pared r q)
    (order : List (String × ValidatorEntry)) :
    Pared (order.foldl (TickResult.addCheck c) r) ((r.monitor.concluded c order).foldl (TickResult.addCheck c) q) := by
  induction order generalizing r q with
  | nil => exact h
  | cons e rest ih =>
    rw [List.foldl_cons, concluded]
    split
    next hdone => exact ih (r := r.addCheck c e) (h.addCheck hdone)
    next hdone => exact ih (r := r.addCheck c e) (h.giveUp (Bool.eq_false_iff.2 hdone))

/-- A tick comes to what its concluded checks come to. -/
theorem pared_checkAll (m : Monitor) (c : TickConditions) (order : List (String × ValidatorEntry)) :
    Pared (m.checkAll c order) (m.checkAll c (m.concluded c order)) :=
  Pared.checkAll (r := { monitor := m }) (q := { monitor := m }) ⟨rfl, id, rfl, rfl⟩ order

/-! ## The counts of a tick -/

theorem outcomes_foldl_addCheck {c : TickConditions} (order : List (String × ValidatorEntry)) (r : TickResult) :
    (order.foldl (TickResult.addCheck c) r).outcomes.map Prod.fst =
      r.outcomes.map Prod.fst ++ order.map Prod.fst := by
  induction order generalizing r with
  | nil => exact (List.append_nil _).symm
  | cons e rest ih =>
    rw [List.foldl_cons, ih, TickResult.addCheck, List.map_append, List.append_assoc]
    rfl

/-- Every check is counted once. -/
theorem summary_total (r : TickResult) :
    r.summary.checked + r.summary.cancelled + r.summary.failed = r.outcomes.length := by
  have hcount (s : TickSummary) (os : List (String × CheckOutcome)) :
      let s' := os.foldl (fun s o => s.add o.2) s
      s'.checked + s'.cancelled + s'.failed = s.checked + s.cancelled + s.failed + os.length := by
    induction os generalizing s with
    | nil => rfl
    | cons o rest ih =>
      have hone : (s.add o.2).checked + (s.add o.2).cancelled + (s.add o.2).failed =
          s.checked + s.cancelled + s.failed + 1 := by
        rcases o with ⟨-, _ | _ | _ | _⟩ <;> simp only [TickSummary.add] <;> omega
      refine (ih (s.add o.2)).trans ?_
      rw [hone, List.length_cons]
      omega
  exact (hcount {} r.outcomes).trans (Nat.zero_add _)

theorem summary_tick (m : Monitor) (c : TickConditions) :
    (m.tick c).summary.checked + (m.tick c).summary.cancelled + (m.tick c).summary.failed =
      m.settings.enabledValidators.length := by
  have hnames := congrArg List.length (outcomes_foldl_addCheck (c := c) (m.checkOrder c) { monitor := m })
  rw [List.length_map, List.map_nil, List.nil_append, List.length_map, (checkOrder_perm m c).length_eq] at hnames
  rw [summary_total, ← hnames]
  rfl

/-! ## After the signal -/

theorem shutdown_part {p : Part} (h : m.shutdown = true) (hp : p.withdraws = false) :
    (m.part p).monitor.shutdown = true := by
  cases p with
  | check c name v => exact shutdown_check h
  | report c name =>
    rcases report_of c { monitor := m } name with ⟨x, -, -, -, -, ht, -⟩ | ⟨-, hr⟩
    · exact ht.shutdown.trans h
    · exact (congrArg (·.monitor.shutdown) hr).trans h
  | prune now => rw [part, pruneHistory]; split <;> exact h
  | signal shutdown =>
    cases shutdown with
    | true => rfl
    | false => cases hp
  | networks | endTick | restart => exact h

theorem shutdown_run {parts : List Part} (h : m.shutdown = true) (hparts : ∀ p ∈ parts, p.withdraws = false) :
    (m.run parts).shutdown = true := by
  induction parts generalizing m with
  | nil => exact h
  | cons p rest ih =>
    have hp := shutdown_part h (hparts p List.mem_cons_self)
    exact ih hp fun p' hp' => hparts p' (List.mem_cons_of_mem _ hp')

theorem ticks_of_shutdown {wakes : List Wake} (h : m.shutdown = true) (hwakes : ∀ w ∈ wakes, w.withdraws = false) :
    (m.loop wakes).ticks = [] := by
  cases wakes with
  | nil => rfl
  | cons w rest =>
    cases w with
    | due c => rw [loop, if_pos h]
    | meanwhile p =>
      have hp := shutdown_part h (hwakes (.meanwhile p) List.mem_cons_self)
      rw [loop]
      exact congrArg LoopResult.ticks (if_pos hp)

/-- Once the monitor is to shut down the loop begins no further tick. -/
theorem ticks_append {before after : List Wake} (h : (m.loop before).monitor.shutdown = true)
    (hafter : ∀ w ∈ after, w.withdraws = false) : (m.loop (before ++ after)).ticks = (m.loop before).ticks := by
  induction before generalizing m with
  | nil => exact ticks_of_shutdown h hafter
  | cons w rest ih =>
    cases w with
    | due c =>
      rw [loop] at h
      rw [List.cons_append, loop, loop]
      split
      next => rfl
      next hrunning =>
        rw [if_neg hrunning] at h
        exact congrArg (m.tick c :: ·) (ih h)
    | meanwhile p =>
      rw [loop] at h
      rw [List.cons_append, loop, loop]
      split
      next => rfl
      next hrunning =>
        rw [if_neg hrunning] at h
        exact ih h

/-! ## The status -/

/-- After a tick all is shown to be well if every enabled validator is active. -/
theorem status_tick_iff (h : m.Mirrors) (c : TickConditions) : (m.tick c).monitor.snapshot.status = "healthy" ↔
    ∀ e ∈ m.settings.enabledValidators, (m.tick c).monitor.isActive e.1 = true := by
  let checked := (m.checkOrder c).map fun e => Part.check (c.check e.1) e.1 e.2
  let shown := m.run (checked ++ [.networks c])
  have htick : (m.tick c).monitor = shown.endTick c.now := by
    refine (run_parts m (.tick c)).symm.trans ?_
    have hparts : m.parts (.tick c) = checked ++ [.networks c] ++ [.endTick c.now] := by
      rw [List.append_assoc]
      rfl
    rw [hparts, run_append]
    rfl
  rw [htick, status_endTick_iff (h.run _), settings_run]
  rfl

end Monitor

/-- At every moment of a monitor a check of a tracked validator is concluded
unless there is a shutdown or the probe panics, and a check that is not
concluded changes nothing and attempts to tell nothing. A tick comes to what
its concluded checks come to, counts every enabled validator once, and then all
is shown to be well exactly if every enabled validator is active. And as long
as the signal to shut down stands, every check of a tracked validator is
cancelled and the check loop begins no further tick. -/
theorem checks_all_or_nothing (m : Monitor) (hm : m.Reachable) :
    (∀ c name v, let r := m.check c name v
      (r.outcome.isCompleted = true ↔ m.settings.tracks name = true ∧ m.shutdown = false ∧
        (c.probe.bundle? m.settings.probeTimeoutSeconds c.now).isSome = true) ∧
      (r.outcome.isCompleted = false →
        r.monitor = { m with shutdown := r.monitor.shutdown } ∧ r.attempts = [])) ∧
    (∀ c, let r := m.tick c
      let done := m.checkAll c (m.concluded c (m.checkOrder c))
      r.monitor = { (done.monitor.showNetworks c).endTick c.now with shutdown := r.monitor.shutdown } ∧
      r.attempts = done.attempts ∧ r.outcomes.filter (·.2.isCompleted) = done.outcomes ∧
      r.summary.checked + r.summary.cancelled + r.summary.failed = m.settings.enabledValidators.length ∧
      (r.monitor.snapshot.status = "healthy" ↔
        ∀ e ∈ m.settings.enabledValidators, ∃ s, r.monitor.state? e.1 = some s ∧ s.verdict = .active)) ∧
    (m.shutdown = true → ∀ parts, (∀ p ∈ parts, p.withdraws = false) →
      ∀ c name v, m.settings.tracks name = true →
        (m.run parts).check c name v = { monitor := m.run parts, outcome := .cancelled }) ∧
    ∀ before after, (m.loop before).monitor.shutdown = true → (∀ w ∈ after, w.withdraws = false) →
      (m.loop (before ++ after)).ticks = (m.loop before).ticks := by
  refine ⟨fun c name v => ⟨?_, Monitor.check_of_given_up⟩, fun c => ?_, fun hdown parts hparts c name v hname => ?_,
    fun before after h hafter => Monitor.ticks_append h hafter⟩
  · rw [← hm.mirrors.tracked]
    exact Monitor.isCompleted_iff
  · intro r done
    have hpared := Monitor.pared_checkAll m c (m.checkOrder c)
    have hmonitor : r.monitor =
        { (done.monitor.showNetworks c).endTick c.now with shutdown := r.monitor.shutdown } := by
      show ((m.checkAll c (m.checkOrder c)).monitor.showNetworks c).endTick c.now = _
      rw [hpared.monitor]
      rfl
    refine ⟨hmonitor, hpared.attempts, hpared.outcomes, Monitor.summary_tick m c, ?_⟩
    simp only [← Monitor.isActive_iff]
    exact Monitor.status_tick_iff hm.mirrors c
  · refine Monitor.check_of_shutdown (Monitor.shutdown_run hdown hparts) ?_
    rw [(hm.run parts).mirrors.tracked, Monitor.settings_run]
    exact hname

/-- A tick on which no probe ends in time. -/
def unanswered : TickConditions where
  now := StateStore.epoch
  probe _ := .silent

/-- A check whose probe panics comes to nothing, and after a signal to shut
down a tick that is due is not begun. -/
theorem loop_ends_with_signal :
    let panic : CheckConditions := { now := StateStore.epoch, probe := .panicked }
    let before := [.due unanswered, .meanwhile (.signal true)]
    let counts := (unacquainted.tick unanswered).summary
    unacquainted.Reachable ∧ (unacquainted.check panic "v" default).attempts = [] ∧
      counts.checked + counts.cancelled + counts.failed = 1 ∧
      (unacquainted.loop (before ++ [.due unanswered])).ticks.length = 1 := by
  intro panic before counts
  have hreachable : unacquainted.Reachable :=
    ⟨impatient, reluctant, StateStore.unused, .unavailable, StateStore.epoch, [], rfl⟩
  obtain ⟨hgiven, htick, -, hloop⟩ := checks_all_or_nothing unacquainted hreachable
  obtain ⟨-, -, -, hcount, -⟩ := htick unanswered
  refine ⟨hreachable, ((hgiven panic "v" default).2 rfl).2, hcount, ?_⟩
  rw [hloop before [.due unanswered] (by decide +kernel) (by simp [Wake.withdraws])]
  rfl

end ValidatorWatch
