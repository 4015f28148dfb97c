import ValidatorWatch.Monitor.Rehearsal
import ValidatorWatch.Proofs.Monitor.Order
import ValidatorWatch.Proofs.Monitor.Shutdown
/-!
# What a rehearsal comes to

A rehearsal starts all probes of a tick before the tick runs, and those of a
loop before any of its ticks. What a probe comes to depends on its script and on
whether there is a shutdown, and a tick hears of one exactly if an enabled
validator's script signals it (`Monitor.shutdown_tick`). So a tick is one of the
monitor on what the scripts say next (`Rehearsal.tick_of_scripts`), and a loop
is one tick after another until a script is used up (`rehearsal_loop`).
-/

namespace ValidatorWatch

open Time (Instant)

theorem ProbeOutcome.isShutdown_iff {o : ProbeOutcome} : o.isShutdown = true ↔ o = .shutdown := by
  cases o <;> simp [isShutdown]

namespace Monitor

variable {m : Monitor} {c : TickConditions}

/-! ## What a tick hears of a shutdown -/

theorem shutdown_check_eq (m : Monitor) (c : CheckConditions) (name : String) (v : ValidatorEntry) :
    (m.check c name v).monitor.shutdown =
      (m.shutdown || (m.states.get? name).isSome && c.probe.isShutdown) := by
  rcases check_of m c name v with ⟨x, hx, -, -, -, ht, -, -⟩ | ⟨-, hr⟩
  · have hprobe : c.probe.isShutdown = false := by
      refine Bool.eq_false_iff.2 fun hprobe => ?_
      have hbundle := (isSome_checkErrand?_iff.1 (Option.isSome_of_eq_some hx)).2.2
      rw [ProbeOutcome.isShutdown_iff.1 hprobe] at hbundle
      cases hbundle
    rw [ht.shutdown, hprobe, Bool.and_false, Bool.or_false]
  · rw [hr]

theorem shutdown_foldl_addCheck {order : List (String × ValidatorEntry)} {r : TickResult} (h : r.monitor.Mirrors)
    (horder : ∀ e ∈ order, r.monitor.settings.tracks e.1 = true) :
    (order.foldl (TickResult.addCheck c) r).monitor.shutdown =
      (r.monitor.shutdown || order.any fun e => (c.probe e.1).isShutdown) := by
  induction order generalizing r with
  | nil => exact (Bool.or_false _).symm
  | cons e rest ih =>
    have hsettings : (r.addCheck c e).monitor.settings = r.monitor.settings :=
      settings_part r.monitor (.check (c.check e.1) e.1 e.2)
    have hfirst : (r.addCheck c e).monitor.shutdown = (r.monitor.shutdown || (c.probe e.1).isShutdown) := by
      refine (shutdown_check_eq ..).trans ?_
      rw [h.tracked, horder e List.mem_cons_self, Bool.true_and]
      rfl
    have hrest : ∀ e' ∈ rest, (r.addCheck c e).monitor.settings.tracks e'.1 = true := by
      rw [hsettings]
      exact fun e' he' => horder e' (List.mem_cons_of_mem _ he')
    rw [List.foldl_cons, ih (h.check ..) hrest, hfirst, List.any_cons, Bool.or_assoc]

theorem tracks_of_enabled {e : String × ValidatorEntry} (he : e ∈ m.settings.enabledValidators) :
    m.settings.tracks e.1 = true := by
  obtain ⟨hentry, henabled⟩ := Settings.mem_enabledValidators_iff.1 he
  rw [Settings.tracks_eq, hentry]
  exact henabled

/-- A tick hears of a shutdown from the probes of the enabled validators. -/
theorem shutdown_tick (h : m.Mirrors) (c : TickConditions) : (m.tick c).monitor.shutdown =
    (m.shutdown || m.settings.enabledValidators.any fun e => (c.probe e.1).isShutdown) := by
  have hperm := checkOrder_perm m c
  have hall := shutdown_foldl_addCheck (c := c) (r := { monitor := m }) h
    fun e he => tracks_of_enabled (hperm.mem_iff.1 he)
  rw [hperm.any_eq] at hall
  exact hall

theorem settings_tick (m : Monitor) (c : TickConditions) : (m.tick c).monitor.settings = m.settings := by
  have hsettings := settings_run m (m.parts (.tick c))
  rw [run_parts] at hsettings
  exact hsettings

theorem Mirrors.tick (h : m.Mirrors) (c : TickConditions) : (m.tick c).monitor.Mirrors := by
  have hrun := h.run (m.parts (.tick c))
  rw [run_parts] at hrun
  exact hrun

/-- A tick depends on the probes of the enabled validators only. -/
theorem tick_congr {probe : String → ProbeOutcome}
    (h : ∀ e ∈ m.settings.enabledValidators, c.probe e.1 = probe e.1) :
    m.tick c = m.tick { c with probe := probe } := by
  have horder : m.checkOrder { c with probe := probe } = m.checkOrder c := by
    refine congrArg₂ (· ++ ·) ?_ ?_ <;> exact List.filter_congr fun e he => by rw [h e he]
  have hchecks : m.checkAll { c with probe := probe } (m.checkOrder c) = m.checkAll c (m.checkOrder c) := by
    refine List.foldl_ext _ _ _ fun r e he => ?_
    simp only [TickResult.addCheck, TickConditions.check, h e ((checkOrder_perm m c).mem_iff.1 he)]
  rw [tick, tick, horder, hchecks]
  rfl

end Monitor

namespace Rehearsal

variable {r : Rehearsal} {now : Instant} {scripts : NameMap Script} {name : String} {names : List String}
  {e : String × ValidatorEntry}

/-! ## What the scripts say -/

theorem probe_fst (now : Instant) (scripts : NameMap Script) (name : String) : (probe now scripts name).1 =
    ((scripts.get? name).map fun s => s.next.1).getD (.answered (unreachable now)) := by
  rw [probe]
  cases scripts.get? name <;> rfl

theorem get?_probe (now : Instant) (scripts : NameMap Script) (name other : String) :
    (probe now scripts name).2.get? other =
      if name = other then (scripts.get? other).map fun s => s.next.2 else scripts.get? other := by
  rw [probe]
  split
  next hnone =>
    split
    next hname => rw [← hname, hnone]; rfl
    next => rfl
  next script hscript =>
    rw [NameMap.get?_insert]
    split
    next hname => rw [← hname, hscript]; rfl
    next => rfl

/-- What a script says next does not depend on the others. -/
theorem probe_probe {other : String} (h : name ≠ other) :
    (probe now (probe now scripts name).2 other).1 = (probe now scripts other).1 := by
  rw [probe_fst, get?_probe, if_neg h, probe_fst]

theorem probes_cons (now : Instant) (scripts : NameMap Script) (first : String) (rest : List String) :
    probes now scripts (first :: rest) =
      if (probe now scripts first).1.isShutdown then
        ([(first, (probe now scripts first).1)], (probe now scripts first).2)
      else
        ((first, (probe now scripts first).1) :: (probes now (probe now scripts first).2 rest).1,
          (probes now (probe now scripts first).2 rest).2) := rfl

/-- Without a shutdown all probes are started. -/
theorem probes_running (hdistinct : names.Nodup) (h : ∀ name ∈ names, (probe now scripts name).1 ≠ .shutdown) :
    (∀ name ∈ names, (probes now scripts names).1.lookup name = some (probe now scripts name).1) ∧
      ∀ name, (probes now scripts names).2.get? name =
        if name ∈ names then (scripts.get? name).map fun s => s.next.2 else scripts.get? name := by
  induction names generalizing scripts with
  | nil => exact ⟨fun name hname => absurd hname List.not_mem_nil, fun name => rfl⟩
  | cons first rest ih =>
    obtain ⟨hfresh, hdistinct⟩ := List.nodup_cons.1 hdistinct
    have hne {name : String} (hname : name ∈ rest) : first ≠ name := fun heq => hfresh (heq ▸ hname)
    have hrest : ∀ name ∈ rest, (probe now (probe now scripts first).2 name).1 ≠ .shutdown := by
      intro name hname
      rw [probe_probe (hne hname)]
      exact h name (List.mem_cons_of_mem _ hname)
    obtain ⟨hstarted, hscripts⟩ := ih hdistinct hrest
    have hfirst : (probe now scripts first).1.isShutdown = false :=
      Bool.eq_false_iff.2 fun hdown => h first List.mem_cons_self (ProbeOutcome.isShutdown_iff.1 hdown)
    rw [probes_cons, hfirst, if_neg Bool.false_ne_true]
    constructor
    · intro name hname
      rcases List.mem_cons.1 hname with rfl | hname
      · exact List.lookup_cons_self
      · have hother : (name == first) = false := beq_eq_false_iff_ne.2 (hne hname).symm
        rw [List.lookup_cons, hother]
        exact (hstarted name hname).trans (congrArg some (probe_probe (hne hname)))
    · intro name
      rw [hscripts, get?_probe]
      grind

/-- A probe that is to signal a shutdown does, or is not started as another did. -/
theorem probes_ending (hname : name ∈ names) (h : (probe now scripts name).1 = .shutdown) :
    ((probes now scripts names).1.lookup name).getD .shutdown = .shutdown := by
  induction names generalizing scripts with
  | nil => cases hname
  | cons first rest ih =>
    rw [probes_cons]
    cases hfirst : (probe now scripts first).1.isShutdown with
    | true =>
      rw [if_pos rfl, ProbeOutcome.isShutdown_iff.1 hfirst, List.lookup_cons]
      cases name == first <;> rfl
    | false =>
      have hne : first ≠ name := by
        rintro rfl
        rw [h] at hfirst
        cases hfirst
      have hother : (name == first) = false := beq_eq_false_iff_ne.2 hne.symm
      rw [if_neg Bool.false_ne_true, List.lookup_cons, hother]
      exact ih ((List.mem_cons.1 hname).resolve_left hne.symm) ((probe_probe hne).trans h)

/-! ## A tick -/

/-- Whether a script of an enabled validator is to signal a shutdown next. -/
def Ending (r : Rehearsal) (now : Instant) : Prop :=
  ∃ e ∈ r.monitor.settings.enabledValidators, (probe now r.scripts e.1).1 = .shutdown

/-- The probes of the next tick. -/
theorem probe_nextTick (hrunning : r.monitor.shutdown = false) (name : String) : (r.nextTick now).1.probe name =
    ((probes now r.scripts (r.monitor.settings.enabledValidators.map Prod.fst)).1.lookup name).getD .shutdown := by
  simp only [nextTick, hrunning, Bool.false_eq_true, if_false]

theorem scripts_nextTick (hrunning : r.monitor.shutdown = false) : (r.nextTick now).2.scripts =
    (probes now r.scripts (r.monitor.settings.enabledValidators.map Prod.fst)).2 := by
  simp only [nextTick, hrunning, Bool.false_eq_true, if_false]

/-- If no script is to signal a shutdown, each says what the probe of its
validator comes to. -/
theorem nextTick_running (hrunning : r.monitor.shutdown = false) (h : ¬ r.Ending now) :
    (∀ e ∈ r.monitor.settings.enabledValidators, (r.nextTick now).1.probe e.1 = (probe now r.scripts e.1).1) ∧
      ∀ e ∈ r.monitor.settings.enabledValidators, (r.nextTick now).2.scripts.get? e.1 =
        (r.scripts.get? e.1).map fun s => s.next.2 := by
  have hdistinct : (r.monitor.settings.enabledValidators.map Prod.fst).Nodup :=
    List.pairwise_map.2 (Monitor.pairwise_enabled r.monitor.settings)
  have hnone : ∀ name ∈ r.monitor.settings.enabledValidators.map Prod.fst,
      (probe now r.scripts name).1 ≠ .shutdown := by
    intro name hname hdown
    obtain ⟨e, he, rfl⟩ := List.mem_map.1 hname
    exact h ⟨e, he, hdown⟩
  obtain ⟨hstarted, hscripts⟩ := probes_running hdistinct hnone
  refine ⟨fun e he => ?_, fun e he => ?_⟩
  · rw [probe_nextTick hrunning, hstarted e.1 (List.mem_map_of_mem he)]
    rfl
  · rw [scripts_nextTick hrunning, hscripts, if_pos (List.mem_map_of_mem he)]

/-- A tick of a rehearsal is one of the monitor on what the scripts say next. -/
theorem tick_of_scripts (hrunning : r.monitor.shutdown = false) (h : ¬ r.Ending now) :
    (r.tick now).1 = r.monitor.tick
      { now := now
        probe := fun name => (probe now r.scripts name).1
        networkHealth := fun n => r.networkHealth.get? n.name } :=
  Monitor.tick_congr (nextTick_running hrunning h).1

/-- Whether the next tick will hear of a shutdown. -/
def hearsShutdown (r : Rehearsal) (now : Instant) : Bool :=
  r.monitor.settings.enabledValidators.any fun e => ((r.nextTick now).1.probe e.1).isShutdown

theorem shutdown_tick (hm : r.monitor.Mirrors) (hrunning : r.monitor.shutdown = false) :
    (r.tick now).2.monitor.shutdown = r.hearsShutdown now := by
  have htick := Monitor.shutdown_tick hm (r.nextTick now).1
  rw [hrunning, Bool.false_or] at htick
  exact htick

/-- It will if a script is to signal one. -/
theorem hearsShutdown_iff (hrunning : r.monitor.shutdown = false) : r.hearsShutdown now = true ↔ r.Ending now := by
  refine ⟨fun hears => ?_, fun hending => ?_⟩
  · by_contra hending
    obtain ⟨e, he, hprobe⟩ := List.any_eq_true.1 hears
    rw [(nextTick_running hrunning hending).1 e he] at hprobe
    exact hending ⟨e, he, ProbeOutcome.isShutdown_iff.1 hprobe⟩
  · obtain ⟨e, he, hdown⟩ := hending
    refine List.any_eq_true.2 ⟨e, he, ?_⟩
    rw [probe_nextTick hrunning, probes_ending (List.mem_map_of_mem he) hdown]
    rfl

/-! ## A loop -/

/-- Tick after tick until the monitor is to shut down, so many at most. -/
def ticks (now : Instant) : Nat → Rehearsal → LoopResult × Rehearsal
  | 0, r => ({ monitor := r.monitor }, r)
  | n + 1, r =>
    if r.monitor.shutdown then ({ monitor := r.monitor }, r)
    else
      let (t, r) := r.tick now
      let (more, r) := ticks now n r
      ({ monitor := more.monitor, ticks := t :: more.ticks }, r)

/-- Runs ticks whose circumstances are known. -/
def perform (cs : List TickConditions) (r : Rehearsal) : LoopResult × Rehearsal :=
  (r.monitor.runLoop cs, { r with monitor := (r.monitor.runLoop cs).monitor })

theorem ticks_succ {n : Nat} (hrunning : r.monitor.shutdown = false) : ticks now (n + 1) r =
    ({ monitor := (ticks now n (r.tick now).2).1.monitor
       ticks := (r.tick now).1 :: (ticks now n (r.tick now).2).1.ticks }, (ticks now n (r.tick now).2).2) := by
  rw [ticks, if_neg (Bool.eq_false_iff.1 hrunning)]

theorem ticks_of_shutdown (n : Nat) (h : r.monitor.shutdown = true) :
    ticks now n r = ({ monitor := r.monitor }, r) := by
  cases n with
  | zero => rfl
  | succ n => rw [ticks, if_pos h]

theorem nextTicks_succ (now : Instant) (n : Nat) (r : Rehearsal) : nextTicks now (n + 1) r =
    if r.hearsShutdown now then ([(r.nextTick now).1], (r.nextTick now).2)
    else
      ((r.nextTick now).1 :: (nextTicks now n (r.nextTick now).2).1, (nextTicks now n (r.nextTick now).2).2) := rfl

theorem monitor_nextTicks (n : Nat) (r : Rehearsal) : (nextTicks now n r).2.monitor = r.monitor := by
  induction n generalizing r with
  | zero => rfl
  | succ n ih =>
    rw [nextTicks_succ]
    split
    · rfl
    · exact ih (r.nextTick now).2

variable {m : Monitor}

/-- What the scripts say does not depend on the monitor but for its settings and
whether it is to shut down. -/
theorem nextTick_of (hsettings : m.settings = r.monitor.settings) (hshutdown : m.shutdown = r.monitor.shutdown) :
    ({ r with monitor := m } : Rehearsal).nextTick now =
      ((r.nextTick now).1, { (r.nextTick now).2 with monitor := m }) := by
  simp only [nextTick, hsettings, hshutdown]

theorem nextTicks_of (n : Nat) (hsettings : m.settings = r.monitor.settings)
    (hshutdown : m.shutdown = r.monitor.shutdown) :
    nextTicks now n { r with monitor := m } =
      ((nextTicks now n r).1, { (nextTicks now n r).2 with monitor := m }) := by
  induction n generalizing r with
  | zero => rfl
  | succ n ih =>
    have hears : ({ r with monitor := m } : Rehearsal).hearsShutdown now = r.hearsShutdown now := by
      simp only [hearsShutdown, nextTick_of hsettings hshutdown, hsettings]
    rw [nextTicks_succ, nextTicks_succ, hears, nextTick_of hsettings hshutdown]
    split
    next => rfl
    next => simp only [ih (r := (r.nextTick now).2) hsettings hshutdown]

/-- To know the circumstances of all ticks beforehand makes no difference. -/
theorem perform_nextTicks (n : Nat) (hm : r.monitor.Mirrors) (hrunning : r.monitor.shutdown = false) :
    perform (nextTicks now n r).1 (nextTicks now n r).2 = ticks now n r := by
  induction n generalizing r with
  | zero => rfl
  | succ n ih =>
    have hloop (cs : List TickConditions) : r.monitor.runLoop ((r.nextTick now).1 :: cs) =
        { monitor := ((r.tick now).2.monitor.runLoop cs).monitor
          ticks := (r.tick now).1 :: ((r.tick now).2.monitor.runLoop cs).ticks } := by
      rw [Monitor.runLoop, if_neg (Bool.eq_false_iff.1 hrunning)]
      rfl
    have hdown : (r.tick now).2.monitor.shutdown = r.hearsShutdown now := shutdown_tick hm hrunning
    rw [nextTicks_succ, ticks_succ hrunning]
    split
    next hears =>
      have hmonitor : (r.nextTick now).2.monitor = r.monitor := rfl
      rw [ticks_of_shutdown n (hdown.trans hears), perform, hmonitor, hloop]
      rfl
    next hears =>
      have hrunning' : (r.tick now).2.monitor.shutdown = false := hdown.trans (Bool.eq_false_iff.2 hears)
      -- The tick leaves alone what the scripts depend on, so they go on as without it.
      have hnext : nextTicks now n (r.tick now).2 = _ :=
        nextTicks_of n (r := (r.nextTick now).2) (Monitor.settings_tick _ _) (hrunning'.trans hrunning.symm)
      have hmonitor : (nextTicks now n (r.nextTick now).2).2.monitor = r.monitor := monitor_nextTicks n _
      rw [← ih (hm.tick _) hrunning', hnext, perform, hmonitor, hloop]
      rfl

theorem loop_eq (r : Rehearsal) (now : Instant) : r.loop now =
    if r.monitor.shutdown then perform [] r
    else perform (nextTicks now r.rounds r).1 (nextTicks now r.rounds r).2 := by
  rw [loop]
  cases r.monitor.shutdown <;> rfl

/-- A loop is one tick after another. -/
theorem loop_eq_ticks (hm : r.monitor.Mirrors) : r.loop now = ticks now r.rounds r := by
  rw [loop_eq]
  split
  next hdown => rw [ticks_of_shutdown _ hdown, perform, Monitor.runLoop]
  next hdown => exact perform_nextTicks _ hm (Bool.eq_false_iff.2 hdown)

/-- A script that can be used up ends the ticks. -/
theorem shutdown_ticks {os : List ProbeOutcome} {n : Nat} (hm : r.monitor.Mirrors)
    (he : e ∈ r.monitor.settings.enabledValidators) (hscript : r.scripts.get? e.1 = some (.inTurn os))
    (hn : os.length < n) : (ticks now n r).1.monitor.shutdown = true := by
  induction n generalizing r os with
  | zero => cases hn
  | succ n ih =>
    cases hdown : r.monitor.shutdown with
    | true =>
      rw [ticks_of_shutdown _ hdown]
      exact hdown
    | false =>
      rw [ticks_succ hdown]
      by_cases hending : r.Ending now
      · have hlast : (r.tick now).2.monitor.shutdown = true :=
          (shutdown_tick hm hdown).trans ((hearsShutdown_iff hdown).2 hending)
        rw [ticks_of_shutdown n hlast]
        exact hlast
      · cases os with
        | nil =>
          refine absurd ⟨e, he, ?_⟩ hending
          rw [probe_fst, hscript]
          rfl
        | cons o os =>
          have hnext : (r.tick now).2.scripts.get? e.1 = some (.inTurn os) :=
            ((nextTick_running hdown hending).2 e he).trans (by rw [hscript]; rfl)
          have he' : e ∈ (r.tick now).2.monitor.settings.enabledValidators := by
            rw [show (r.tick now).2.monitor.settings = r.monitor.settings from Monitor.settings_tick _ _]
            exact he
          exact ih (hm.tick _) he' hnext (by simpa using hn)

theorem length_lt_rounds {s : Script} (h : r.scripts.get? name = some s) : s.length < r.rounds := by
  have hfold (scripts : List Script) (n : Nat) (h : s ∈ scripts ∨ s.length ≤ n) :
      s.length ≤ scripts.foldl (fun n s => max n s.length) n := by
    induction scripts generalizing n with
    | nil => exact h.resolve_left List.not_mem_nil
    | cons first rest ih =>
      refine ih _ ?_
      rcases h with hmem | hle
      · rcases List.mem_cons.1 hmem with rfl | hmem
        · exact .inr (le_max_right ..)
        · exact .inl hmem
      · exact .inr (hle.trans (le_max_left ..))
  exact Nat.lt_succ_of_le (hfold _ 0 (.inl (NameMap.mem_values_iff.2 ⟨name, h⟩)))

end Rehearsal

/-- At every moment of a monitor, a loop of a rehearsal is a loop of the monitor,
and what one tick after another comes to. It ends with a shutdown if a script of
an enabled validator can be used up. -/
theorem rehearsal_loop (r : Rehearsal) (now : Instant) (hm : r.monitor.Reachable) :
    (∃ cs : List TickConditions, (r.loop now).1 = r.monitor.loop (cs.map .due)) ∧
      r.loop now = r.ticks now r.rounds ∧
      ∀ e ∈ r.monitor.settings.enabledValidators, ∀ os, r.scripts.get? e.1 = some (.inTurn os) →
        (r.loop now).1.monitor.shutdown = true := by
  have hticks : r.loop now = r.ticks now r.rounds := Rehearsal.loop_eq_ticks hm.mirrors
  refine ⟨?_, hticks, fun e he os hscript => ?_⟩
  · rw [Rehearsal.loop_eq]
    split
    next => exact ⟨[], rfl⟩
    next =>
      refine ⟨(Rehearsal.nextTicks now r.rounds r).1, ?_⟩
      rw [Monitor.loop_due, Rehearsal.perform, Rehearsal.monitor_nextTicks]
  · rw [hticks]
    exact Rehearsal.shutdown_ticks hm.mirrors he hscript (Rehearsal.length_lt_rounds hscript)

end ValidatorWatch
