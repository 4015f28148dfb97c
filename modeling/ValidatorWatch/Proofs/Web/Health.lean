import Mathlib.Data.List.DropRight
import ValidatorWatch.Proofs.Monitor.Parts
import ValidatorWatch.Web.Router
/-!
# What a healthy answer is worth

The answer to a request for the health of the monitor goes by the status, and
the status is set at the end of a tick and not again before the end of the
next. The entries of the validators change with every check. So an answer that
all is well is about the end of the last tick, and what it says of a validator
that has been checked since may be otherwise.
-/

namespace ValidatorWatch

open Document
open Time (Instant)

namespace Part

/-- Whether a part sets the status. -/
def renews : Part → Bool
  | .endTick _ | .restart .. => true
  | _ => false

/-- Whether a part is a check of a validator. -/
def isCheckOf (name : String) : Part → Bool
  | .check _ n _ => n = name
  | _ => false

end Part

/-- The parts since the status was set. -/
def sinceTick (parts : List Part) : List Part :=
  parts.rtakeWhile fun p => !p.renews

namespace Monitor

variable {m : Monitor} {p : Part} {name : String}

/-! ## Between two ticks -/

/-- Between two ticks the status stays, and so do the entries of validators that
are not checked. -/
theorem snapshot_part (hp : p.renews = false) :
    let shown := (m.part p).monitor.snapshot
    shown.status = m.snapshot.status ∧
      ∀ name, p.isCheckOf name = false → shown.validators.get? name = m.snapshot.validators.get? name := by
  cases p with
  | check c other v =>
    cases hx : m.checkErrand? c other with
    | some x =>
      rw [part, monitor_check v hx]
      exact ⟨rfl, fun name hname => NameMap.get?_insert_of_ne _ _ (of_decide_eq_false hname)⟩
    | none =>
      rw [part, (snapshot_check v hx).1]
      exact ⟨rfl, fun _ _ => rfl⟩
  | networks c =>
    rw [part, snapshot_showNetworks]
    exact ⟨rfl, fun _ _ => rfl⟩
  | report c name =>
    cases hs : m.state? name with
    | some s =>
      rw [part, snapshot_report (r := { monitor := m }) hs]
      exact ⟨rfl, fun _ _ => rfl⟩
    | none =>
      rw [part, report, hs]
      exact ⟨rfl, fun _ _ => rfl⟩
  | prune now =>
    rw [part, pruneHistory]
    split <;> exact ⟨rfl, fun _ _ => rfl⟩
  | signal => exact ⟨rfl, fun _ _ => rfl⟩
  | endTick | restart => cases hp

theorem entry_run {parts : List Part} (hparts : ∀ p ∈ parts, p.renews = false ∧ p.isCheckOf name = false) :
    (m.run parts).snapshot.validators.get? name = m.snapshot.validators.get? name := by
  induction parts generalizing m with
  | nil => rfl
  | cons p rest ih =>
    obtain ⟨hp, hname⟩ := hparts p List.mem_cons_self
    exact (ih fun q hq => hparts q (List.mem_cons_of_mem _ hq)).trans ((snapshot_part hp).2 name hname)

/-! ## The last tick -/

/-- The last tick ended right after these of some parts, and a new monitor was
not started since. -/
def TickEnded (before parts : List Part) : Prop :=
  ∃ ended, parts = before ++ .endTick ended :: sinceTick parts

theorem tickEnded_endTick {before parts : List Part} {now : Instant} :
    TickEnded before (parts ++ [.endTick now]) ↔ before = parts := by
  have hsince : sinceTick (parts ++ [.endTick now]) = [] := List.rtakeWhile_concat_neg _ _ _ (by simp [Part.renews])
  rw [TickEnded, hsince]
  constructor
  · rintro ⟨ended, h⟩
    exact (List.append_inj' h rfl).1.symm
  · rintro rfl
    exact ⟨now, rfl⟩

theorem not_tickEnded_restart {before parts : List Part} {now : Instant} {d : Dispatcher} {h : HistoryAccess} :
    ¬ TickEnded before (parts ++ [.restart now d h]) := by
  have hsince : sinceTick (parts ++ [.restart now d h]) = [] := List.rtakeWhile_concat_neg _ _ _ (by simp [Part.renews])
  rw [TickEnded, hsince]
  rintro ⟨ended, heq⟩
  cases (List.append_inj' heq rfl).2

theorem tickEnded_append {before parts : List Part} (hp : p.renews = false) :
    TickEnded before (parts ++ [p]) ↔ TickEnded before parts := by
  have hsince : sinceTick (parts ++ [p]) = sinceTick parts ++ [p] := List.rtakeWhile_concat_pos _ _ _ (by simp [hp])
  rw [TickEnded, hsince, TickEnded]
  refine exists_congr fun ended => ?_
  rw [← List.cons_append, ← List.append_assoc, List.append_left_inj]

/-- All is shown to be well as long as the last tick found every enabled
validator active. -/
theorem status_run_iff (h : m.Mirrors) (hfresh : m.snapshot.status ≠ "healthy") (parts : List Part) :
    (m.run parts).snapshot.status = "healthy" ↔
      ∃ before, TickEnded before parts ∧
        ∀ e ∈ m.settings.enabledValidators, (m.run before).isActive e.1 = true := by
  induction parts using List.reverseRecOn with
  | nil => simp [TickEnded, run, hfresh]
  | append_singleton parts p ih =>
    rw [run_append]
    cases hp : p.renews with
    | false =>
      simp only [tickEnded_append hp, ← ih]
      exact iff_of_eq (congrArg (· = "healthy") (snapshot_part hp).1)
    | true =>
      cases p with
      | endTick now =>
        simp only [tickEnded_endTick, exists_eq_left, ← settings_run m parts]
        exact status_endTick_iff (h.run parts) now
      | restart now d history =>
        simp only [not_tickEnded_restart, false_and, exists_false, iff_false]
        exact (by decide : ("starting" : String) ≠ "healthy")
      | check | networks | report | prune | signal => cases hp

end Monitor

namespace Web

open Monitor

/-- A request for the health of the monitor is answered with `health`. -/
theorem respond_health (m : Monitor) (now : Instant) : respond m now "GET" "/health" = health m now := by
  have hpath : (Target.ofString "/health").path.map String.ofList = ["", "health"] := by decide
  have hroute : route? m now (.ofString "/health") = some (health m now) := by
    rw [route?, hpath]
    rfl
  rw [respond, if_neg (by decide), hroute]
  exact if_pos rfl

theorem status_health_iff (m : Monitor) (now : Instant) :
    (health m now).status = 200 ↔ m.snapshot.status = "healthy" ∧ m.snapshot.persistenceOk = true := by
  have hview : (health m now).status =
      if m.snapshot.status = "healthy" && m.snapshot.persistenceOk then 200 else 503 := rfl
  rw [hview]
  split <;> simp_all

end Web

open Web in
/-- Whatever a monitor has gone through, the answer about its health shows the
snapshot. It is 200 exactly if the last save of every validator succeeded and
the last tick that ended found every enabled validator active, and then it
shows every enabled validator as healthy that has not been checked since. -/
theorem health_vouches_for_last_tick (settings : Settings) (d : Dispatcher) (store : StateStore)
    (history : HistoryAccess) (started : Instant) (parts : List Part) (now : Instant) :
    let m := Monitor.start settings d store history started
    let shown := (m.run parts).view now
    let answer := respond (m.run parts) now "GET" "/health"
    answer.content = .document shown.toValue ∧
    (answer.status = 200 ↔ shown.persistenceOk = true ∧ ∃ before, Monitor.TickEnded before parts ∧
      ∀ e ∈ settings.enabledValidators, ∃ s, (m.run before).state? e.1 = some s ∧ s.verdict = .active) ∧
    (answer.status = 200 → ∀ name entry, shown.validators.get? name = some entry → entry.enabled = true →
      (∀ p ∈ sinceTick parts, p.isCheckOf name = false) → entry.healthy = true) := by
  intro m shown answer
  have hmirrors : m.Mirrors := Monitor.mirrors_start settings d store history started
  have hfresh : m.snapshot.status ≠ "healthy" := (by decide : ("starting" : String) ≠ "healthy")
  have hanswer : answer = health (m.run parts) now := respond_health ..
  have hstatus : answer.status = 200 ↔ shown.persistenceOk = true ∧ ∃ before, Monitor.TickEnded before parts ∧
      ∀ e ∈ settings.enabledValidators, (m.run before).isActive e.1 = true := by
    rw [hanswer, status_health_iff, Monitor.status_run_iff hmirrors hfresh, and_comm]
    rfl
  refine ⟨congrArg Response.content hanswer, ?_, ?_⟩
  · simp only [← Monitor.isActive_iff]
    exact hstatus
  · intro hok name entry hentry henabled hsince
    obtain ⟨-, before, ⟨ended, hparts⟩, hactive⟩ := hstatus.1 hok
    -- Nothing has changed the entry since the tick ended.
    have hold : (m.run before).snapshot.validators.get? name = some entry := by
      rw [← hentry]
      show _ = (m.run parts).snapshot.validators.get? name
      have hquiet : ∀ p ∈ sinceTick parts, p.renews = false ∧ p.isCheckOf name = false :=
        fun p hp => ⟨by simpa using List.mem_rtakeWhile_imp hp, hsince p hp⟩
      rw [hparts, Monitor.run_append]
      exact (Monitor.entry_run (m := (m.run before).endTick ended) hquiet).symm
    obtain ⟨v, hv, hsame, hhealthy⟩ := (hmirrors.run before).of_entry hold
    rw [Monitor.settings_run] at hv
    rw [hhealthy]
    exact hactive (name, v) (Settings.mem_enabledValidators_iff.2 ⟨hv, hsame ▸ henabled⟩)

/-- A tick on which every node is found to be at a height. -/
def answeredTick : TickConditions where
  now := StateStore.epoch
  probe _ := .answered
    { node := .ok { height := some 1 }, resources := none, rpc := none, primary := none, secondary := none
      collectedAt := StateStore.epoch }

/-- A monitor of one validator. -/
def lookout : Monitor :=
  .start impatient silent StateStore.unused .unavailable StateStore.epoch

/-- After a tick that found it active the validator is shown so. -/
theorem healthy_after_tick :
    let m := lookout.run (lookout.parts (.tick answeredTick))
    (Web.respond m StateStore.epoch "GET" "/health").status = 200 ∧
      (m.snapshot.validators.get? "v").map (·.healthy) = some true := by
  intro m
  obtain ⟨-, -, hshown⟩ := health_vouches_for_last_tick impatient silent StateStore.unused .unavailable
    StateStore.epoch (lookout.parts (.tick answeredTick)) StateStore.epoch
  have hok : (Web.respond m StateStore.epoch "GET" "/health").status = 200 := by
    rw [Web.respond_health, Web.status_health_iff]
    decide +kernel
  have henabled : (m.snapshot.validators.get? "v").map (·.enabled) = some true := by decide +kernel
  obtain ⟨entry, hentry, hon⟩ := Option.map_eq_some_iff.1 henabled
  refine ⟨hok, ?_⟩
  rw [hentry]
  exact congrArg some (hshown hok "v" entry hentry hon (by decide +kernel))

/-- The tick, and then a check in which the validator does not answer. -/
def silentAfterTick : List Part :=
  lookout.parts (.tick answeredTick) ++
    [.check { now := .ofNanos 60000000000, probe := .silent } "v" { host := "h", publicKey := "" }]

/-- After `silentAfterTick` the answer is still 200 and shows a validator that is
not healthy. -/
theorem health_vouches_for_silent_validator :
    ¬ ∀ (settings : Settings) (d : Dispatcher) (store : StateStore) (history : HistoryAccess) (started : Instant)
      (parts : List Part) (now : Instant),
      let m := (Monitor.start settings d store history started).run parts
      (Web.respond m now "GET" "/health").status = 200 →
        (m.view now).allHealthy = true ∧ (m.view now).persistenceOk = true := by
  intro h
  let m := lookout.run silentAfterTick
  have hok : (Web.respond m StateStore.epoch "GET" "/health").status = 200 := by
    rw [Web.respond_health, Web.status_health_iff]
    decide +kernel
  have hall : (m.view StateStore.epoch).allHealthy = true :=
    (h impatient silent StateStore.unused .unavailable StateStore.epoch silentAfterTick StateStore.epoch hok).1
  revert hall
  decide +kernel

end ValidatorWatch
