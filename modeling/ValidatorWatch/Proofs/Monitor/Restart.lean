import ValidatorWatch.Proofs.Monitor.Errands
import ValidatorWatch.Proofs.Store.Saves
/-!
# Restarts change nothing

A new monitor over the same settings and state folder goes on as the old one
would have, if the last save of every validator succeeded. `Sound` is the
invariant behind that: what the store has of a validator, unless its last save
failed, is the state that the monitor holds.

A restart may leave other tokens in the buckets. So a run is compared with
that of its `Shadow`, a monitor with channels without buckets that is never
restarted. A run in which no bucket keeps an event from a channel looks the
same as that of its shadow (`seenIn_shadow`), and so do two such runs of which
one has restarts and the other has none.
-/

namespace ValidatorWatch

open Time (Instant)

/-! ## Runs with restarts -/

/-- What a monitor goes through. Its channels may have other buckets after a
restart. -/
inductive Act where
  | tick (c : TickConditions)
  | reports (c : ReportConditions)
  | restart (now : Instant) (buckets : Buckets)

namespace Act

/-- When it happens. -/
def now : Act → Instant
  | .tick c => c.now
  | .reports c => c.now
  | .restart now _ => now

/-- Whether it is a restart. -/
def isRestart : Act → Bool
  | .restart .. => true
  | _ => false

end Act

/-- What is seen of a tick or a round of reports: how the checks ended, the
events that were told and the messages that were attempted, and afterwards the
states and the state folder. -/
structure Seen where
  outcomes : List (String × CheckOutcome)
  told : List (String × List AlertEvent)
  attempts : List Attempt
  held : String → Option State
  store : StateStore

namespace Monitor

/-- The errands of an act. -/
def errands (m : Monitor) : Act → List Errand
  | .tick c => m.checkErrands c (m.checkOrder c)
  | .reports c => m.reportErrands c (m.settings.enabledValidators.map Prod.fst)
  | .restart .. => []

/-- The events that an act tells, by validator. -/
def told (m : Monitor) (a : Act) : List (String × List AlertEvent) :=
  (m.errands a).map fun x => (x.validator, x.events)

/-- The monitor after an act. -/
def after (m : Monitor) : Act → Monitor
  | .tick c => (m.tick c).monitor
  | .reports c => (m.sendReports c).monitor
  | .restart now buckets => ({ m with dispatcher := m.dispatcher.fitted buckets } : Monitor).restart now

/-- What is seen of an act. -/
def seen? (m : Monitor) (a : Act) : Option Seen :=
  match a with
  | .tick c =>
    let r := m.tick c
    some ⟨r.outcomes, m.told a, r.attempts, r.monitor.state?, r.monitor.store⟩
  | .reports c =>
    let r := m.sendReports c
    some ⟨[], m.told a, r.attempts, r.monitor.state?, r.monitor.store⟩
  | .restart .. => none

/-- What is seen of a run. -/
def seenIn (m : Monitor) : List Act → List Seen
  | [] => []
  | a :: rest => (m.seen? a).toList ++ (m.after a).seenIn rest

/-- What holds before every act of a run. -/
def Always (P : Monitor → Act → Prop) : Monitor → List Act → Prop
  | _, [] => True
  | m, a :: rest => P m a ∧ Always P (m.after a) rest

instance decidableAlways {P : Monitor → Act → Prop} [∀ m a, Decidable (P m a)] :
    (m : Monitor) → (acts : List Act) → Decidable (m.Always P acts)
  | _, [] => inferInstanceAs (Decidable True)
  | m, a :: rest =>
    have := decidableAlways (P := P) (m.after a) rest
    inferInstanceAs (Decidable (P m a ∧ (m.after a).Always P rest))

/-- No bucket keeps an event of this act from a channel. -/
def Unhindered (m : Monitor) (a : Act) : Prop :=
  ∀ x ∈ m.errands a, x.Unhindered

instance (m : Monitor) (a : Act) : Decidable (m.Unhindered a) :=
  inferInstanceAs (Decidable (∀ x ∈ m.errands a, x.Unhindered))

/-- At a restart the last save of every validator has succeeded, and the states
are such that a file can hold them. -/
def AllSaved (m : Monitor) (a : Act) : Prop :=
  a.isRestart = true → m.unsaved.isEmpty = true ∧ ∀ name s, m.state? name = some s → s.Storable

end Monitor

namespace Settings

/-- Whether a validator is checked. -/
def tracks (s : Settings) (name : String) : Bool :=
  ((s.validators.filter fun _ v => v.enabled).get? name).isSome

/-- No two validators that are checked share a state file. -/
def KeptApart (s : Settings) : Prop :=
  ∀ a ∈ s.enabledValidators.map Prod.fst, ∀ b ∈ s.enabledValidators.map Prod.fst,
    StateStore.fileName a = StateStore.fileName b → a = b

theorem mem_of_tracks {s : Settings} {name : String} (h : s.tracks name = true) :
    name ∈ s.enabledValidators.map Prod.fst := by
  obtain ⟨v, hv⟩ := Option.isSome_iff_exists.1 h
  exact List.mem_map.2 ⟨(name, v), NameMap.mem_of_get? hv, rfl⟩

end Settings

theorem Unsaved.get?_note (u : Unsaved) (name : String) (saved : Bool) (other : String) :
    (u.note name saved).get? other = if name = other then (if saved then none else some ()) else u.get? other := by
  cases saved with
  | true => exact NameMap.get?_erase u name other
  | false => exact NameMap.get?_insert u name () other

namespace Monitor

variable {settings : Settings} {m m' i i' : Monitor} {name : String} {now : Instant} {acts : List Act}

/-! ## The store has what the monitor holds -/

/-- The monitor tracks the validators of its settings, and what the store has
of one of them, unless its last save failed, is the state that the monitor
holds. -/
structure Sound (settings : Settings) (m : Monitor) : Prop where
  settings_eq : m.settings = settings
  tracked : ∀ name, (m.states.get? name).isSome = settings.tracks name
  stored : ∀ name s, m.states.get? name = some s → m.unsaved.get? name = none → (∀ t ∈ s, t.Storable) →
    m.store.restore name = s

theorem get?_start (settings : Settings) (d : Dispatcher) (store : StateStore) (history : HistoryAccess)
    (now : Instant) (name : String) : (start settings d store history now).states.get? name =
      if settings.tracks name then some (store.restore name) else none := by
  rw [start, NameMap.get?_map, Settings.tracks]
  cases (settings.validators.filter fun _ v => v.enabled).get? name <;> rfl

theorem sound_start (settings : Settings) (d : Dispatcher) (store : StateStore) (history : HistoryAccess)
    (now : Instant) : (start settings d store history now).Sound settings where
  settings_eq := rfl
  tracked name := by
    rw [get?_start]
    split
    next h => exact h.symm
    next h => exact (Bool.eq_false_iff.2 h).symm
  stored name s hs _ _ := by
    rw [get?_start] at hs
    split at hs
    next => exact Option.some.inj hs
    next => cases hs

/-- An errand is saved, or it is noted that it was not. -/
theorem Sound.takes {trouble : Option SaveTrouble} {t : Telling} (h : m.Sound settings)
    (hapart : settings.KeptApart) (hnow : Instant.InYears now.date.year)
    (htracked : (m.states.get? name).isSome = true) (ht : m.Takes trouble now name t m') : m'.Sound settings where
  settings_eq := ht.settings.trans h.settings_eq
  tracked other := by
    rw [ht.states, NameMap.get?_insert, ← h.tracked other]
    split
    next hname => rw [← hname, htracked]; rfl
    next => rfl
  stored other s hs hsaved hstorable := by
    rw [ht.states, NameMap.get?_insert] at hs
    rw [ht.unsaved, Unsaved.get?_note] at hsaved
    rw [ht.store]
    by_cases hname : name = other
    · subst hname
      rw [if_pos rfl] at hs hsaved
      obtain rfl := Option.some.inj hs
      have hok : (m.store.save trouble now name t.state).1 = .ok () := by
        revert hsaved
        cases (m.store.save trouble now name t.state).1 with
        | ok _ => exact fun _ => rfl
        | error _ => exact fun hsaved => by cases hsaved
      rw [StateStore.restore, StateStore.load_save (hstorable _ rfl) hnow hok]
    · rw [if_neg hname] at hs hsaved
      have hother : settings.tracks other = true := by rw [← h.tracked other, hs]; rfl
      have hfiles : StateStore.fileName name ≠ StateStore.fileName other := fun hf =>
        hname (hapart name (Settings.mem_of_tracks ((h.tracked name).symm.trans htracked)) other
          (Settings.mem_of_tracks hother) hf)
      rw [StateStore.restore_save_of_ne (.inr hfiles)]
      exact h.stored other s hs hsaved hstorable

theorem Sound.check {c : CheckConditions} {v : ValidatorEntry} (h : m.Sound settings) (hapart : settings.KeptApart)
    (hnow : Instant.InYears c.now.date.year) : (m.check c name v).monitor.Sound settings := by
  rcases check_of m c name v with ⟨x, -, -, hx, htracked, ht, -⟩ | ⟨-, hr⟩
  · exact h.takes hapart (hx ▸ hnow) htracked ht
  · rw [hr]
    exact ⟨h.settings_eq, h.tracked, h.stored⟩

theorem Sound.report {c : ReportConditions} {r : ReportsResult} (h : r.monitor.Sound settings)
    (hapart : settings.KeptApart) (hnow : Instant.InYears c.now.date.year) :
    (report c r name).monitor.Sound settings := by
  rcases report_of c r name with ⟨x, -, -, hx, htracked, ht, -⟩ | ⟨-, hr⟩
  · exact h.takes hapart (hx ▸ hnow) htracked ht
  · rw [hr]
    exact h

theorem Sound.after {a : Act} (h : m.Sound settings) (hapart : settings.KeptApart)
    (hnow : Instant.InYears a.now.date.year) : (m.after a).Sound settings := by
  cases a with
  | tick c =>
    have hall : (m.checkAll c (m.checkOrder c)).monitor.Sound settings :=
      List.foldlRecOn _ _ (motive := fun r : TickResult => r.monitor.Sound settings) h
        fun _ hr e _ => hr.check (c := c.check e.1) hapart hnow
    exact ⟨hall.settings_eq, hall.tracked, hall.stored⟩
  | reports c =>
    exact List.foldlRecOn _ _ (motive := fun r : ReportsResult => r.monitor.Sound settings) h
      fun _ hr _ _ => hr.report hapart hnow
  | restart now buckets =>
    obtain rfl := h.settings_eq
    have hstart := sound_start m.settings (m.dispatcher.fitted buckets) m.store m.history now
    exact ⟨rfl, hstart.tracked, hstart.stored⟩

/-- A restarted monitor holds what the old one held. -/
theorem Sound.states_restart {buckets : Buckets} (h : m.Sound settings) (hs : m.AllSaved (.restart now buckets)) :
    (m.after (.restart now buckets)).states.get? name = m.states.get? name := by
  obtain ⟨hsaved, hstorable⟩ := hs rfl
  obtain rfl := h.settings_eq
  have hstart := get?_start m.settings (m.dispatcher.fitted buckets) m.store m.history now name
  rw [← h.tracked name] at hstart
  refine hstart.trans ?_
  cases hget : m.states.get? name with
  | none => rfl
  | some s =>
    have hrestore := h.stored name s hget (NameMap.get?_of_isEmpty hsaved name) fun t ht =>
      hstorable name t (by rw [state?, hget, Option.join_some]; exact ht)
    exact congrArg some hrestore

/-! ## The shadow of a monitor -/

/-- The monitor `i` is `m` with channels without buckets. The snapshot, the
history and what is noted of saves play no part in what it tells. -/
structure Shadow (m i : Monitor) : Prop where
  settings : i.settings = m.settings
  dispatcher : i.dispatcher = m.dispatcher.unlimited
  store : i.store = m.store
  states : ∀ name, i.states.get? name = m.states.get? name
  shutdown : i.shutdown = m.shutdown

theorem shadow_unlimited (m : Monitor) : m.Shadow { m with dispatcher := m.dispatcher.unlimited } :=
  ⟨rfl, rfl, rfl, fun _ => rfl, rfl⟩

theorem Shadow.state? (h : m.Shadow i) : i.state? = m.state? := by
  funext name
  rw [Monitor.state?, h.states, Monitor.state?]

theorem Shadow.checkErrand? (h : m.Shadow i) (c : CheckConditions) (name : String) :
    i.checkErrand? c name = (m.checkErrand? c name).map Errand.unlimited := by
  unfold Monitor.checkErrand?
  rw [h.states, h.shutdown, h.settings, h.dispatcher]
  cases m.states.get? name with
  | none => rfl
  | some previous =>
    cases m.shutdown with
    | true => rfl
    | false => cases c.probe.bundle? m.settings.probeTimeoutSeconds c.now <;> rfl

theorem Shadow.reportErrand? (h : m.Shadow i) (c : ReportConditions) (name : String) :
    i.reportErrand? c name = (m.reportErrand? c name).map Errand.unlimited := by
  rw [Monitor.reportErrand?, Monitor.reportErrand?, h.state?, h.dispatcher, Option.map_map]
  rfl

theorem Shadow.takes {x : Errand} (h : m.Shadow i) (hx : x.Unhindered)
    (hm : m.Takes x.trouble x.now name x.telling m')
    (hi : i.Takes x.trouble x.now name x.unlimited.telling i') : m'.Shadow i' := by
  rw [Errand.telling_unlimited hx] at hi
  constructor
  case settings => rw [hi.settings, hm.settings, h.settings]
  case dispatcher => rw [hi.dispatcher, hm.dispatcher]
  case store => rw [hi.store, hm.store, h.store]
  case states =>
    intro other
    rw [hi.states, hm.states, NameMap.get?_insert, NameMap.get?_insert, h.states]
  case shutdown => rw [hi.shutdown, hm.shutdown, h.shutdown]

theorem Shadow.check {c : CheckConditions} {v : ValidatorEntry} (h : m.Shadow i)
    (hx : ∀ x ∈ m.checkErrand? c name, x.Unhindered) :
    (m.check c name v).monitor.Shadow (i.check c name v).monitor ∧
      (i.check c name v).outcome = (m.check c name v).outcome := by
  have herrand := h.checkErrand? c name
  rcases check_of m c name v with ⟨x, hm, -, -, -, ht, -, ho⟩ | ⟨hm, hr⟩ <;> rw [hm] at herrand <;>
    rcases check_of i c name v with ⟨y, hi, -, -, -, ht', -, ho'⟩ | ⟨hi, hr'⟩ <;> rw [hi] at herrand
  · obtain rfl := Option.some.inj herrand
    refine ⟨h.takes (hx x hm) ht ht', ?_⟩
    rw [ho, ho', Errand.telling_unlimited (hx x hm)]
    rfl
  · cases herrand
  · cases herrand
  · rw [hr, hr']
    refine ⟨⟨h.settings, h.dispatcher, h.store, h.states, ?_⟩, ?_⟩
    · rw [h.shutdown, h.states]
    · show i.givenUp c name = m.givenUp c name
      rw [givenUp, givenUp, h.shutdown, h.states]

theorem Shadow.report {c : ReportConditions} {r q : ReportsResult} (h : r.monitor.Shadow q.monitor)
    (hx : ∀ x ∈ r.monitor.reportErrand? c name, x.Unhindered) :
    (report c r name).monitor.Shadow (report c q name).monitor := by
  have herrand := h.reportErrand? c name
  rcases report_of c r name with ⟨x, hm, -, -, -, ht, -⟩ | ⟨hm, hr⟩ <;> rw [hm] at herrand <;>
    rcases report_of c q name with ⟨y, hi, -, -, -, ht', -⟩ | ⟨hi, hr'⟩ <;> rw [hi] at herrand
  · obtain rfl := Option.some.inj herrand
    exact h.takes (hx x hm) ht ht'
  · cases herrand
  · cases herrand
  · rw [hr, hr']
    exact h

theorem Shadow.checkAll {c : TickConditions} {order : List (String × ValidatorEntry)} {r q : TickResult}
    (h : r.monitor.Shadow q.monitor) (houtcomes : q.outcomes = r.outcomes)
    (hx : ∀ x ∈ r.monitor.checkErrands c order, x.Unhindered) :
    let r' := order.foldl (TickResult.addCheck c) r
    let q' := order.foldl (TickResult.addCheck c) q
    r'.monitor.Shadow q'.monitor ∧ q'.outcomes = r'.outcomes ∧
      q.monitor.checkErrands c order = (r.monitor.checkErrands c order).map Errand.unlimited := by
  induction order generalizing r q with
  | nil => exact ⟨h, houtcomes, rfl⟩
  | cons e rest ih =>
    rw [checkErrands] at hx
    obtain ⟨hshadow, ho⟩ := h.check (v := e.2) fun x hxe => hx x (List.mem_append_left _ (Option.mem_toList.2 hxe))
    obtain ⟨hend, hos, herrands⟩ := ih (r := r.addCheck c e) (q := q.addCheck c e) hshadow
      (by simp only [TickResult.addCheck, houtcomes, ho]) fun x hxr => hx x (List.mem_append_right _ hxr)
    refine ⟨hend, hos, ?_⟩
    rw [checkErrands, checkErrands, List.map_append, h.checkErrand?]
    refine congrArg₂ (· ++ ·) ?_ herrands
    cases r.monitor.checkErrand? (c.check e.1) e.1 <;> rfl

theorem Shadow.reports {c : ReportConditions} {names : List String} {r q : ReportsResult}
    (h : r.monitor.Shadow q.monitor) (hx : ∀ x ∈ r.monitor.reportErrands c names, x.Unhindered) :
    (names.foldl (Monitor.report c) r).monitor.Shadow (names.foldl (Monitor.report c) q).monitor ∧
      q.monitor.reportErrands c names = (r.monitor.reportErrands c names).map Errand.unlimited := by
  induction names generalizing r q with
  | nil => exact ⟨h, rfl⟩
  | cons name rest ih =>
    rw [reportErrands, monitor_report] at hx
    have hshadow := h.report fun x hxe => hx x (List.mem_append_left _ (Option.mem_toList.2 hxe))
    obtain ⟨hend, herrands⟩ := ih hshadow fun x hxr => hx x (List.mem_append_right _ hxr)
    refine ⟨hend, ?_⟩
    rw [reportErrands, reportErrands, monitor_report, monitor_report, List.map_append, h.reportErrand?]
    refine congrArg₂ (· ++ ·) ?_ herrands
    cases r.monitor.reportErrand? c name <;> rfl

/-- An act that no bucket hinders looks the same in the shadow. -/
theorem Shadow.act {a : Act} (h : m.Shadow i) (ha : a.isRestart = false) (hx : m.Unhindered a) :
    (m.after a).Shadow (i.after a) ∧ i.seen? a = m.seen? a := by
  have htold (xs : List Errand) : (xs.map Errand.unlimited).map (fun x => (x.validator, x.events)) =
      xs.map fun x => (x.validator, x.events) := List.map_map ..
  cases a with
  | restart => cases ha
  | tick c =>
    have horder : i.checkOrder c = m.checkOrder c := by rw [checkOrder, checkOrder, h.settings]
    have hchecks : ∀ x ∈ m.checkErrands c (m.checkOrder c), x.Unhindered := hx
    obtain ⟨hend, ho, herrands⟩ := Shadow.checkAll (r := { monitor := m }) (q := { monitor := i }) h rfl hchecks
    have hshadow : (m.tick c).monitor.Shadow (i.tick c).monitor := by
      rw [tick, tick, horder]
      exact ⟨hend.settings, hend.dispatcher, hend.store, hend.states, hend.shutdown⟩
    have houtcomes : (i.tick c).outcomes = (m.tick c).outcomes := by
      rw [tick, tick, horder]
      exact ho
    have hattempts : (i.tick c).attempts = (m.tick c).attempts := by
      rw [attempts_tick, attempts_tick, horder, herrands]
      exact Errand.attempts_unlimited hx
    refine ⟨hshadow, ?_⟩
    simp only [seen?, told, errands, horder, houtcomes, hattempts, hshadow.state?, hshadow.store]
    rw [herrands, htold]
  | reports c =>
    obtain ⟨hend, herrands⟩ := Shadow.reports (r := { monitor := m }) (q := { monitor := i }) h hx
    have hshadow : (m.sendReports c).monitor.Shadow (i.sendReports c).monitor := by
      rw [sendReports, sendReports, h.settings]
      exact hend
    have hattempts : (i.sendReports c).attempts = (m.sendReports c).attempts := by
      rw [attempts_sendReports, attempts_sendReports, h.settings, herrands]
      exact Errand.attempts_unlimited hx
    refine ⟨hshadow, ?_⟩
    simp only [seen?, told, errands, h.settings, hattempts, hshadow.state?, hshadow.store]
    rw [herrands, htold]

/-- A restart does not show in the shadow. -/
theorem Shadow.restart {buckets : Buckets} (h : m.Shadow i) (hs : m.Sound settings)
    (hsaved : m.AllSaved (.restart now buckets)) : (m.after (.restart now buckets)).Shadow i where
  settings := h.settings
  dispatcher := h.dispatcher.trans Dispatcher.unlimited_fitted.symm
  store := h.store
  states name := (h.states name).trans (hs.states_restart hsaved).symm
  shutdown := h.shutdown

/-! ## Whole runs -/

/-- A run that no bucket hinders looks as that of its shadow without the
restarts. -/
theorem seenIn_shadow (h : m.Shadow i) (hs : m.Sound settings) (hapart : settings.KeptApart)
    (hclock : ∀ a ∈ acts, Instant.InYears a.now.date.year) (hsaved : m.Always AllSaved acts)
    (hx : m.Always Unhindered acts) : m.seenIn acts = i.seenIn (acts.filter fun a => !a.isRestart) := by
  induction acts generalizing m i with
  | nil => rfl
  | cons a rest ih =>
    obtain ⟨hsaved, hsavedRest⟩ := hsaved
    obtain ⟨hx, hxRest⟩ := hx
    have hs' := hs.after (a := a) hapart (hclock a List.mem_cons_self)
    have hclock' : ∀ b ∈ rest, Instant.InYears b.now.date.year := fun b hb => hclock b (List.mem_cons_of_mem _ hb)
    cases ha : a.isRestart with
    | true =>
      cases a with
      | restart now buckets => exact ih (h.restart hs hsaved) hs' hclock' hsavedRest hxRest
      | tick | reports => cases ha
    | false =>
      obtain ⟨h', hseen⟩ := h.act ha hx
      rw [List.filter_cons_of_pos (by rw [ha]; rfl), seenIn, seenIn, hseen, ih h' hs' hclock' hsavedRest hxRest]

/-- Without restarts there is nothing to be saved for. -/
theorem always_allSaved (h : ∀ a ∈ acts, a.isRestart = false) (m : Monitor) : m.Always AllSaved acts := by
  induction acts generalizing m with
  | nil => trivial
  | cons a rest ih =>
    refine ⟨fun ha => ?_, ih (fun b hb => h b (List.mem_cons_of_mem _ hb)) _⟩
    rw [h a List.mem_cons_self] at ha
    cases ha

end Monitor

/-- A state that was saved is loaded. And in a run of ticks and rounds of
reports restarts change nothing of what is seen, if at each of them the last
save of every validator has succeeded, no two validators share a state file,
and no bucket keeps an event from a channel, in this run and in the run
without restarts. -/
theorem restarts_change_nothing :
    (∀ (s : StateStore) (trouble : Option SaveTrouble) (now : Instant) (name : String) (state : State),
      state.Storable → Instant.InYears now.date.year → (s.save trouble now name state).1 = .ok () →
        (s.save trouble now name state).2.load name = .ok (some state)) ∧
    ∀ (settings : Settings) (d : Dispatcher) (store : StateStore) (history : HistoryAccess) (started : Instant)
      (acts : List Act),
      settings.KeptApart → (∀ a ∈ acts, Instant.InYears a.now.date.year) →
      let m := Monitor.start settings d store history started
      let unbroken := acts.filter fun a => !a.isRestart
      m.Always Monitor.AllSaved acts → m.Always Monitor.Unhindered acts → m.Always Monitor.Unhindered unbroken →
      m.seenIn acts = m.seenIn unbroken := by
  refine ⟨fun s trouble now name state hstate hnow hok => StateStore.load_save hstate hnow hok, ?_⟩
  intro settings d store history started acts hapart hclock m unbroken hsaved hx hx'
  have hsound := Monitor.sound_start settings d store history started
  have hshadow := Monitor.shadow_unlimited m
  have hnone : ∀ a ∈ unbroken, a.isRestart = false := fun a ha => by simpa using (List.mem_filter.1 ha).2
  have hclock' : ∀ a ∈ unbroken, Instant.InYears a.now.date.year := fun a ha => hclock a (List.mem_filter.1 ha).1
  have hwhole := Monitor.seenIn_shadow hshadow hsound hapart hclock' (Monitor.always_allSaved hnone m) hx'
  rw [Monitor.seenIn_shadow hshadow hsound hapart hclock hsaved hx, hwhole, List.filter_filter]
  simp only [Bool.and_self]

/-! ## A restart amid an outage -/

/-- Settings with one validator, which counts as down after one failed check. -/
def impatient : Settings where
  alertThreshold := 1
  validators := .insert .empty "v" { host := "h", publicKey := "" }

/-- A limited channel that does not take its first message. -/
def reluctant : Dispatcher where
  lines := ⟨some ⟨fun n _ => if n = 0 then .error (.timeout "telegram") else .ok (),
    some (.perMinute 10 StateStore.epoch), 0⟩, none, none⟩
  cooldown := .ofSeconds 300
  emergencyCooldown := .ofSeconds 1800

/-- A monitor with nothing saved yet. -/
def unacquainted : Monitor :=
  .start impatient reluctant StateStore.unused .unavailable StateStore.epoch

/-- A tick on which no probe ends in time. -/
def silentTick (minute : Int) : Act :=
  .tick { now := .ofNanos (minute * 60000000000), probe := fun _ => .silent }

/-- A tick on which every node is found to be at a new height. -/
def livelyTick (minute : Int) : Act :=
  .tick
    { now := .ofNanos (minute * 60000000000)
      probe := fun _ => .answered
        { node := .ok { height := some minute.toNat }, resources := none, rpc := none, primary := none, secondary := none
          collectedAt := .ofNanos (minute * 60000000000) } }

/-- A restart with full buckets. -/
def freshStart (minute : Int) : Act :=
  .restart (.ofNanos (minute * 60000000000)) (.ofFn fun _ => some (.perMinute 10 (.ofNanos (minute * 60000000000))))

/-- An alert that waits across a restart is told as it would be without it. -/
theorem alert_waits_across_restart :
    ((StateStore.unused.save none StateStore.epoch "v" (.fresh StateStore.epoch)).2.load "v" =
      .ok (some (.fresh StateStore.epoch))) ∧
    ((unacquainted.after (silentTick 0)).state? "v").map (·.ledger.pending.length) = some 1 ∧
    unacquainted.seenIn [silentTick 0, freshStart 1, silentTick 2, livelyTick 3] =
      unacquainted.seenIn [silentTick 0, silentTick 2, livelyTick 3] := by
  have hapart : impatient.KeptApart := by unfold Settings.KeptApart; decide +kernel
  let m := unacquainted.after (silentTick 0)
  have hold : m.states = NameMap.insert .empty "v" (m.state? "v") := rfl
  have hstorable : ∀ s ∈ m.state? "v", s.Storable := by decide +kernel
  have hsaved : m.AllSaved (freshStart 1) := by
    refine fun _ => ⟨by decide +kernel, fun name s hs => ?_⟩
    rw [Monitor.state?, hold, NameMap.get?_insert] at hs
    split at hs
    · exact hstorable s hs
    · cases hs
  -- The restarted monitor is computed with the states of the old one, not from the file.
  have hnew : (m.after (freshStart 1)).states = m.states := by
    have hsound : m.Sound impatient := (Monitor.sound_start ..).after hapart (by decide +kernel)
    have hrestore : m.store.restore "v" = m.state? "v" :=
      hsound.stored "v" _ (by decide +kernel) (by decide +kernel) hstorable
    have hstates : (m.after (freshStart 1)).states = NameMap.insert .empty "v" (m.store.restore "v") := rfl
    rw [hstates, hrestore, hold]
  have hafter : (m.after (freshStart 1)).Always Monitor.Unhindered [silentTick 2, livelyTick 3] := by
    have hsame : m.after (freshStart 1) = { m.after (freshStart 1) with states := m.states } := by rw [← hnew]
    rw [hsame]
    decide +kernel
  refine ⟨?_, by decide +kernel, ?_⟩
  · exact restarts_change_nothing.1 StateStore.unused none StateStore.epoch "v" (.fresh StateStore.epoch)
      (by decide +kernel) (by decide) (StateStore.save_eq_ok_iff.2 rfl)
  · exact restarts_change_nothing.2 impatient reluctant StateStore.unused .unavailable StateStore.epoch
      [silentTick 0, freshStart 1, silentTick 2, livelyTick 3] hapart (by decide +kernel)
      ⟨fun h => absurd h (by decide), hsaved, fun h => absurd h (by decide), fun h => absurd h (by decide), trivial⟩
      ⟨by decide +kernel, by decide +kernel, hafter⟩ (by decide +kernel)

end ValidatorWatch
