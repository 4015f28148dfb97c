import ValidatorWatch.Proofs.Monitor.Interleaving
import ValidatorWatch.Proofs.Monitor.Order
/-!
# Checks side by side

The checks of a tick are under way at the same time. A check evaluates what its
probe found and tells of it, saves, shows whether all states are on disk, adds
to the history, and shows and keeps its state: a `Stage` is how far it has come,
and between two of its steps any other check may take some of its own. A tick
ends when all its checks have. To take them one after another, as `Monitor.tick`
does, is one way of many (`Monitor.tickAlong?_serial`).

A check holds the lock of its validator from its first step on, so nobody sees
what is kept of it in between. At every moment memory and files are in order, if
what a check has saved counts as kept (`RunningTick.memory`). The snapshot tells
of the saves up to the one whose outcome was shown last, which need not be the
last one. `memory_snapshot_disk_agree` has both for any undertakings, and
`overtaken_in_tick` is a tick after which the snapshot is wrong.
-/

namespace ValidatorWatch

open Time (Instant)

/-- How far a check has come. -/
inductive Stage where
  | probing
  | told (x : Errand)
  | saved (x : Errand) (allSaved : Bool)
  | flagged (x : Errand)
  | recorded (x : Errand)

/-- A check that is under way. -/
structure CheckTask where
  entry : ValidatorEntry
  stage : Stage := .probing

/-- A tick that is under way: what its checks came to so far, and those that are
not at their end. -/
structure RunningTick where
  result : TickResult
  tasks : NameMap CheckTask

/-- Shows and keeps a state. -/
def Monitor.adopt (m : Monitor) (name : String) (v : ValidatorEntry) (s : State) : Monitor :=
  { m.setView name (.ofState v.network.name v.host s) with states := m.states.insert name (some s) }

namespace RunningTick

/-- The monitor. -/
def monitor (u : RunningTick) : Monitor :=
  u.result.monitor

/-- A check goes on to a stage. -/
def goOn (u : RunningTick) (name : String) (task : CheckTask) (stage : Stage) (m : Monitor)
    (attempts : List Attempt := []) : RunningTick where
  result := { u.result with monitor := m, attempts := u.result.attempts ++ attempts }
  tasks := u.tasks.insert name { task with stage := stage }

/-- A check comes to its end. -/
def finish (u : RunningTick) (name : String) (outcome : CheckOutcome) (m : Monitor) : RunningTick where
  result := { u.result with monitor := m, outcomes := u.result.outcomes ++ [(name, outcome)] }
  tasks := u.tasks.erase name

/-- The check of a validator takes a step. To tell its events is one step, as
nothing but what is left in the buckets depends on what others tell meanwhile. -/
def step (c : TickConditions) (u : RunningTick) (name : String) : RunningTick :=
  let m := u.monitor
  match u.tasks.get? name with
  | none => u
  | some task =>
    match task.stage with
    | .probing =>
      match m.checkErrand? (c.check name) name with
      | some x =>
        let sent := x.telling.sent
        u.goOn name task (.told x) { m with dispatcher := sent.dispatcher } sent.attempts
      | none =>
        let signalled := (m.states.get? name).isSome && (c.probe name).isShutdown
        u.finish name (m.givenUp (c.check name) name) { m with shutdown := m.shutdown || signalled }
    | .told x => u.goOn name task (.saved x (m.save x.save).unsaved.isEmpty) (m.save x.save)
    | .saved x allSaved => u.goOn name task (.flagged x) (m.writeFlag allSaved)
    | .flagged x =>
      u.goOn name task (.recorded x) (m.recordHistory (c.historyFails name) c.now name x.telling.state)
    | .recorded x =>
      let t := x.telling
      u.finish name (.completed t.state.verdict x.events.length t.sent.report.delivered.length)
        (m.adopt name task.entry t.state)

/-- The checks take steps, each when it is their turn. -/
def run (c : TickConditions) (u : RunningTick) (turns : List String) : RunningTick :=
  turns.foldl (step c) u

/-- What a step adds to the log of the saves. -/
def logged (u : RunningTick) (l : SaveLog) (name : String) : SaveLog :=
  match (u.tasks.get? name).map CheckTask.stage with
  | some (.told x) => l.attempt (u.monitor.store.tried x.save)
  | some (.saved _ _) => l.reveal name
  | _ => l

/-- The log of the saves after some steps. -/
def loggedAlong (c : TickConditions) (u : RunningTick) (l : SaveLog) : List String → SaveLog
  | [] => l
  | name :: rest => (u.step c name).loggedAlong c (u.logged l name) rest

end RunningTick

namespace Monitor

/-- All checks of a tick begin. -/
def beginTick (m : Monitor) : RunningTick where
  result := { monitor := m }
  tasks := (m.settings.validators.filter fun _ v => v.enabled).map fun _ v => { entry := v }

/-- A tick whose checks take turns, if that brings all of them to their end. -/
def tickAlong? (m : Monitor) (c : TickConditions) (turns : List String) : Option TickResult :=
  let u := m.beginTick.run c turns
  if u.tasks.isEmpty then some { u.result with monitor := (u.monitor.showNetworks c).endTick c.now } else none

end Monitor

/-! ## A step -/

/-- The state that a check has saved and is still to keep. -/
def CheckTask.late? (t : CheckTask) : Option State :=
  match t.stage with
  | .probing | .told _ => none
  | .saved x _ | .flagged x | .recorded x => some x.telling.state

/-- What holds of a check: it is one of an enabled validator, what it is to save
will fit, and what it found at its save is whether any had failed until then. -/
structure CheckTask.Sound (settings : Settings) (l : SaveLog) (name : String) (t : CheckTask) : Prop where
  entry : settings.validators.get? name = some t.entry
  enabled : t.entry.enabled = true
  told : ∀ x, t.stage = .told x → x.validator = name ∧ Instant.InYears x.now.date.year ∧
    (l.Fits name → x.telling.state.Within (l.bound + 16))
  saved : ∀ x allSaved, t.stage = .saved x allSaved → (allSaved = true ↔ NoneFailed (SaveLog.knownTo name l.events))

namespace Memory

variable {settings : Settings} {a b : Memory} {late late' : String → Option (ValidatorEntry × State)}
  {name : String} {v : ValidatorEntry} {s : State}

/-- The memory once some states are held and shown. -/
def landed (a : Memory) (late : String → Option (ValidatorEntry × State)) : Memory where
  tracks := a.tracks
  held? name := ((late name).map Prod.snd).or (a.held? name)
  shown? name := ((late name).map fun e => .ofState e.1.network.name e.1.host e.2).or (a.shown? name)
  unsaved := a.unsaved

@[simp] theorem held?_landed : (a.landed late).held? name = ((late name).map Prod.snd).or (a.held? name) := rfl

@[simp] theorem shown?_landed : (a.landed late).shown? name =
    ((late name).map fun e => .ofState e.1.network.name e.1.host e.2).or (a.shown? name) := rfl

/-- A save whose state is late, where none of its validator was, keeps it. -/
theorem keeps_landed {c : StateStore.Save} {saved : Bool} (hentry : settings.validators.get? c.validator = some v)
    (henabled : v.enabled = true) (htracked : a.tracks c.validator = true)
    (hb : b = { a with unsaved := a.unsaved.note c.validator saved })
    (hlate : ∀ name, late' name = if c.validator = name then some (v, c.state) else late name) :
    (a.landed late).Keeps settings c saved (b.landed late') := by
  subst hb
  constructor
  case tracked => exact htracked
  case tracks => exact fun _ => rfl
  case held =>
    intro name
    rw [held?_landed, hlate, held?_landed]
    split <;> rfl
  case unsaved => rfl
  case own =>
    intro w hw _ _
    obtain rfl : v = w := Option.some.inj (hentry.symm.trans hw)
    rw [shown?_landed, hlate, if_pos rfl, Monitor.view_of_enabled henabled]
    rfl
  case others =>
    intro name hne
    rw [shown?_landed, hlate, if_neg hne, shown?_landed]

/-- What was late and is held and shown now makes no difference. -/
theorem landed_insert (htracks : b.tracks = a.tracks) (hunsaved : b.unsaved = a.unsaved)
    (hheld : ∀ other, b.held? other = if name = other then some s else a.held? other)
    (hshown : ∀ other, b.shown? other =
      if name = other then some (.ofState v.network.name v.host s) else a.shown? other)
    (hlate : late name = some (v, s)) (hlate' : ∀ other, late' other = if name = other then none else late other) :
    b.landed late' = a.landed late := by
  ext1
  case tracks => exact htracks
  case unsaved => exact hunsaved
  case held? =>
    funext other
    rw [held?_landed, held?_landed, hheld, hlate']
    split
    next hname => rw [← hname, hlate]; rfl
    next => rfl
  case shown? =>
    funext other
    rw [shown?_landed, shown?_landed, hshown, hlate']
    split
    next hname => rw [← hname, hlate]; rfl
    next => rfl

end Memory

namespace RunningTick

variable {settings : Settings} {c : TickConditions} {u : RunningTick} {l l' : SaveLog} {name : String}
  {task : CheckTask} {stage : Stage} {m : Monitor} {attempts : List Attempt} {x : Errand} {v : ValidatorEntry}

/-- The state that the check of a validator has saved and is still to keep. -/
def late? (u : RunningTick) (name : String) : Option (ValidatorEntry × State) :=
  (u.tasks.get? name).bind fun t => t.late?.map (t.entry, ·)

/-- What is held and shown of the validators, if what a check has saved counts
as kept. -/
def memory (u : RunningTick) : Memory :=
  u.monitor.memory.landed u.late?

/-- Memory and files are in order, the snapshot tells of the saves that it is to
tell of, and so do the checks. -/
structure Orderly (settings : Settings) (u : RunningTick) (l : SaveLog) : Prop where
  settings_eq : u.monitor.settings = settings
  consistent : Consistent settings u.monitor.store u.memory l
  told : u.monitor.snapshot.persistenceOk = true ↔ NoneFailed l.shown
  tasks : ∀ name t, u.tasks.get? name = some t → t.Sound settings l name

theorem late?_of_get? (h : u.tasks.get? name = some task) : u.late? name = task.late?.map (task.entry, ·) := by
  rw [late?, h, Option.bind_some]

theorem late?_of_probing (htask : u.tasks.get? name = some task) (hstage : task.stage = .probing) :
    u.late? name = none := by
  rw [late?_of_get? htask, CheckTask.late?, hstage]
  rfl

theorem late?_goOn (other : String) : (u.goOn name task stage m attempts).late? other =
    if name = other then ({ task with stage := stage } : CheckTask).late?.map (task.entry, ·) else u.late? other := by
  rw [late?, goOn, NameMap.get?_insert, late?]
  split <;> rfl

theorem late?_finish (outcome : CheckOutcome) (other : String) :
    (u.finish name outcome m).late? other = if name = other then none else u.late? other := by
  rw [late?, finish, NameMap.get?_erase, late?]
  split <;> rfl

/-- A step that leaves alone what the monitor holds and shows, and what the
check has saved and not kept. -/
theorem memory_goOn (htask : u.tasks.get? name = some task)
    (hlate : ({ task with stage := stage } : CheckTask).late? = task.late?) (hm : m.memory = u.monitor.memory) :
    (u.goOn name task stage m attempts).memory = u.memory := by
  have hsame : (u.goOn name task stage m attempts).late? = u.late? := by
    funext other
    rw [late?_goOn, hlate]
    split
    next hname => rw [← hname, late?_of_get? htask]
    next => rfl
  have hmonitor : (u.goOn name task stage m attempts).monitor.memory = u.monitor.memory := hm
  rw [memory, memory, hsame, hmonitor]

/-- A check that has saved nothing yet holds and shows what the monitor does. -/
theorem memory_of_late (h : u.late? name = none) : u.memory.held? name = u.monitor.state? name ∧
    u.memory.shown? name = u.monitor.snapshot.validators.get? name := by
  simp only [memory, Memory.landed, h, Option.map_none, Option.none_or, Monitor.held?_memory, Monitor.shown?_memory,
    and_self]

end RunningTick

/-! ### What others do -/

namespace CheckTask.Sound

variable {settings : Settings} {l : SaveLog} {name other : String} {t : CheckTask}

/-- The save of another validator is nothing to a check. -/
theorem attempt (h : t.Sound settings l name) {s : Tried} (hne : s.validator ≠ name) :
    t.Sound settings (l.attempt s) name where
  entry := h.entry
  enabled := h.enabled
  told x hx := by
    obtain ⟨hname, hyears, hwithin⟩ := h.told x hx
    refine ⟨hname, hyears, fun hfits => ?_⟩
    rw [SaveLog.bound_attempt]
    exact (hwithin (SaveLog.fits_attempt.1 hfits).2).mono (by omega)
  saved x allSaved hx := by
    have hother : (SaveEvent.tried s).triesFor name = false := by simp [SaveEvent.triesFor, SaveEvent.tried?, hne]
    rw [SaveLog.attempt, SaveLog.knownTo_cons_of_not hother]
    exact h.saved x allSaved hx

/-- So is what is shown of it. -/
theorem reveal (h : t.Sound settings l name) (other : String) : t.Sound settings (l.reveal other) name where
  entry := h.entry
  enabled := h.enabled
  told := h.told
  saved x allSaved hx := by
    rw [SaveLog.reveal, SaveLog.knownTo_cons_of_not rfl]
    exact h.saved x allSaved hx

/-- A check that has come further is one of the same validator. -/
theorem goOn (h : t.Sound settings l name) {stage : Stage} {l' : SaveLog}
    (htold : ∀ x, stage = .told x → x.validator = name ∧ Instant.InYears x.now.date.year ∧
      (l'.Fits name → x.telling.state.Within (l'.bound + 16)))
    (hsaved : ∀ x allSaved, stage = .saved x allSaved →
      (allSaved = true ↔ NoneFailed (SaveLog.knownTo name l'.events))) :
    ({ t with stage := stage } : CheckTask).Sound settings l' name :=
  ⟨h.entry, h.enabled, htold, hsaved⟩

end CheckTask.Sound

/-! ### The steps of a check -/

namespace RunningTick

variable {settings : Settings} {c : TickConditions} {u : RunningTick} {l l' : SaveLog} {name : String}
  {task : CheckTask} {stage : Stage} {m : Monitor} {attempts : List Attempt} {x : Errand} {v : ValidatorEntry}

theorem tasks_goOn (hnew : ({ task with stage := stage } : CheckTask).Sound settings l' name)
    (hothers : ∀ other t, name ≠ other → u.tasks.get? other = some t → t.Sound settings l' other) :
    ∀ other t, (u.goOn name task stage m attempts).tasks.get? other = some t → t.Sound settings l' other := by
  intro other t ht
  rw [goOn, NameMap.get?_insert] at ht
  split at ht
  next hname =>
    obtain rfl := Option.some.inj ht
    exact hname ▸ hnew
  next hne => exact hothers other t hne ht

theorem tasks_finish {outcome : CheckOutcome} (h : u.Orderly settings l) :
    ∀ other t, (u.finish name outcome m).tasks.get? other = some t → t.Sound settings l other := by
  intro other t ht
  rw [finish, NameMap.get?_erase] at ht
  split at ht
  · cases ht
  · exact h.tasks other t ht

theorem Orderly.tracks (h : u.Orderly settings l) (htask : u.tasks.get? name = some task) :
    (u.monitor.states.get? name).isSome = true := by
  obtain ⟨hentry, henabled, -, -⟩ := h.tasks name task htask
  refine (h.consistent.memory.tracked name).trans ?_
  rw [Settings.tracks_eq, hentry, Option.any_some, henabled]

/-- The probe ends, and the check tells of what it found. -/
theorem Orderly.tell (h : u.Orderly settings l) (htask : u.tasks.get? name = some task)
    (hstage : task.stage = .probing) (hc : (c.check name).Proper)
    (hx : u.monitor.checkErrand? (c.check name) name = some x) :
    (u.goOn name task (.told x) { u.monitor with dispatcher := x.telling.sent.dispatcher }
      x.telling.sent.attempts).Orderly settings l := by
  have hmemory : (u.goOn name task (.told x) { u.monitor with dispatcher := x.telling.sent.dispatcher }
      x.telling.sent.attempts).memory = u.memory :=
    memory_goOn htask (by rw [CheckTask.late?, CheckTask.late?, hstage]) rfl
  have htold : x.validator = name ∧ x.now = c.now := by
    rcases Monitor.check_of u.monitor (c.check name) name task.entry with ⟨y, hy, hname, hnow, -⟩ | ⟨hy, -⟩ <;>
      rw [hx] at hy
    · obtain rfl := Option.some.inj hy
      exact ⟨hname, hnow⟩
    · cases hy
  refine ⟨h.settings_eq, hmemory ▸ h.consistent, h.told, tasks_goOn ?_ fun other t _ ht => h.tasks other t ht⟩
  refine (h.tasks name task htask).goOn (fun y hy => ?_) (fun y _ hy => by cases hy)
  obtain rfl := Stage.told.inj hy
  refine ⟨htold.1, htold.2 ▸ hc.1, fun hfits => ?_⟩
  refine Monitor.within_checkErrand? hx hc fun s hs => h.consistent.memory.within name s hfits ?_
  rw [(memory_of_late (late?_of_probing htask hstage)).1, hs]

/-- The check is given up. -/
theorem Orderly.giveUp (h : u.Orderly settings l) (htask : u.tasks.get? name = some task)
    (hstage : task.stage = .probing) (outcome : CheckOutcome) (off : Bool) :
    (u.finish name outcome { u.monitor with shutdown := off }).Orderly settings l := by
  have hlate : (u.finish name outcome { u.monitor with shutdown := off }).late? = u.late? := by
    funext other
    rw [late?_finish]
    split
    next hname => rw [← hname, late?_of_probing htask hstage]
    next => rfl
  have hmemory : (u.finish name outcome { u.monitor with shutdown := off }).memory = u.memory := by
    rw [memory, hlate]
    rfl
  exact ⟨h.settings_eq, hmemory ▸ h.consistent, h.told, tasks_finish h⟩

/-- The check saves. What it saved is late from here on. -/
theorem Orderly.save (h : u.Orderly settings l) (hapart : settings.FilesApart)
    (htask : u.tasks.get? name = some task) (hstage : task.stage = .told x) :
    (u.goOn name task (.saved x (u.monitor.save x.save).unsaved.isEmpty) (u.monitor.save x.save)).Orderly settings
      (l.attempt (u.monitor.store.tried x.save)) := by
  have htaskSound := h.tasks name task htask
  obtain ⟨rfl, hyears, hwithin⟩ := htaskSound.told x hstage
  have hkeeps : u.memory.Keeps settings x.save (u.monitor.store.perform x.save).1.isOk
      (u.goOn x.validator task (.saved x (u.monitor.save x.save).unsaved.isEmpty) (u.monitor.save x.save)).memory :=
    Memory.keeps_landed htaskSound.entry htaskSound.enabled (h.tracks htask) rfl late?_goOn
  have hkept := h.consistent.keeps hapart hkeeps hyears hwithin
  refine ⟨h.settings_eq, hkept, h.told, tasks_goOn ?_ fun other t hne ht => (h.tasks other t ht).attempt hne⟩
  refine htaskSound.goOn (fun y hy => by cases hy) fun y allSaved hy => ?_
  obtain ⟨rfl, rfl⟩ := Stage.saved.inj hy
  -- The try is the latest event, so it knew of all.
  have hknown : SaveLog.knownTo x.validator (l.attempt (u.monitor.store.tried x.save)).events =
      (l.attempt (u.monitor.store.tried x.save)).here :=
    SaveLog.knownTo_of_head fun t ht => Option.some.inj ht ▸ rfl
  rw [hknown]
  exact hkept.memory.isEmpty_iff

/-- The check shows what it found at its save. -/
theorem Orderly.writeFlag {allSaved : Bool} (h : u.Orderly settings l) (htask : u.tasks.get? name = some task)
    (hstage : task.stage = .saved x allSaved) :
    (u.goOn name task (.flagged x) (u.monitor.writeFlag allSaved)).Orderly settings (l.reveal name) := by
  have hmemory : (u.goOn name task (.flagged x) (u.monitor.writeFlag allSaved)).memory = u.memory :=
    memory_goOn htask (by rw [CheckTask.late?, CheckTask.late?, hstage]) rfl
  have htaskSound := h.tasks name task htask
  refine ⟨h.settings_eq, (hmemory ▸ h.consistent).reveal name, htaskSound.saved x allSaved hstage, tasks_goOn ?_ ?_⟩
  · exact htaskSound.goOn (fun y hy => by cases hy) (fun y _ hy => by cases hy)
  · exact fun other t _ ht => (h.tasks other t ht).reveal name

/-- The check adds to the history. -/
theorem Orderly.record (h : u.Orderly settings l) (htask : u.tasks.get? name = some task)
    (hstage : task.stage = .flagged x) (fails : Bool) (now : Instant) :
    (u.goOn name task (.recorded x) (u.monitor.recordHistory fails now name x.telling.state)).Orderly settings l := by
  rw [Monitor.recordHistory_eq]
  have hmemory : (u.goOn name task (.recorded x) { u.monitor with
      history := u.monitor.history.add fails (.ofState name x.telling.state
        (x.telling.state.lastObservation.getD now)) }).memory = u.memory :=
    memory_goOn htask (by rw [CheckTask.late?, CheckTask.late?, hstage]) rfl
  refine ⟨h.settings_eq, hmemory ▸ h.consistent, h.told, tasks_goOn ?_ fun other t _ ht => h.tasks other t ht⟩
  exact (h.tasks name task htask).goOn (fun y hy => by cases hy) (fun y _ hy => by cases hy)

/-- The check shows and keeps its state, and is at its end. -/
theorem Orderly.keep (h : u.Orderly settings l) (htask : u.tasks.get? name = some task)
    (hstage : task.stage = .recorded x) (outcome : CheckOutcome) :
    (u.finish name outcome (u.monitor.adopt name task.entry x.telling.state)).Orderly settings l := by
  have hlate : u.late? name = some (task.entry, x.telling.state) := by
    rw [late?_of_get? htask, CheckTask.late?, hstage]
    rfl
  have hmemory : (u.finish name outcome (u.monitor.adopt name task.entry x.telling.state)).memory = u.memory := by
    let m := u.monitor.adopt name task.entry x.telling.state
    have hstates : m.states = u.monitor.states.insert name (some x.telling.state) := rfl
    obtain ⟨htracks, hheld⟩ := Monitor.memory_insert (h.tracks htask) hstates
    exact Memory.landed_insert (funext htracks) rfl hheld (NameMap.get?_insert _ _ _) hlate (late?_finish outcome)
  exact ⟨h.settings_eq, hmemory ▸ h.consistent, h.told, tasks_finish h⟩

/-- A step of any check leaves all in order. -/
theorem Orderly.step (h : u.Orderly settings l) (hapart : settings.FilesApart) (hc : ∀ name, (c.check name).Proper)
    (name : String) : (u.step c name).Orderly settings (u.logged l name) := by
  rw [RunningTick.step, logged]
  cases htask : u.tasks.get? name with
  | none => exact h
  | some task =>
    rw [Option.map_some]
    dsimp only
    cases hstage : task.stage with
    | probing =>
      dsimp only
      cases hx : u.monitor.checkErrand? (c.check name) name with
      | some x => exact h.tell htask hstage (hc name) hx
      | none => exact h.giveUp htask hstage _ _
    | told x => exact h.save hapart htask hstage
    | saved x allSaved => exact h.writeFlag htask hstage
    | flagged x => exact h.record htask hstage _ _
    | recorded x => exact h.keep htask hstage _

/-- So do steps in any order. -/
theorem Orderly.run (h : u.Orderly settings l) (hapart : settings.FilesApart) (hc : ∀ name, (c.check name).Proper)
    (turns : List String) : (u.run c turns).Orderly settings (u.loggedAlong c l turns) := by
  induction turns generalizing u l with
  | nil => exact h
  | cons name rest ih => exact ih (h.step hapart hc name)

end RunningTick

/-! ## One check after another -/

namespace RunningTick

variable {c : TickConditions} {u : RunningTick} {l : SaveLog} {name : String} {task : CheckTask} {x : Errand}
  {v : ValidatorEntry}

theorem step_of_none (h : u.tasks.get? name = none) : u.step c name = u := by
  rw [step, h]

/-- The first step of a check that tells of something. -/
theorem step_of_errand (h : u.tasks.get? name = some { entry := v })
    (hx : u.monitor.checkErrand? (c.check name) name = some x) :
    u.step c name = u.goOn name { entry := v } (.told x)
      { u.monitor with dispatcher := x.telling.sent.dispatcher } x.telling.sent.attempts := by
  rw [step, h]
  simp only [hx]

/-- The only step of a check that is given up. -/
theorem step_of_given_up (h : u.tasks.get? name = some { entry := v })
    (hx : u.monitor.checkErrand? (c.check name) name = none) :
    u.step c name = ⟨u.result.addCheck c (name, v), u.tasks.erase name⟩ := by
  rcases Monitor.check_of u.monitor (c.check name) name v with ⟨x, hx', -⟩ | ⟨-, hr⟩
  · rw [hx] at hx'
    cases hx'
  · have hcheck : u.result.monitor.check (c.check name) name v = _ := hr
    rw [step, h]
    simp only [hx, TickResult.addCheck, hcheck, finish, List.append_nil]
    rfl

theorem run_of_none (h : u.tasks.get? name = none) (n : Nat) : u.run c (List.replicate n name) = u := by
  induction n with
  | zero => rfl
  | succ n ih => rw [List.replicate_succ, run, List.foldl_cons, step_of_none h]; exact ih

theorem get?_goOn {stage : Stage} {m : Monitor} {attempts : List Attempt} :
    (u.goOn name task stage m attempts).tasks.get? name = some { task with stage := stage } :=
  NameMap.get?_insert_self ..

theorem erase_goOn {stage : Stage} {m : Monitor} {attempts : List Attempt} :
    (u.goOn name task stage m attempts).tasks.erase name = u.tasks.erase name := by
  ext1 other
  rw [goOn, NameMap.get?_erase, NameMap.get?_insert, NameMap.get?_erase]
  split <;> rfl

theorem monitor_goOn {stage : Stage} {m : Monitor} {attempts : List Attempt} :
    (u.goOn name task stage m attempts).monitor = m := rfl

theorem save_checkErrand? {m : Monitor} {c : CheckConditions} (hx : m.checkErrand? c name = some x) :
    x.save = ⟨c.saveTrouble, c.now, name, x.telling.state⟩ := by
  unfold Monitor.checkErrand? at hx
  split at hx
  · obtain rfl := Option.some.inj hx
    rfl
  · cases hx

/-- The steps after the dispatch keep a state as a check does. -/
theorem adopt_eq_keep (m : Monitor) (c : CheckConditions) (name : String) (v : ValidatorEntry) (s : State) :
    ((m.persist c.saveTrouble c.now name s).recordHistory c.historyFails c.now name s).adopt name v s =
      m.keep c name v s := by
  rw [Monitor.recordHistory_eq, Monitor.persist_eq]
  rfl

/-- A check whose events are told comes to its end, as with no other between. -/
theorem run_of_told (h : u.tasks.get? name = some ⟨v, .told x⟩) :
    u.run c (List.replicate 4 name) =
      ⟨{ monitor := ((u.monitor.persist x.save.trouble x.save.now x.save.validator x.save.state).recordHistory
            (c.historyFails name) c.now name x.telling.state).adopt name v x.telling.state
         outcomes := u.result.outcomes ++
            [(name, .completed x.telling.state.verdict x.events.length x.telling.sent.report.delivered.length)]
         attempts := u.result.attempts },
        u.tasks.erase name⟩ := by
  have hsave : u.step c name =
      u.goOn name ⟨v, .told x⟩ (.saved x (u.monitor.save x.save).unsaved.isEmpty) (u.monitor.save x.save) := by
    rw [step, h]
  simp only [run, List.replicate, List.foldl_cons, List.foldl_nil, hsave]
  simp only [step, get?_goOn, monitor_goOn, finish, erase_goOn]
  simp only [goOn, List.append_nil, Monitor.persist_eq_steps]

/-- A check that takes all its steps with no other between them is a check of the
monitor. -/
theorem run_check (h : u.tasks.get? name = some { entry := v }) :
    u.run c (List.replicate 5 name) = ⟨u.result.addCheck c (name, v), u.tasks.erase name⟩ := by
  rw [List.replicate_succ, run, List.foldl_cons]
  cases hx : u.monitor.checkErrand? (c.check name) name with
  | none =>
    rw [step_of_given_up h hx]
    exact run_of_none (NameMap.get?_erase_self _ _) 4
  | some x =>
    have hstep := step_of_errand h hx
    have htold : (u.step c name).tasks.get? name = some ⟨v, .told x⟩ := by
      rw [hstep]
      exact get?_goOn
    refine (run_of_told htold).trans ?_
    rw [hstep, erase_goOn, monitor_goOn]
    refine congrArg (RunningTick.mk · (u.tasks.erase name)) ?_
    -- Both keep the same state after the same dispatch.
    have hkept : (u.result.monitor.check (c.check name) name v).monitor = _ := Monitor.monitor_check v hx
    rcases Monitor.check_of u.monitor (c.check name) name v with ⟨y, hy, -, -, -, -, hattempts, houtcome⟩ | ⟨hx', -⟩
    · rw [hx] at hy
      obtain rfl := Option.some.inj hy
      have hattempts : (u.result.monitor.check (c.check name) name v).attempts = _ := hattempts
      have houtcome : (u.result.monitor.check (c.check name) name v).outcome = _ := houtcome
      simp only [TickResult.addCheck, hkept, hattempts, houtcome, save_checkErrand? hx]
      refine congrArg (TickResult.mk · _ _) ?_
      exact adopt_eq_keep _ (c.check name) name v x.telling.state
    · rw [hx] at hx'
      cases hx'

theorem logged_of_none (h : u.tasks.get? name = none) : u.logged l name = l := by
  rw [logged, h]
  rfl

theorem loggedAlong_of_none (h : u.tasks.get? name = none) (n : Nat) :
    u.loggedAlong c l (List.replicate n name) = l := by
  induction n with
  | zero => rfl
  | succ n ih => rw [List.replicate_succ, loggedAlong, step_of_none h, logged_of_none h]; exact ih

/-- Such a check saves as one of the monitor does. -/
theorem loggedAlong_check (h : u.tasks.get? name = some { entry := v }) :
    u.loggedAlong c l (List.replicate 5 name) =
      l.note u.monitor.store ((u.monitor.checkErrand? (c.check name) name).toList.map Errand.save) := by
  have hprobing : u.logged l name = l := by
    rw [logged, h]
    rfl
  rw [List.replicate_succ, loggedAlong, hprobing]
  cases hx : u.monitor.checkErrand? (c.check name) name with
  | none =>
    rw [step_of_given_up h hx]
    exact loggedAlong_of_none (NameMap.get?_erase_self _ _) 4
  | some x =>
    have hname : x.save.validator = name := by rw [save_checkErrand? hx]
    rw [step_of_errand h hx]
    simp only [List.replicate, loggedAlong, step, logged, get?_goOn, monitor_goOn, Option.map_some, Option.toList_some,
      List.map_cons, List.map_nil, SaveLog.note, SaveLog.add]
    exact congrArg (l.attempt (u.monitor.store.tried x.save)).reveal hname.symm

theorem run_append (turns more : List String) : u.run c (turns ++ more) = (u.run c turns).run c more :=
  List.foldl_append

theorem loggedAlong_append (turns more : List String) :
    u.loggedAlong c l (turns ++ more) = (u.run c turns).loggedAlong c (u.loggedAlong c l turns) more := by
  induction turns generalizing u l with
  | nil => rfl
  | cons name rest ih => exact ih

/-- Turns in which each of some checks takes all its steps before the next. -/
def serial (order : List (String × ValidatorEntry)) : List String :=
  order.flatMap fun e => List.replicate 5 e.1

/-- One check after another is what the monitor does. -/
theorem run_serial {order : List (String × ValidatorEntry)} (hdistinct : order.Pairwise fun e e' => e.1 ≠ e'.1)
    (h : ∀ e ∈ order, u.tasks.get? e.1 = some { entry := e.2 }) :
    (u.run c (serial order)).result = order.foldl (TickResult.addCheck c) u.result ∧
      (∀ name, (u.run c (serial order)).tasks.get? name =
        if name ∈ order.map Prod.fst then none else u.tasks.get? name) ∧
      u.loggedAlong c l (serial order) =
        l.note u.monitor.store ((u.monitor.checkErrands c order).map Errand.save) := by
  induction order generalizing u l with
  | nil => exact ⟨rfl, fun name => rfl, rfl⟩
  | cons e rest ih =>
    obtain ⟨hne, hdistinct⟩ := List.pairwise_cons.1 hdistinct
    have hfirst := run_check (c := c) (h e List.mem_cons_self)
    have hlog := loggedAlong_check (c := c) (l := l) (h e List.mem_cons_self)
    have hrest : ∀ e' ∈ rest, (u.tasks.erase e.1).get? e'.1 = some { entry := e'.2 } := by
      intro e' he'
      rw [NameMap.get?_erase, if_neg (hne e' he')]
      exact h e' (List.mem_cons_of_mem _ he')
    obtain ⟨hresult, htasks, hlogs⟩ := ih (u := ⟨u.result.addCheck c e, u.tasks.erase e.1⟩)
      (l := l.note u.monitor.store ((u.monitor.checkErrand? (c.check e.1) e.1).toList.map Errand.save)) hdistinct hrest
    have hsplit : serial (e :: rest) = List.replicate 5 e.1 ++ serial rest := List.flatMap_cons
    rw [hsplit, run_append, loggedAlong_append, hfirst, hlog]
    refine ⟨hresult, fun name => ?_, ?_⟩
    · rw [htasks, NameMap.get?_erase]
      grind
    · rw [hlogs, Monitor.checkErrands, List.map_append, SaveLog.note_append, ← Monitor.store_check _ _ _ e.2]
      rfl

end RunningTick

namespace Monitor

theorem get?_beginTick (m : Monitor) (name : String) : m.beginTick.tasks.get? name =
    ((m.settings.validators.filter fun _ v => v.enabled).get? name).map fun v => { entry := v } :=
  NameMap.get?_map ..

/-- A tick that takes its checks one after another is one whose checks take
turns. -/
theorem tickAlong?_serial (m : Monitor) (c : TickConditions) (l : SaveLog) :
    let turns := RunningTick.serial (m.checkOrder c)
    m.tickAlong? c turns = some (m.tick c) ∧ m.beginTick.loggedAlong c l turns = m.logged l (.tick c) := by
  intro turns
  have hperm := checkOrder_perm m c
  have hdistinct : (m.checkOrder c).Pairwise fun e e' => e.1 ≠ e'.1 :=
    (hperm.pairwise_iff fun h => h.symm).2 (pairwise_enabled m.settings)
  have htasks : ∀ e ∈ m.checkOrder c, m.beginTick.tasks.get? e.1 = some { entry := e.2 } := by
    intro e he
    rw [get?_beginTick, NameMap.get?_of_mem (hperm.mem_iff.1 he)]
    rfl
  obtain ⟨hresult, hleft, hlog⟩ := RunningTick.run_serial (c := c) (l := l) hdistinct htasks
  refine ⟨?_, hlog⟩
  have hempty : (m.beginTick.run c turns).tasks.isEmpty = true := by
    rw [NameMap.isEmpty_iff]
    intro name
    rw [hleft]
    split
    next => rfl
    next hnot =>
      rw [get?_beginTick, Option.map_eq_none_iff]
      refine Option.eq_none_iff_forall_ne_some.2 fun v hv => hnot ?_
      exact List.mem_map.2 ⟨(name, v), hperm.mem_iff.2 (NameMap.mem_of_get? hv), rfl⟩
  rw [tickAlong?]
  simp only [hempty, if_true]
  rw [RunningTick.monitor, hresult]
  rfl

end Monitor

/-! ## Whole ticks -/

/-- What a monitor goes through: an operation, in which one check or report comes
after another, or a tick whose checks take turns. -/
inductive Undertaking where
  | whole (op : Operation)
  | tick (c : TickConditions) (turns : List String)

namespace Undertaking

/-- The times and figures can be stored, and a check of a validator is told its
entry. -/
def Proper (s : Settings) : Undertaking → Prop
  | .whole op => op.Proper s
  | .tick c _ => (Operation.tick c).Proper s

/-- Whether it is one check or report after another. -/
def isWhole : Undertaking → Bool
  | .whole _ => true
  | .tick _ _ => false

end Undertaking

namespace Monitor

variable {settings : Settings} {m m' : Monitor} {l l' : SaveLog} {c : TickConditions} {turns : List String}
  {r : TickResult} {one : Undertaking} {all : List Undertaking}

/-- The monitor after an undertaking, and the log of the saves. -/
def undertake? (m : Monitor) (l : SaveLog) : Undertaking → Option (Monitor × SaveLog)
  | .whole op => some (m.operate op, m.logged l op)
  | .tick c turns => (m.tickAlong? c turns).map fun r => (r.monitor, m.beginTick.loggedAlong c l turns)

/-- The monitor after some undertakings, and the log of the saves. -/
def undertakeAll? (m : Monitor) (l : SaveLog) : List Undertaking → Option (Monitor × SaveLog)
  | [] => some (m, l)
  | one :: rest => (m.undertake? l one).bind fun r => r.1.undertakeAll? r.2 rest

theorem Orderly.beginTick (h : m.Orderly settings l) : m.beginTick.Orderly settings l := by
  have hlate (name : String) : m.beginTick.late? name = none := by
    rw [RunningTick.late?, get?_beginTick]
    cases (m.settings.validators.filter fun _ v => v.enabled).get? name <;> rfl
  have hmemory : m.beginTick.memory = m.memory := by
    rw [RunningTick.memory, funext hlate]
    rfl
  refine ⟨h.settings_eq, hmemory ▸ h.consistent, h.told, fun name t ht => ?_⟩
  rw [get?_beginTick, h.settings_eq, NameMap.get?_filter, Option.map_eq_some_iff] at ht
  obtain ⟨v, hv, rfl⟩ := ht
  obtain ⟨hentry, henabled⟩ := Option.filter_eq_some_iff.1 hv
  exact ⟨hentry, henabled, fun _ h => (by cases h), fun _ _ h => (by cases h)⟩

/-- A tick whose checks take turns leaves all in order. -/
theorem Orderly.tickAlong (h : m.Orderly settings l) (hapart : settings.FilesApart)
    (hc : ∀ name, (c.check name).Proper) (hr : m.tickAlong? c turns = some r) :
    r.monitor.Orderly settings (m.beginTick.loggedAlong c l turns) := by
  rw [tickAlong?] at hr
  split at hr
  next hempty =>
    obtain rfl := Option.some.inj hr
    have hrun := h.beginTick.run hapart hc turns
    have hlate (name : String) : (m.beginTick.run c turns).late? name = none := by
      rw [RunningTick.late?, NameMap.get?_of_isEmpty hempty, Option.bind_none]
    have hmemory : (m.beginTick.run c turns).memory = (m.beginTick.run c turns).monitor.memory := by
      rw [RunningTick.memory, funext hlate]
      rfl
    have hend : (m.beginTick.run c turns).monitor.Orderly settings (m.beginTick.loggedAlong c l turns) :=
      ⟨hrun.settings_eq, hmemory ▸ hrun.consistent, hrun.told⟩
    exact hend.endTick c
  next => cases hr

theorem Orderly.undertake (h : m.Orderly settings l) (hapart : settings.FilesApart) (hone : one.Proper settings)
    (hr : m.undertake? l one = some (m', l')) : m'.Orderly settings l' := by
  cases one with
  | whole op =>
    obtain ⟨rfl, rfl⟩ := Prod.mk.inj (Option.some.inj hr)
    exact h.operate hapart hone
  | tick c turns =>
    obtain ⟨r, htick, heq⟩ := Option.map_eq_some_iff.1 hr
    obtain ⟨rfl, rfl⟩ := Prod.mk.inj heq
    exact h.tickAlong hapart hone htick

theorem Orderly.undertakeAll (h : m.Orderly settings l) (hapart : settings.FilesApart)
    (hall : ∀ one ∈ all, one.Proper settings) (hr : m.undertakeAll? l all = some (m', l')) :
    m'.Orderly settings l' := by
  induction all generalizing m l with
  | nil =>
    obtain ⟨rfl, rfl⟩ := Prod.mk.inj (Option.some.inj hr)
    exact h
  | cons one rest ih =>
    obtain ⟨⟨n, k⟩, hone, hrest⟩ := Option.bind_eq_some_iff.1 hr
    exact ih (h.undertake hapart (hall one List.mem_cons_self) hone)
      (fun one' hone' => hall one' (List.mem_cons_of_mem _ hone')) hrest

/-- While one check or report comes after another, the last save was also the
last to be shown. -/
theorem inOrder_undertakeAll (h : l.InOrder) (hall : ∀ one ∈ all, one.isWhole = true)
    (hr : m.undertakeAll? l all = some (m', l')) : l'.InOrder := by
  induction all generalizing m l with
  | nil =>
    obtain ⟨rfl, rfl⟩ := Prod.mk.inj (Option.some.inj hr)
    exact h
  | cons one rest ih =>
    obtain ⟨⟨n, k⟩, hone, hrest⟩ := Option.bind_eq_some_iff.1 hr
    refine ih ?_ (fun one' hone' => hall one' (List.mem_cons_of_mem _ hone')) hrest
    cases one with
    | whole op =>
      obtain ⟨rfl, rfl⟩ := Prod.mk.inj (Option.some.inj hone)
      exact h.logged m op
    | tick c turns => cases hall _ List.mem_cons_self

end Monitor

/-- Memory, the entries of the snapshot and disk agree after any undertakings that
begin with an empty state folder, as long as no two validators share a state
file. A file is loaded as the state that was saved, if no counter of the
validator's states had outgrown its bits, and none has before there were 2 ^ 28
saves. The snapshot says that all states are on disk exactly if no validator's
latest save had failed up to the save whose outcome was shown last. So it is
right whenever the last save was the last to be shown, as it is unless checks
save side by side. -/
theorem memory_snapshot_disk_agree (settings : Settings) (d : Dispatcher) (store : StateStore)
    (history : HistoryAccess) (started : Instant) (all : List Undertaking) (m : Monitor) (l : SaveLog)
    (hempty : store.place = .absent ∨ store.place = .folder .empty) (hapart : settings.FilesApart)
    (hall : ∀ one ∈ all, one.Proper settings)
    (hrun : (Monitor.start settings d store history started).undertakeAll? {} all = some (m, l)) :
    m.InAgreement settings l ∧
      (m.snapshot.persistenceOk = true ↔ NoneFailed l.shown) ∧ l.shown <:+ l.here ∧
      (l.InOrder → (m.snapshot.persistenceOk = true ↔ NoneFailed l.here)) ∧
      ((∀ one ∈ all, one.isWhole = true) → l.InOrder) ∧
      (l.all.length < 2 ^ 28 → ∀ name, l.Fits name) := by
  have hdisk : OnDisk settings store {} := onDisk_empty hempty
  have hend := (Monitor.Orderly.start hdisk d history started).undertakeAll hapart hall hrun
  refine ⟨hend.inAgreement, hend.told, l.shown_suffix, fun horder => ?_, fun hwhole => ?_, fun hlength => ?_⟩
  · rw [hend.told, horder.shown_eq]
  · exact Monitor.inOrder_undertakeAll (l := {}) (SaveLog.inOrder_restarted (l := {})) hwhole hrun
  · exact hend.consistent.disk.fits (by rw [SaveLog.bound]; omega)

/-! ## Two saves that overlap -/

/-- Settings with two validators that are checked. -/
def pair : Settings where
  validators :=
    (NameMap.insert .empty "val-1" { host := "h", publicKey := "" }).insert "val-2" { host := "h", publicKey := "" }

/-- A tick on which nobody answers and one of the states cannot be saved. -/
def halfSaved : TickConditions where
  now := StateStore.epoch
  probe _ := .silent
  saveTrouble name := if name = "val-2" then some (.renaming "No space left on device (os error 28)") else none

/-- Both saves are under way when the first of them is shown. -/
def overlapping (shown last : String) : List Undertaking :=
  [.tick halfSaved (["val-1", "val-2", "val-1", "val-2", shown, last] ++ ["val-1", "val-1", "val-2", "val-2"])]

/-- The monitor and the log after that tick. -/
def afterOverlap (shown last : String) : Option (Monitor × SaveLog) :=
  (Monitor.start pair silent StateStore.unused .unavailable StateStore.epoch).undertakeAll? {} (overlapping shown last)

theorem proper_overlapping (shown last : String) : ∀ one ∈ overlapping shown last, one.Proper pair := by
  have hyears : Instant.InYears StateStore.epoch.date.year := by decide
  exact List.forall_mem_singleton.2 fun _ => ⟨hyears, fun b hb => by cases hb⟩

theorem filesApart_pair : pair.FilesApart := by
  unfold Settings.FilesApart
  decide +kernel

/-- Shown in the order in which they saved, the failure shows in the end. -/
theorem overlap_shown_in_order :
    ∃ m l, afterOverlap "val-1" "val-2" = some (m, l) ∧ m.InAgreement pair l ∧ l.InOrder ∧
      m.snapshot.persistenceOk = false ∧ ¬ NoneFailed l.here := by
  have hends : (afterOverlap "val-1" "val-2").map (fun r => (r.1.snapshot.persistenceOk, decide r.2.InOrder)) =
      some (false, true) := by
    decide +kernel
  obtain ⟨⟨m, l⟩, hrun, hflags⟩ := Option.map_eq_some_iff.1 hends
  obtain ⟨hflag, horder⟩ := Prod.mk.inj hflags
  obtain ⟨hagree, -, -, hright, -, -⟩ := memory_snapshot_disk_agree pair silent StateStore.unused .unavailable
    StateStore.epoch (overlapping "val-1" "val-2") m l (.inl rfl) filesApart_pair (proper_overlapping _ _) hrun
  have horder : l.InOrder := of_decide_eq_true horder
  refine ⟨m, l, hrun, hagree, horder, hflag, fun hnone => ?_⟩
  exact Bool.false_ne_true (hflag.symm.trans ((hright horder).2 hnone))

/-- Shown in the other order, it does not: the snapshot says that all states are
on disk. -/
theorem overtaken_in_tick :
    ¬ ∀ (settings : Settings) (d : Dispatcher) (store : StateStore) (history : HistoryAccess) (started : Instant)
      (all : List Undertaking) (m : Monitor) (l : SaveLog), (store.place = .absent ∨ store.place = .folder .empty) →
        settings.FilesApart → (∀ one ∈ all, one.Proper settings) →
        (Monitor.start settings d store history started).undertakeAll? {} all = some (m, l) →
          (m.snapshot.persistenceOk = true ↔ NoneFailed l.here) := by
  intro h
  have hends : (afterOverlap "val-2" "val-1").map (fun r =>
      (r.1.snapshot.persistenceOk, (r.2.latest? "val-2").map Tried.saved)) = some (true, some false) := by
    decide +kernel
  obtain ⟨⟨m, l⟩, hrun, hends⟩ := Option.map_eq_some_iff.1 hends
  obtain ⟨hflag, hfailed⟩ := Prod.mk.inj hends
  obtain ⟨t, ht, hsaved⟩ := Option.map_eq_some_iff.1 hfailed
  have hnone : NoneFailed l.here := (h pair silent StateStore.unused .unavailable StateStore.epoch
    (overlapping "val-2" "val-1") m l (.inl rfl) filesApart_pair (proper_overlapping _ _) hrun).1 hflag
  exact Bool.false_ne_true (hsaved.symm.trans (hnone "val-2" t ht))

end ValidatorWatch
