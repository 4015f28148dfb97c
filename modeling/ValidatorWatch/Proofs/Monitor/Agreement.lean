import ValidatorWatch.Proofs.Evaluation.Bounds
import ValidatorWatch.Proofs.Monitor.Restart
import ValidatorWatch.Proofs.Store.Order
/-!
# Memory, snapshot and disk

The monitor has the state of a validator three times: it holds it, shows it and
has it in a file. A save may fail and a report is not shown, so the three are
changed at different times. `SaveLog` keeps which saves were tried and when
their outcomes were shown, and `Monitor.InAgreement` says what the three have in
common.

The invariant, `Consistent`, has two halves, `OnDisk` and `InMemory`; a restart
keeps the one and makes the other anew from it. Whatever is saved, in a check or
in a report, is saved by a `Memory.Keeps` step. What the snapshot tells of the
saves is apart from that (`Monitor.Orderly`), as it may lag behind them.
-/

namespace ValidatorWatch

open Time (Instant)

/-! ## The saves of a run -/

/-- A save that was tried. -/
structure Tried where
  validator : String
  state : State
  saved : Bool
  deriving DecidableEq

/-- The record of a save on a store. -/
def StateStore.tried (s : StateStore) (c : StateStore.Save) : Tried :=
  ⟨c.validator, c.state, (s.perform c).1.isOk⟩

/-- What happens in a save: it is tried, and then the snapshot shows what was
found. -/
inductive SaveEvent where
  | tried (t : Tried)
  | shown (validator : String)
  deriving DecidableEq

namespace SaveEvent

/-- The save that is tried. -/
def tried? : SaveEvent → Option Tried
  | tried t => some t
  | shown _ => none

/-- Whether a save for this validator is tried. -/
def triesFor (name : String) (e : SaveEvent) : Bool :=
  e.tried?.any fun t => t.validator = name

end SaveEvent

/-- For no validator the latest of these saves has failed; the latest comes
first. -/
def NoneFailed (saves : List Tried) : Prop :=
  ∀ name, ∀ t ∈ saves.find? fun t => t.validator = name, t.saved = true

/-- The saves of a run, the latest first: what happened in this process, and
what was tried in those before it. -/
structure SaveLog where
  events : List SaveEvent := []
  earlier : List Tried := []

namespace SaveLog

/-- The saves that were tried in this process. -/
def here (l : SaveLog) : List Tried :=
  l.events.filterMap SaveEvent.tried?

/-- All saves that were tried. -/
def all (l : SaveLog) : List Tried :=
  l.here ++ l.earlier

/-- A save is tried. -/
def attempt (l : SaveLog) (t : Tried) : SaveLog :=
  { l with events := .tried t :: l.events }

/-- It is shown what was found at the last save for a validator. -/
def reveal (l : SaveLog) (name : String) : SaveLog :=
  { l with events := .shown name :: l.events }

/-- A save is tried and its outcome shown at once. -/
def add (l : SaveLog) (t : Tried) : SaveLog :=
  (l.attempt t).reveal t.validator

/-- Adds the saves that are tried on a store. -/
def note (l : SaveLog) (s : StateStore) : List StateStore.Save → SaveLog
  | [] => l
  | c :: rest => (l.add (s.tried c)).note (s.perform c).2 rest

/-- A new process begins. -/
def restarted (l : SaveLog) : SaveLog :=
  { earlier := l.all }

/-- The latest save for a validator in this process. -/
def latest? (l : SaveLog) (name : String) : Option Tried :=
  l.here.find? fun t => t.validator = name

/-- The state of a validator at its last save that succeeded. -/
def saved? (l : SaveLog) (name : String) : Option State :=
  (l.all.find? fun t => t.validator = name && t.saved).map (·.state)

/-- In no state of the validator that was to be saved a counter had outgrown
its bits. -/
def Fits (l : SaveLog) (name : String) : Prop :=
  ∀ t ∈ l.all, t.validator = name → t.state.Fits

/-- How far the counters of a state may go up with so many saves. -/
def bound (l : SaveLog) : Nat :=
  16 * l.all.length

/-- The saves up to the last one for a validator. -/
def knownTo (name : String) (events : List SaveEvent) : List Tried :=
  (events.dropWhile (!·.triesFor name)).filterMap SaveEvent.tried?

/-- The saves up to the one whose outcome was shown last. -/
def shownOf : List SaveEvent → List Tried
  | [] => []
  | .tried _ :: before => shownOf before
  | .shown name :: before => knownTo name before

/-- The saves that the snapshot tells of. -/
def shown (l : SaveLog) : List Tried :=
  shownOf l.events

/-- The last save was also the last whose outcome was shown. -/
def InOrder (l : SaveLog) : Prop :=
  ∀ t ∈ l.here.head?, l.events.head? = some (.shown t.validator)

instance (l : SaveLog) : Decidable l.InOrder :=
  inferInstanceAs (Decidable (∀ t ∈ l.here.head?, l.events.head? = some (.shown t.validator)))

variable {l : SaveLog} {t : Tried} {name : String}

theorem bound_attempt : (l.attempt t).bound = l.bound + 16 := rfl

theorem latest?_attempt :
    (l.attempt t).latest? name = if t.validator = name then some t else l.latest? name := by
  have hhere : (l.attempt t).here = t :: l.here := rfl
  rw [latest?, hhere, List.find?_cons, latest?]
  split <;> simp_all

theorem saved?_attempt : (l.attempt t).saved? name =
    if t.validator = name ∧ t.saved = true then some t.state else l.saved? name := by
  have hall : (l.attempt t).all = t :: l.all := rfl
  rw [saved?, hall, List.find?_cons, saved?]
  split <;> simp_all

theorem fits_attempt : (l.attempt t).Fits name ↔ (t.validator = name → t.state.Fits) ∧ l.Fits name :=
  List.forall_mem_cons

theorem mem_of_saved? {s : State} (h : l.saved? name = some s) : ∃ t ∈ l.all, t.validator = name ∧ t.state = s := by
  obtain ⟨t, ht, hs⟩ := Option.map_eq_some_iff.1 h
  have hname := List.find?_some ht
  rw [Bool.and_eq_true, decide_eq_true_eq] at hname
  exact ⟨t, List.mem_of_find?_eq_some ht, hname.1, hs⟩

theorem note_append (s : StateStore) (calls more : List StateStore.Save) :
    l.note s (calls ++ more) = (l.note s calls).note (s.saveAll calls) more := by
  induction calls generalizing l s with
  | nil => rfl
  | cons c rest ih => exact ih (l := l.add (s.tried c)) (s.perform c).2

/-- What was saved last in this process was saved last. -/
theorem saved?_of_latest (h : l.latest? name = some t) (ht : t.saved = true) : l.saved? name = some t.state := by
  have hfirst {here earlier : List Tried} (h : here.find? (fun t => t.validator = name) = some t) :
      (here ++ earlier).find? (fun t => t.validator = name && t.saved) = some t := by
    induction here with
    | nil => cases h
    | cons u rest ih =>
      rw [List.find?_cons] at h
      rw [List.cons_append, List.find?_cons]
      split at h
      next hu =>
        obtain rfl := Option.some.inj h
        rw [hu, ht]
        rfl
      next hu =>
        rw [hu, Bool.false_and]
        exact ih h
  rw [saved?, all, hfirst h, Option.map_some]

/-! ### What is shown of them -/

variable {events : List SaveEvent}

theorem knownTo_suffix (name : String) (events : List SaveEvent) :
    knownTo name events <:+ events.filterMap SaveEvent.tried? :=
  (List.dropWhile_suffix _).filterMap _

/-- The snapshot tells of the saves up to some point. -/
theorem shown_suffix (l : SaveLog) : l.shown <:+ l.here := by
  have hevents (events : List SaveEvent) : shownOf events <:+ events.filterMap SaveEvent.tried? := by
    induction events with
    | nil => exact List.suffix_rfl
    | cons e before ih =>
      cases e with
      | tried t => exact ih.trans (List.suffix_cons t _)
      | shown name => exact knownTo_suffix name before
  exact hevents l.events

theorem knownTo_cons_of_not {e : SaveEvent} (h : e.triesFor name = false) :
    knownTo name (e :: events) = knownTo name events := by
  rw [knownTo, List.dropWhile_cons_of_pos (by rw [h]; rfl), knownTo]

/-- The last save of all, if it is one for this validator, knew of all. -/
theorem knownTo_of_head (h : ∀ t ∈ (events.filterMap SaveEvent.tried?).head?, t.validator = name) :
    knownTo name events = events.filterMap SaveEvent.tried? := by
  induction events with
  | nil => rfl
  | cons e before ih =>
    cases e with
    | tried t =>
      have hname : t.validator = name := h t rfl
      rw [knownTo, List.dropWhile_cons_of_neg (by simp [SaveEvent.triesFor, SaveEvent.tried?, hname])]
    | shown other =>
      rw [knownTo_cons_of_not rfl]
      exact ih h

theorem InOrder.shown_eq (h : l.InOrder) : l.shown = l.here := by
  obtain ⟨events, earlier⟩ := l
  cases events with
  | nil => rfl
  | cons e before =>
    cases e with
    | tried t => cases h t rfl
    | shown name =>
      refine knownTo_of_head fun t ht => ?_
      exact (SaveEvent.shown.inj (Option.some.inj (h t ht))).symm

theorem inOrder_add : (l.add t).InOrder := by
  intro u hu
  obtain rfl : t = u := Option.some.inj hu
  rfl

theorem inOrder_restarted : l.restarted.InOrder := by
  intro t ht
  cases ht

theorem InOrder.note (h : l.InOrder) (s : StateStore) (calls : List StateStore.Save) : (l.note s calls).InOrder := by
  induction calls generalizing l s with
  | nil => exact h
  | cons c rest ih => exact ih inOrder_add _

end SaveLog

/-! ## Operations -/

/-- What a monitor may be told to do. A restart makes a new monitor over the
same settings and files. -/
inductive Operation where
  | tick (c : TickConditions)
  | check (c : CheckConditions) (name : String) (v : ValidatorEntry)
  | reports (c : ReportConditions)
  | restart (now : Instant) (d : Dispatcher) (h : HistoryAccess)

/-- The time and the figures of a check can be stored. -/
def CheckConditions.Proper (c : CheckConditions) : Prop :=
  Instant.InYears c.now.date.year ∧ ∀ b, c.probe = .answered b → b.Storable

namespace Operation

/-- The times and figures can be stored, and a check of a validator is told its
entry. -/
def Proper (s : Settings) : Operation → Prop
  | .tick c => ∀ name, (c.check name).Proper
  | .check c name v => c.Proper ∧ ∀ w, s.validators.get? name = some w → v = w
  | .reports c => Instant.InYears c.now.date.year
  | .restart .. => True

end Operation

namespace Monitor

/-- The monitor after an operation. -/
def operate (m : Monitor) : Operation → Monitor
  | .tick c => (m.tick c).monitor
  | .check c name v => (m.check c name v).monitor
  | .reports c => (m.sendReports c).monitor
  | .restart now d h => start m.settings d m.store h now

/-- The saves that an operation tries. -/
def saves (m : Monitor) : Operation → List StateStore.Save
  | .tick c => (m.checkErrands c (m.checkOrder c)).map Errand.save
  | .check c name _ => (m.checkErrand? c name).toList.map Errand.save
  | .reports c => (m.reportErrands c (m.settings.enabledValidators.map Prod.fst)).map Errand.save
  | .restart .. => []

/-- The saves that were tried after an operation. -/
def logged (m : Monitor) (l : SaveLog) (op : Operation) : SaveLog :=
  match op with
  | .restart .. => l.restarted
  | op => l.note m.store (m.saves op)

end Monitor

namespace Settings

/-- No two validators share a state file. -/
def FilesApart (s : Settings) : Prop :=
  ∀ a ∈ s.validators.names, ∀ b ∈ s.validators.names, StateStore.fileName a = StateStore.fileName b → a = b

variable {s : Settings} {name : String} {v : ValidatorEntry}

theorem tracks_eq (s : Settings) (name : String) :
    s.tracks name = (s.validators.get? name).any ValidatorEntry.enabled := by
  rw [tracks, NameMap.get?_filter]
  cases s.validators.get? name with
  | none => rfl
  | some v => cases h : v.enabled <;> simp [h]

theorem mem_names_of_get? (h : s.validators.get? name = some v) : name ∈ s.validators.names := by
  rw [NameMap.mem_names_iff, h]
  rfl

theorem mem_names_of_tracks (h : s.tracks name = true) : name ∈ s.validators.names := by
  rw [tracks_eq, Option.any_eq_true] at h
  obtain ⟨v, hv, -⟩ := h
  exact mem_names_of_get? hv

theorem get?_of_enabled (h : (name, v) ∈ s.enabledValidators) : s.validators.get? name = some v :=
  NameMap.get?_of_mem (List.mem_filter.1 h).1

end Settings

/-! ## One save -/

/-- What is held and shown of the validators, and whose last save has failed. -/
@[ext]
structure Memory where
  tracks : String → Bool
  held? : String → Option State
  shown? : String → Option ValidatorSnapshot
  unsaved : Unsaved

/-- The memory `b` is `a` after a new state of a validator was to be saved. The
new state is shown, unless that would be no change. -/
structure Memory.Keeps (settings : Settings) (a : Memory) (c : StateStore.Save) (saved : Bool) (b : Memory) : Prop where
  tracked : a.tracks c.validator = true
  tracks : ∀ name, b.tracks name = a.tracks name
  held : ∀ name, b.held? name = if c.validator = name then some c.state else a.held? name
  unsaved : b.unsaved = a.unsaved.note c.validator saved
  own : ∀ v, settings.validators.get? c.validator = some v → v.enabled = true →
    a.shown? c.validator = some (v.view (a.held? c.validator)) →
      b.shown? c.validator = some (v.view (some c.state))
  others : ∀ name, c.validator ≠ name → b.shown? name = a.shown? name

namespace Monitor

variable {settings : Settings} {m m' : Monitor} {l : SaveLog} {name : String} {x : Errand}

/-- What a monitor holds and shows. -/
def memory (m : Monitor) : Memory where
  tracks name := (m.states.get? name).isSome
  held? := m.state?
  shown? := m.snapshot.validators.get?
  unsaved := m.unsaved

@[simp] theorem tracks_memory : m.memory.tracks name = (m.states.get? name).isSome := rfl

@[simp] theorem held?_memory : m.memory.held? = m.state? := rfl

@[simp] theorem shown?_memory : m.memory.shown? = m.snapshot.validators.get? := rfl

/-- The monitor `m'` is `m` after a whole save: what it found is shown. -/
structure Keeps (m : Monitor) (c : StateStore.Save) (m' : Monitor) : Prop where
  settings : m'.settings = m.settings
  store : m'.store = (m.store.perform c).2
  memory : m.memory.Keeps m.settings c (m.store.perform c).1.isOk m'.memory
  flags : m'.Flags
  years : Instant.InYears c.now.date.year
  within : ∀ n, (∀ s, m.state? c.validator = some s → s.Within n) → c.state.Within (n + 16)

/-- What is held after a new state of a validator was kept. -/
theorem memory_insert {s : State} (htracked : (m.states.get? name).isSome = true)
    (hstates : m'.states = m.states.insert name (some s)) :
    (∀ other, m'.memory.tracks other = m.memory.tracks other) ∧
      ∀ other, m'.memory.held? other = if name = other then some s else m.memory.held? other := by
  refine ⟨fun other => ?_, fun other => ?_⟩
  · rw [tracks_memory, tracks_memory, hstates, NameMap.get?_insert]
    split
    next hname => rw [← hname, htracked]; rfl
    next => rfl
  · rw [held?_memory, held?_memory, state?, hstates, NameMap.get?_insert, state?]
    split <;> rfl

theorem view_of_enabled {v : ValidatorEntry} (h : v.enabled = true) (s : State) :
    v.view (some s) = .ofState v.network.name v.host s := by
  rw [ValidatorEntry.view, h]
  rfl

theorem within_checkErrand? {c : CheckConditions} {n : Nat} (hx : m.checkErrand? c name = some x) (hc : c.Proper)
    (hstate : ∀ s, m.state? name = some s → s.Within n) : x.telling.state.Within (n + 16) := by
  unfold checkErrand? at hx
  split at hx
  next previous b hget _ hbundle =>
    obtain rfl := Option.some.inj hx
    have hb : b.Storable := by
      cases hp : c.probe with
      | answered b' =>
        rw [hp] at hbundle
        obtain rfl := Option.some.inj hbundle
        exact hc.2 b' hp
      | silent =>
        rw [hp] at hbundle
        obtain rfl := Option.some.inj hbundle
        exact Bundle.storable_timedOut hc.1 _
      | panicked | shutdown => rw [hp] at hbundle; cases hbundle
    rw [state?, hget] at hstate
    exact Watch.within_check (w := ⟨m.dispatcher, previous⟩) hstate hb hc.1 m.settings.rules name
  next => cases hx

/-- A check saves the state of its errand. -/
theorem keeps_check {c : CheckConditions} {v : ValidatorEntry} (hx : m.checkErrand? c name = some x) (hc : c.Proper)
    (hv : ∀ w, m.settings.validators.get? name = some w → v = w) : m.Keeps x.save (m.check c name v).monitor := by
  have hkept := monitor_check v hx
  rcases check_of m c name v with ⟨y, hy, rfl, hnow, htracked, ht, -⟩ | ⟨hy, -⟩ <;> rw [hx] at hy
  · obtain rfl := Option.some.inj hy
    obtain ⟨htracks, hheld⟩ := memory_insert htracked ht.states
    constructor
    case settings => exact ht.settings
    case store => exact ht.store
    case memory =>
      refine ⟨htracked, htracks, hheld, ht.unsaved, ?_, ?_⟩ <;> rw [hkept]
      · intro w hw henabled _
        obtain rfl := hv w hw
        rw [view_of_enabled henabled]
        exact NameMap.get?_insert_self ..
      · exact fun other hne => NameMap.get?_insert_of_ne _ _ hne
    case flags =>
      rw [hkept]
      rfl
    case years =>
      rw [Errand.save, hnow]
      exact hc.1
    case within => exact fun n hn => within_checkErrand? hx hc hn
  · cases hy

/-- A report changes nothing of what is shown of its validator. -/
theorem snapshot_report {c : ReportConditions} {r : ReportsResult} {s : State} (hs : r.monitor.state? name = some s) :
    (report c r name).monitor.snapshot =
      { r.monitor.snapshot with persistenceOk := (report c r name).monitor.unsaved.isEmpty } := by
  rw [report, hs]
  dsimp only
  rw [persist_eq]

/-- A report saves the state of its errand. -/
theorem keeps_report {c : ReportConditions} {r : ReportsResult} (hx : r.monitor.reportErrand? c name = some x)
    (hnow : Instant.InYears c.now.date.year) : r.monitor.Keeps x.save (report c r name).monitor := by
  obtain ⟨s, hs, hxs⟩ := Option.map_eq_some_iff.1 hx
  have hsnapshot := snapshot_report (c := c) hs
  rcases report_of c r name with ⟨y, hy, rfl, hxnow, htracked, ht, -⟩ | ⟨hy, -⟩ <;> rw [hx] at hy
  · obtain rfl := Option.some.inj hy
    obtain ⟨htracks, hheld⟩ := memory_insert htracked ht.states
    have hshown : (report c r x.validator).monitor.memory.shown? = r.monitor.memory.shown? := by
      rw [memory, hsnapshot]
      rfl
    constructor
    case settings => exact ht.settings
    case store => exact ht.store
    case memory =>
      refine ⟨htracked, htracks, hheld, ht.unsaved, ?_, ?_⟩ <;> rw [hshown]
      · intro v _ henabled hentry
        have hsame : v.view (some x.save.state) = v.view (some s) := by
          rw [view_of_enabled henabled, view_of_enabled henabled, ← hxs]
          rfl
        have hheld : r.monitor.memory.held? x.save.validator = some s := hs
        rw [hentry, hheld, hsame]
      · exact fun _ _ => rfl
    case flags => rw [Flags, hsnapshot]
    case years =>
      rw [Errand.save, hxnow]
      exact hnow
    case within =>
      intro n hn
      rw [← hxs]
      exact Watch.within_report (w := ⟨r.monitor.dispatcher, some s⟩) (hn s hs) hnow _
  · cases hy

end Monitor

/-! ## The state folder -/

variable {settings : Settings} {a b : Memory} {l : SaveLog} {name : String}

/-- The files are those of the validators that were saved, and hold the states
that were saved last. -/
structure OnDisk (settings : Settings) (store : StateStore) (l : SaveLog) : Prop where
  listed : ∀ t ∈ l.all, settings.tracks t.validator = true
  absent : ∀ name ∈ settings.validators.names, l.saved? name = none →
    store.place.found? (StateStore.fileName name) = none
  loaded : ∀ name s, l.Fits name → l.saved? name = some s →
    store.load name = .ok (some s) ∧ s.Within l.bound
  fits : l.bound < 2 ^ 32 → ∀ name, l.Fits name

theorem onDisk_empty {store : StateStore} (h : store.place = .absent ∨ store.place = .folder .empty) :
    OnDisk settings store {} where
  listed t ht := by cases ht
  absent name _ _ := by rcases h with h | h <;> rw [h] <;> rfl
  loaded name s _ hs := by cases hs
  fits _ name t ht := by cases ht

/-- What a monitor starts with is what was saved last. -/
theorem OnDisk.restore_eq {store : StateStore} (h : OnDisk settings store l) (hname : settings.tracks name = true)
    (hfits : l.Fits name) : store.restore name = l.saved? name := by
  cases hs : l.saved? name with
  | none =>
    rw [StateStore.restore_eq, h.absent name (Settings.mem_names_of_tracks hname) hs]
  | some s => rw [StateStore.restore, (h.loaded name s hfits hs).1]

/-- What was loaded stays, unless it is replaced. -/
theorem OnDisk.load_perform {store : StateStore} {c : StateStore.Save} {s : State} (h : OnDisk settings store l)
    (hapart : settings.FilesApart) (htracked : settings.tracks c.validator = true) (hsaved : l.saved? name = some s)
    (hold : ¬ (c.validator = name ∧ (store.tried c).saved = true)) (hload : store.load name = .ok (some s)) :
    (store.perform c).2.load name = .ok (some s) := by
  -- There is a file, so there is a folder.
  have hplace : store.place ≠ .absent := by
    intro habsent
    rw [StateStore.load, StateStore.readFile, habsent] at hload
    cases hload
  rw [← hload]
  refine StateStore.load_save_of_ne (.inr hplace) ?_
  by_cases hname : c.validator = name
  · exact .inl fun hok => hold ⟨hname, StateStore.isOk_iff.2 hok⟩
  · obtain ⟨t, ht, rfl, -⟩ := SaveLog.mem_of_saved? hsaved
    have hnames := Settings.mem_names_of_tracks htracked
    exact .inr fun hfile => hname (hapart _ hnames _ (Settings.mem_names_of_tracks (h.listed t ht)) hfile)

/-- A save keeps the files in order. -/
theorem OnDisk.perform {store : StateStore} {c : StateStore.Save} (h : OnDisk settings store l)
    (hapart : settings.FilesApart) (htracked : settings.tracks c.validator = true)
    (hyears : Instant.InYears c.now.date.year) (hwithin : l.Fits c.validator → c.state.Within (l.bound + 16)) :
    OnDisk settings (store.perform c).2 (l.attempt (store.tried c)) := by
  constructor
  case listed => exact List.forall_mem_cons.2 ⟨htracked, h.listed⟩
  case absent =>
    intro name hname hnone
    rw [SaveLog.saved?_attempt] at hnone
    split at hnone
    · cases hnone
    next hnot =>
      rw [← h.absent name hname hnone]
      refine StateStore.found?_save ?_
      by_cases hfile : StateStore.fileName c.validator = StateStore.fileName name
      · have hsame := hapart _ (Settings.mem_names_of_tracks htracked) _ hname hfile
        exact .inl fun hok => hnot ⟨hsame, StateStore.isOk_iff.2 hok⟩
      · exact .inr hfile
  case loaded =>
    intro name s hfits hsaved
    obtain ⟨hown, hfits⟩ := SaveLog.fits_attempt.1 hfits
    rw [SaveLog.saved?_attempt] at hsaved
    rw [SaveLog.bound_attempt]
    split at hsaved
    next hnew =>
      obtain ⟨rfl, hdone⟩ := hnew
      obtain rfl := Option.some.inj hsaved
      have hstate : c.state.Within (l.bound + 16) := hwithin hfits
      exact ⟨StateStore.load_save (hstate.storable (hown rfl)) hyears (StateStore.isOk_iff.1 hdone), hstate⟩
    next hold =>
      obtain ⟨hload, hstate⟩ := h.loaded name s hfits hsaved
      exact ⟨h.load_perform hapart htracked hsaved hold hload, hstate.mono (Nat.le_add_right _ 16)⟩
  case fits =>
    intro hsmall name
    rw [SaveLog.bound_attempt] at hsmall
    have hfits := h.fits (by omega)
    exact SaveLog.fits_attempt.2 ⟨fun _ => (hwithin (hfits _)).fits hsmall, hfits name⟩

/-! ## The memory -/

/-- What is held is shown, and it is what was saved last in this process, if that
succeeded. -/
structure InMemory (settings : Settings) (a : Memory) (l : SaveLog) : Prop where
  tracked : ∀ name, a.tracks name = settings.tracks name
  shown : ∀ name v, settings.validators.get? name = some v → a.shown? name = some (v.view (a.held? name))
  noted : ∀ name, a.unsaved.get? name = none ↔ ∀ t ∈ l.latest? name, t.saved = true
  current : ∀ name, ∀ t ∈ l.latest? name, t.saved = true → a.held? name = some t.state
  within : ∀ name s, l.Fits name → a.held? name = some s → s.Within l.bound

theorem InMemory.isEmpty_iff (h : InMemory settings a l) : a.unsaved.isEmpty = true ↔ NoneFailed l.here := by
  rw [NameMap.isEmpty_iff]
  exact forall_congr' h.noted

theorem Monitor.state?_start (settings : Settings) (d : Dispatcher) (store : StateStore) (history : HistoryAccess)
    (now : Instant) (name : String) : (start settings d store history now).state? name =
      if settings.tracks name = true then store.restore name else none := by
  rw [state?, get?_start]
  split <;> rfl

/-- A monitor that starts takes its memory from the files. -/
theorem OnDisk.start {store : StateStore} (h : OnDisk settings store l) (d : Dispatcher) (history : HistoryAccess)
    (now : Instant) : InMemory settings (Monitor.start settings d store history now).memory l.restarted where
  tracked := (Monitor.sound_start settings d store history now).tracked
  shown name v hv := by
    have hsnapshot : (Monitor.start settings d store history now).snapshot.validators.get? name =
        some (v.view (if v.enabled then store.restore name else none)) := by
      refine (NameMap.get?_map ..).trans ?_
      rw [hv]
      rfl
    rw [Monitor.shown?_memory, hsnapshot, Monitor.held?_memory, Monitor.state?_start, Settings.tracks_eq, hv]
    rfl
  noted name := ⟨fun _ t ht => (by cases ht), fun _ => rfl⟩
  current name t ht := by cases ht
  within name s hfits hs := by
    rw [Monitor.held?_memory, Monitor.state?_start] at hs
    split at hs
    next hname =>
      rw [h.restore_eq hname hfits] at hs
      exact (h.loaded name s hfits hs).2
    next => cases hs

theorem InMemory.keeps {c : StateStore.Save} {saved : Bool} (h : InMemory settings a l)
    (hc : a.Keeps settings c saved b) (hwithin : l.Fits c.validator → c.state.Within (l.bound + 16)) :
    InMemory settings b (l.attempt ⟨c.validator, c.state, saved⟩) := by
  constructor
  case tracked => exact fun name => (hc.tracks name).trans (h.tracked name)
  case shown =>
    intro name v hv
    have hshown := h.shown name v hv
    rw [hc.held]
    split
    next hname =>
      -- The entry of a validator that is not enabled stays what it is, but such a one is not saved.
      subst hname
      have htracked := hc.tracked
      rw [h.tracked, Settings.tracks_eq, hv] at htracked
      exact hc.own v hv htracked hshown
    next hname => rw [hc.others name hname, hshown]
  case noted =>
    intro name
    rw [hc.unsaved, Unsaved.get?_note, SaveLog.latest?_attempt]
    split
    next => cases saved <;> simp
    next => exact h.noted name
  case current =>
    intro name t ht hsaved
    rw [SaveLog.latest?_attempt] at ht
    rw [hc.held]
    split at ht
    next hname =>
      obtain rfl := Option.some.inj ht
      exact if_pos hname
    next hname => exact (if_neg hname).trans (h.current name t ht hsaved)
  case within =>
    intro name s hfits hs
    obtain ⟨-, hfits⟩ := SaveLog.fits_attempt.1 hfits
    rw [hc.held] at hs
    rw [SaveLog.bound_attempt]
    split at hs
    next hname =>
      subst hname
      obtain rfl := Option.some.inj hs
      exact hwithin hfits
    next => exact (h.within name s hfits hs).mono (Nat.le_add_right _ 16)

/-! ## Both -/

/-- The files are in order, and so is the memory. -/
structure Consistent (settings : Settings) (store : StateStore) (a : Memory) (l : SaveLog) : Prop where
  disk : OnDisk settings store l
  memory : InMemory settings a l

theorem Consistent.keeps {store : StateStore} {c : StateStore.Save} (h : Consistent settings store a l)
    (hapart : settings.FilesApart) (hc : a.Keeps settings c (store.perform c).1.isOk b)
    (hyears : Instant.InYears c.now.date.year) (hwithin : l.Fits c.validator → c.state.Within (l.bound + 16)) :
    Consistent settings (store.perform c).2 b (l.attempt (store.tried c)) where
  disk := h.disk.perform hapart ((h.memory.tracked _).symm.trans hc.tracked) hyears hwithin
  memory := h.memory.keeps hc hwithin

/-- What is shown of a save is nothing to memory and files. -/
theorem Consistent.reveal {store : StateStore} (h : Consistent settings store a l) (name : String) :
    Consistent settings store a (l.reveal name) where
  disk := ⟨h.disk.listed, h.disk.absent, h.disk.loaded, h.disk.fits⟩
  memory := ⟨h.memory.tracked, h.memory.shown, h.memory.noted, h.memory.current, h.memory.within⟩

/-! ## Operations -/

namespace Monitor

variable {m m' : Monitor}

/-- Memory and files are in order, and the snapshot tells of the saves that it is
to tell of. -/
structure Orderly (settings : Settings) (m : Monitor) (l : SaveLog) : Prop where
  settings_eq : m.settings = settings
  consistent : Consistent settings m.store m.memory l
  told : m.snapshot.persistenceOk = true ↔ NoneFailed l.shown

theorem Orderly.start {store : StateStore} (h : OnDisk settings store l) (d : Dispatcher) (history : HistoryAccess)
    (now : Instant) : (start settings d store history now).Orderly settings l.restarted where
  settings_eq := rfl
  consistent := ⟨⟨h.listed, h.absent, h.loaded, h.fits⟩, h.start d history now⟩
  told := ⟨fun _ _ _ ht => (by cases ht), fun _ => rfl⟩

theorem Orderly.keeps {c : StateStore.Save} (h : m.Orderly settings l) (hapart : settings.FilesApart)
    (hc : m.Keeps c m') : m'.Orderly settings (l.add (m.store.tried c)) := by
  obtain rfl := h.settings_eq
  have hwithin (hfits : l.Fits c.validator) : c.state.Within (l.bound + 16) :=
    hc.within _ fun s hs => h.consistent.memory.within _ s hfits hs
  have hkept := h.consistent.keeps hapart hc.memory hc.years hwithin
  rw [← hc.store] at hkept
  refine ⟨hc.settings, hkept.reveal _, ?_⟩
  have hshown : (l.add (m.store.tried c)).shown = (l.attempt (m.store.tried c)).here :=
    SaveLog.InOrder.shown_eq SaveLog.inOrder_add
  rw [hc.flags, hshown]
  exact hkept.memory.isEmpty_iff

/-- A note that the monitor is to shut down is nothing to the rest. -/
theorem Orderly.shutdown (h : m.Orderly settings l) (off : Bool) : Orderly settings { m with shutdown := off } l :=
  ⟨h.settings_eq, h.consistent, h.told⟩

theorem Orderly.check {c : CheckConditions} {v : ValidatorEntry} (h : m.Orderly settings l)
    (hapart : settings.FilesApart) (hc : c.Proper) (hv : ∀ w, settings.validators.get? name = some w → v = w) :
    (m.check c name v).monitor.Orderly settings
      (l.note m.store ((m.checkErrand? c name).toList.map Errand.save)) := by
  cases hx : m.checkErrand? c name with
  | some x =>
    rw [← h.settings_eq] at hv
    exact h.keeps hapart (keeps_check hx hc hv)
  | none =>
    rcases check_of m c name v with ⟨x, hx', -⟩ | ⟨-, hr⟩
    · rw [hx] at hx'
      cases hx'
    · rw [hr]
      exact h.shutdown _

theorem Orderly.checkAll {c : TickConditions} {order : List (String × ValidatorEntry)} {r : TickResult}
    (h : r.monitor.Orderly settings l) (hapart : settings.FilesApart) (hc : ∀ name, (c.check name).Proper)
    (horder : ∀ e ∈ order, settings.validators.get? e.1 = some e.2) :
    (order.foldl (TickResult.addCheck c) r).monitor.Orderly settings
      (l.note r.monitor.store ((r.monitor.checkErrands c order).map Errand.save)) := by
  induction order generalizing r l with
  | nil => exact h
  | cons e rest ih =>
    have hentry : ∀ w, settings.validators.get? e.1 = some w → e.2 = w := by
      rw [horder e List.mem_cons_self]
      exact fun _ => Option.some.inj
    have hfirst := h.check hapart (hc e.1) hentry
    rw [List.foldl_cons, checkErrands, List.map_append, SaveLog.note_append, ← store_check _ _ _ e.2]
    exact ih (r := r.addCheck c e) hfirst fun e' he' => horder e' (List.mem_cons_of_mem _ he')

theorem Orderly.report {c : ReportConditions} {r : ReportsResult} (h : r.monitor.Orderly settings l)
    (hapart : settings.FilesApart) (hnow : Instant.InYears c.now.date.year) :
    (Monitor.report c r name).monitor.Orderly settings
      (l.note r.monitor.store ((r.monitor.reportErrand? c name).toList.map Errand.save)) := by
  cases hx : r.monitor.reportErrand? c name with
  | some x => exact h.keeps hapart (keeps_report hx hnow)
  | none =>
    rcases report_of c r name with ⟨x, hx', -⟩ | ⟨-, hr⟩
    · rw [hx] at hx'
      cases hx'
    · rw [hr]
      exact h

theorem Orderly.reports {c : ReportConditions} {names : List String} {r : ReportsResult}
    (h : r.monitor.Orderly settings l) (hapart : settings.FilesApart) (hnow : Instant.InYears c.now.date.year) :
    (names.foldl (Monitor.report c) r).monitor.Orderly settings
      (l.note r.monitor.store ((r.monitor.reportErrands c names).map Errand.save)) := by
  induction names generalizing r l with
  | nil => exact h
  | cons name rest ih =>
    rw [List.foldl_cons, reportErrands, monitor_report, List.map_append, SaveLog.note_append, ← store_report]
    exact ih (h.report hapart hnow)

/-- At the end of a tick neither the entries of the snapshot change nor what it
says of the saves. -/
theorem Orderly.endTick (h : m.Orderly settings l) (c : TickConditions) :
    ((m.showNetworks c).endTick c.now).Orderly settings l := by
  have hflag : ((m.showNetworks c).endTick c.now).snapshot.persistenceOk = m.snapshot.persistenceOk := by
    rw [Monitor.endTick, snapshot_showNetworks]
  have hmemory : ((m.showNetworks c).endTick c.now).memory = m.memory := by
    ext1
    case shown? => exact congrArg NameMap.get? (validators_showNetworks m c)
    all_goals rfl
  refine ⟨h.settings_eq, ?_, hflag ▸ h.told⟩
  rw [hmemory]
  exact h.consistent

theorem entry_of_checkOrder {c : TickConditions} {e : String × ValidatorEntry} (he : e ∈ m.checkOrder c) :
    m.settings.validators.get? e.1 = some e.2 :=
  Settings.get?_of_enabled ((checkOrder_perm m c).mem_iff.1 he)

/-- What an operation does keeps memory, snapshot and disk in order. -/
theorem Orderly.operate {op : Operation} (h : m.Orderly settings l) (hapart : settings.FilesApart)
    (hop : op.Proper settings) : (m.operate op).Orderly settings (m.logged l op) := by
  obtain rfl := h.settings_eq
  cases op with
  | tick c =>
    exact (Orderly.checkAll (r := { monitor := m }) h hapart hop fun e he => entry_of_checkOrder he).endTick c
  | check c name v => exact h.check hapart hop.1 hop.2
  | reports c => exact Orderly.reports (r := { monitor := m }) h hapart hop
  | restart now d history => exact .start h.consistent.disk d history now

end Monitor

theorem SaveLog.InOrder.logged (h : l.InOrder) (m : Monitor) (op : Operation) : (m.logged l op).InOrder := by
  cases op with
  | restart => exact inOrder_restarted
  | tick c => exact h.note m.store (m.saves (.tick c))
  | check c name v => exact h.note m.store (m.saves (.check c name v))
  | reports c => exact h.note m.store (m.saves (.reports c))

namespace Monitor

variable {m : Monitor}

/-! ## What memory, snapshot and disk have in common -/

/-- The log has all saves of an operation. -/
theorem store_operate (m : Monitor) (op : Operation) : (m.operate op).store = m.store.saveAll (m.saves op) := by
  cases op with
  | tick c => exact store_foldl_addCheck (m.checkOrder c) { monitor := m }
  | check c name v => exact store_check m c name v
  | reports c => exact store_foldl_report _ { monitor := m }
  | restart => rfl

/-- Memory, the entries of the snapshot and disk agree. -/
structure InAgreement (settings : Settings) (m : Monitor) (l : SaveLog) : Prop where
  enabled : ∀ name v, settings.validators.get? name = some v → v.enabled = true →
    m.snapshot.validators.get? name =
      some (((m.state? name).map (.ofState v.network.name v.host)).getD (.pending v.network.name v.host))
  disabled : ∀ name v, settings.validators.get? name = some v → v.enabled = false →
    m.snapshot.validators.get? name = some (.disabled v.network.name v.host) ∧ m.states.get? name = none ∧
      (∀ t ∈ l.all, t.validator ≠ name) ∧ StateStore.fileName name ∉ m.store.fileNames
  absent : ∀ name ∈ settings.validators.names, l.saved? name = none →
    StateStore.fileName name ∉ m.store.fileNames
  loaded : ∀ name s, l.saved? name = some s → l.Fits name → m.store.load name = .ok (some s)
  current : ∀ name, ∀ t ∈ l.latest? name, t.saved = true →
    l.saved? name = some t.state ∧ m.state? name = some t.state

theorem Orderly.inAgreement (h : m.Orderly settings l) : m.InAgreement settings l := by
  obtain ⟨-, ⟨hdisk, hmemory⟩, -⟩ := h
  have habsent : ∀ name ∈ settings.validators.names, l.saved? name = none →
      StateStore.fileName name ∉ m.store.fileNames := by
    intro name hname hnone hmem
    rw [StateStore.mem_fileNames_iff, hdisk.absent name hname hnone] at hmem
    cases hmem
  constructor
  case enabled =>
    intro name v hv henabled
    refine (hmemory.shown name v hv).trans ?_
    rw [held?_memory]
    cases m.state? name with
    | some s => rw [view_of_enabled henabled]; rfl
    | none => rw [ValidatorEntry.view, henabled]; rfl
  case disabled =>
    intro name v hv hdisabled
    have huntracked : settings.tracks name = false := by
      rw [Settings.tracks_eq, hv]
      exact hdisabled
    have hunlisted : ∀ t ∈ l.all, t.validator ≠ name := by
      rintro t ht rfl
      rw [hdisk.listed t ht] at huntracked
      cases huntracked
    refine ⟨?_, ?_, hunlisted, habsent name (Settings.mem_names_of_get? hv) ?_⟩
    · refine (hmemory.shown name v hv).trans ?_
      simp only [ValidatorEntry.view, hdisabled, Bool.not_false, if_true]
    · refine Option.not_isSome_iff_eq_none.1 fun htracked => ?_
      cases huntracked.symm.trans ((hmemory.tracked name).symm.trans htracked)
    · cases hs : l.saved? name with
      | none => rfl
      | some s =>
        obtain ⟨t, ht, hname, -⟩ := SaveLog.mem_of_saved? hs
        exact absurd hname (hunlisted t ht)
  case absent => exact habsent
  case loaded => exact fun name s hs hfits => (hdisk.loaded name s hfits hs).1
  case current => exact fun name t ht hsaved => ⟨SaveLog.saved?_of_latest ht hsaved, hmemory.current name t ht hsaved⟩

end Monitor

/-! ## A save that fails -/

/-- Settings with one validator that is checked and one that is not. -/
def halfEnabled : Settings where
  validators :=
    (NameMap.insert .empty "a" { host := "h", publicKey := "" }).insert "b"
      { host := "h", publicKey := "", enabled := false }

/-- No channels. -/
def silent : Dispatcher where
  lines := ⟨none, none, none⟩
  cooldown := .ofSeconds 300
  emergencyCooldown := .ofSeconds 1800

/-- A check of a validator that does not answer, and a report of it for which
there is no space left. -/
def silenceThenReport : List Operation :=
  [.tick { now := StateStore.epoch, probe := fun _ => .silent },
    .reports
      { now := StateStore.epoch
        saveTrouble := fun _ => some (.renaming "No space left on device (os error 28)") }]

/-- The failed save shows in the snapshot. -/
example : (silenceThenReport.foldl Monitor.operate (.start halfEnabled silent StateStore.unused .unavailable
    StateStore.epoch)).snapshot.persistenceOk = false := by
  decide +kernel

end ValidatorWatch
