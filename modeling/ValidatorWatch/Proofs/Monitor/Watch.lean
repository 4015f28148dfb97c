import ValidatorWatch.Monitor.Check
import ValidatorWatch.Monitor.Reports
/-!
# The watch over one validator

A check and a report of the monitor come down to the same few steps for the
one validator they are about: evaluate, dispatch on its ledger, keep the new
state. `Watch` has just what these steps read and change.
`Monitor.conclude_takes` and `Monitor.report_takes` say that the monitor takes
these steps and no others, and `Monitor.monitor_conclude` also has the history
and the snapshot.
-/

namespace ValidatorWatch

open Time (Instant)

/-- What is kept of a validator, and the channels on which it is told of. -/
structure Watch where
  dispatcher : Dispatcher
  state : Option State

/-- The state that a check or a report leaves behind, what it tells, and what
became of that. -/
structure Telling where
  state : State
  events : List AlertEvent
  sent : Dispatcher.Outcome

/-- The watch afterwards. -/
def Telling.watch (t : Telling) : Watch :=
  ⟨t.sent.dispatcher, some t.state⟩

namespace Watch

/-- What a check sees. -/
def observation (w : Watch) (b : Bundle) : Observation :=
  b.reconcile (w.state.bind State.lastHeight)

/-- Dispatches events on the ledger of a state, and keeps that with the new ledger. -/
def tell (w : Watch) (now : Instant) (events : List AlertEvent) (s : State) : Telling :=
  let sent := w.dispatcher.dispatch now events s.ledger
  ⟨{ s with ledger := sent.ledger }, events, sent⟩

/-- A check: what the probe found is evaluated and told. -/
def check (rules : Rules) (validator : String) (w : Watch) (now : Instant) (b : Bundle) : Telling :=
  let t := rules.evaluate validator w.state (w.observation b)
  w.tell now t.events t.state

/-- A report on a validator that has a state. -/
def report (validator : String) (w : Watch) (now : Instant) (s : State) : Telling :=
  let (event, next) := s.extendedReport validator now
  w.tell now [event] next

/-- What happens to a validator. -/
inductive Turn where
  | check (now : Instant) (b : Bundle)
  | report (now : Instant)

/-- The watch after a turn. Nothing is reported of a validator that was never
checked. -/
def turn (rules : Rules) (validator : String) (w : Watch) : Turn → Watch
  | .check now b => (w.check rules validator now b).watch
  | .report now =>
    match w.state with
    | none => w
    | some s => (w.report validator now s).watch

end Watch

/-- Adds a record, unless that fails. -/
def HistoryAccess.add (fails : Bool) (r : CheckRecord) : HistoryAccess → HistoryAccess
  | .opened h => if fails then .opened h else .opened (h.store r)
  | access => access

namespace Monitor

/-! ## What the monitor keeps -/

/-- Saves, records and shows a new state. -/
def keep (m : Monitor) (c : CheckConditions) (name : String) (v : ValidatorEntry) (s : State) : Monitor :=
  let saved := m.store.save c.saveTrouble c.now name s
  let unsaved := m.unsaved.note name saved.1.isOk
  { m with
    store := saved.2
    unsaved := unsaved
    history := m.history.add c.historyFails (.ofState name s (s.lastObservation.getD c.now))
    states := m.states.insert name (some s)
    snapshot := { m.snapshot with
      validators := m.snapshot.validators.insert name (.ofState v.network.name v.host s)
      persistenceOk := unsaved.isEmpty } }

theorem recordHistory_eq (m : Monitor) (fails : Bool) (now : Instant) (name : String) (s : State) :
    m.recordHistory fails now name s =
      { m with history := m.history.add fails (.ofState name s (s.lastObservation.getD now)) } := by
  unfold recordHistory HistoryAccess.add
  cases h : m.history with
  | unavailable | closed => simp only [← h]
  | opened rows =>
    cases fails with
    | true => simp [← h]
    | false => rfl

theorem persist_eq (m : Monitor) (trouble : Option SaveTrouble) (now : Instant) (name : String) (s : State) :
    m.persist trouble now name s =
      let saved := m.store.save trouble now name s
      let unsaved := m.unsaved.note name saved.1.isOk
      { m with
        store := saved.2
        unsaved := unsaved
        snapshot := { m.snapshot with persistenceOk := unsaved.isEmpty } } := by
  unfold persist
  rcases m.store.save trouble now name s with ⟨outcome, store⟩
  rfl

/-- A check that is concluded keeps the state that it evaluates, with the ledger
after the dispatch. -/
theorem monitor_conclude (m : Monitor) (c : CheckConditions) (name : String) (v : ValidatorEntry)
    (previous : Option State) (b : Bundle) :
    let t := Watch.check m.settings.rules name ⟨m.dispatcher, previous⟩ c.now b
    (m.conclude c name v previous b).monitor =
      ({ m with dispatcher := t.sent.dispatcher } : Monitor).keep c name v t.state := by
  intro t
  have hr : (m.conclude c name v previous b).monitor =
      let saved := recordHistory (({ m with dispatcher := t.sent.dispatcher } : Monitor).persist c.saveTrouble
        c.now name t.state) c.historyFails c.now name t.state
      { saved.setView name (.ofState v.network.name v.host t.state) with
        states := saved.states.insert name (some t.state) } := rfl
  rw [hr, recordHistory_eq, persist_eq]
  rfl

/-! ## Turns of the monitor -/

/-- The monitor `m'` is `m` after a turn of the watch over one of its
validators, the history and the snapshot aside. -/
structure Takes (m : Monitor) (trouble : Option SaveTrouble) (now : Instant) (name : String) (t : Telling)
    (m' : Monitor) : Prop where
  settings : m'.settings = m.settings
  shutdown : m'.shutdown = m.shutdown
  dispatcher : m'.dispatcher = t.sent.dispatcher
  states : m'.states = m.states.insert name (some t.state)
  store : m'.store = (m.store.save trouble now name t.state).2
  unsaved : m'.unsaved = m.unsaved.note name (m.store.save trouble now name t.state).1.isOk

variable {m : Monitor} {name : String}

/-- A check of the monitor is a check of the watch over its validator. -/
theorem conclude_takes (c : CheckConditions) (v : ValidatorEntry) (previous : Option State) (b : Bundle) :
    let t := Watch.check m.settings.rules name ⟨m.dispatcher, previous⟩ c.now b
    let r := m.conclude c name v previous b
    m.Takes c.saveTrouble c.now name t r.monitor ∧ r.attempts = t.sent.attempts ∧
      r.outcome = .completed t.state.verdict t.events.length t.sent.report.delivered.length := by
  intro t r
  have hr : r.monitor = ({ m with dispatcher := t.sent.dispatcher } : Monitor).keep c name v t.state :=
    monitor_conclude m c name v previous b
  rw [hr]
  exact ⟨⟨rfl, rfl, rfl, rfl, rfl, rfl⟩, rfl, rfl⟩

/-- A report of the monitor is one of the watch. -/
theorem report_takes {c : ReportConditions} {r : ReportsResult} {s : State} (hs : r.monitor.state? name = some s) :
    let t := Watch.report name ⟨r.monitor.dispatcher, some s⟩ c.now s
    let r' := report c r name
    r.monitor.Takes (c.saveTrouble name) c.now name t r'.monitor ∧
      r'.attempts = r.attempts ++ t.sent.attempts ∧
      r'.delivered = r.delivered + t.sent.report.delivered.length := by
  intro t r'
  have hr : r' = let m := { r.monitor with
        dispatcher := t.sent.dispatcher, states := r.monitor.states.insert name (some t.state) }
      { monitor := m.persist (c.saveTrouble name) c.now name t.state
        delivered := r.delivered + t.sent.report.delivered.length
        attempts := r.attempts ++ t.sent.attempts } := by
    show report c r name = _
    rw [report, hs]
    rfl
  rw [hr]
  exact ⟨⟨rfl, rfl, rfl, rfl, rfl, rfl⟩, rfl, rfl⟩

end Monitor

end ValidatorWatch
