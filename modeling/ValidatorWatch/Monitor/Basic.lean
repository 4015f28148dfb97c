import ValidatorWatch.Alert.Dispatch
import ValidatorWatch.Settings.Basic
import ValidatorWatch.Store.History
import ValidatorWatch.Store.StateStore
import ValidatorWatch.Validator.Evaluation
import ValidatorWatch.Validator.Snapshot
/-!
# The monitor

The monitor holds the state of every enabled validator, the snapshot that it shows, and what it
writes to: the channels, the state store and the check history. A new monitor takes up the states
that the store has, so a restart goes on where the last run was.

The snapshot says whether all states are on disk. `Unsaved` holds the validators whose last save
failed, and the snapshot's flag is that there are none.
-/

namespace ValidatorWatch

open Time (Instant Span)

/-- The check history: there may be none, and it may have been closed. -/
inductive HistoryAccess where
  | unavailable
  | opened (h : History)
  | closed

/-- Closes the history, if there is one. -/
def HistoryAccess.close : HistoryAccess → HistoryAccess
  | .opened _ => .closed
  | access => access

/-- The validators whose last save failed. -/
abbrev Unsaved := NameMap Unit

namespace Unsaved

/-- Notes the outcome of a save. -/
def note (u : Unsaved) (validator : String) (saved : Bool) : Unsaved :=
  if saved then u.erase validator else u.insert validator ()

end Unsaved

/-- The monitor. A validator is tracked if it has an entry among the states; the entry is empty
before its first check. -/
structure Monitor where
  settings : Settings
  dispatcher : Dispatcher
  store : StateStore
  history : HistoryAccess
  states : NameMap (Option State)
  snapshot : Snapshot
  unsaved : Unsaved := .empty
  shutdown : Bool := false

namespace Settings

/-- The networks that some of these validators belong to, in name order. -/
def networkNames (validators : List ValidatorEntry) : List String :=
  [Network.mainnet, .testnet].filterMap fun n =>
    if validators.any fun v => v.network = n then some n.name else none

/-- The networks of the enabled validators, or of all if none is enabled. -/
def networkName (s : Settings) : String :=
  let enabled := s.enabledValidators.map Prod.snd
  ",".intercalate (networkNames (if enabled.isEmpty then s.validators.values else enabled))

/-- The rules that settings describe. -/
def rules (s : Settings) : Rules :=
  .ofSettings s.alertThreshold s.thresholds

end Settings

namespace ValidatorEntry

/-- What is shown of a validator with this state. -/
def view (v : ValidatorEntry) (state : Option State) : ValidatorSnapshot :=
  if !v.enabled then .disabled v.network.name v.host
  else
    match state with
    | some s => .ofState v.network.name v.host s
    | none => .pending v.network.name v.host

end ValidatorEntry

namespace Monitor

/-- A monitor that takes up the states that the store has. -/
def start (settings : Settings) (dispatcher : Dispatcher) (store : StateStore)
    (history : HistoryAccess) (now : Instant) : Monitor :=
  let restored := fun (name : String) (v : ValidatorEntry) =>
    if v.enabled then store.restore name else none
  { settings := settings
    dispatcher := dispatcher
    store := store
    history := history
    states :=
      (settings.validators.filter fun _ v => v.enabled).map fun name _ => store.restore name
    snapshot := { Snapshot.fresh settings.networkName now with
      validators := settings.validators.map fun name v => v.view (restored name v) } }

/-- A new monitor over the same settings, channels, files and history. -/
def restart (m : Monitor) (now : Instant) : Monitor :=
  { start m.settings m.dispatcher m.store m.history now with shutdown := m.shutdown }

/-- The state of a validator, if it is tracked and was checked. -/
def state? (m : Monitor) (name : String) : Option State :=
  (m.states.get? name).join

/-- The snapshot as it is shown now. -/
def view (m : Monitor) (now : Instant) : Snapshot :=
  { m.snapshot with uptimeSeconds := (now - m.snapshot.startedAt).seconds }

/-- Changes the entries of the snapshot. -/
def setView (m : Monitor) (name : String) (v : ValidatorSnapshot) : Monitor :=
  { m with snapshot := m.snapshot.setValidator name v }

/-- Saves a state and shows whether all states are on disk. -/
def persist (m : Monitor) (trouble : Option SaveTrouble) (now : Instant) (name : String)
    (state : State) : Monitor :=
  let (outcome, store) := m.store.save trouble now name state
  let unsaved := m.unsaved.note name outcome.isOk
  { m with
    store := store
    unsaved := unsaved
    snapshot := { m.snapshot with persistenceOk := unsaved.isEmpty } }

/-- Adds a record to the history; a failure is passed over. -/
def recordHistory (m : Monitor) (fails : Bool) (now : Instant) (name : String) (state : State) :
    Monitor :=
  match m.history with
  | .opened h =>
    if fails then m
    else
      let time := state.lastObservation.getD now
      { m with history := .opened (h.store (.ofState name state time)) }
  | _ => m

end Monitor

end ValidatorWatch
