import ValidatorWatch.Proofs.Monitor.Agreement
/-!
# Saves side by side

The checks of several validators, and a round of reports beside them, may save
at the same time. Each does it in two steps. Holding the lock of the failed
saves, it saves, notes the outcome and finds out whether all states are on
disk. Then it lets go of that lock and writes what it found into the snapshot.
Saves for one validator wait for one another, and any others may interleave.

So the snapshot tells what the last one to write has found, and that may be
older than what the last one to save has found
(`flag_found_by_last_to_write`).
-/

namespace ValidatorWatch

open StateStore (Save)

namespace Monitor

/-- The first step: saves and notes the outcome. -/
def save (m : Monitor) (x : Save) : Monitor :=
  let (outcome, store) := m.store.perform x
  { m with
    store := store
    unsaved := m.unsaved.note x.validator outcome.isOk }

/-- The second step: shows what was found. -/
def writeFlag (m : Monitor) (ok : Bool) : Monitor :=
  { m with snapshot := { m.snapshot with persistenceOk := ok } }

theorem persist_eq_steps (m : Monitor) (x : Save) :
    m.persist x.trouble x.now x.validator x.state = (m.save x).writeFlag (m.save x).unsaved.isEmpty := by
  rw [persist_eq]
  rfl

instance (m : Monitor) : Decidable m.Flags :=
  inferInstanceAs (Decidable (m.snapshot.persistenceOk = m.unsaved.isEmpty))

end Monitor

/-- A step of a save. -/
inductive SaveStep where
  | save (x : Save)
  | write (validator : String)

namespace SaveStep

def isSave : SaveStep → Bool
  | .save _ => true
  | .write _ => false

def savesFor (name : String) : SaveStep → Bool
  | .save x => x.validator = name
  | .write _ => false

/-- The steps up to the one that saved last. All steps are the latest first. -/
def lastSaver (steps : List SaveStep) : List SaveStep :=
  steps.dropWhile (!·.isSave)

/-- The steps up to the one in which the last to write had saved. -/
def lastWriter : List SaveStep → List SaveStep
  | .write name :: before => before.dropWhile (!·.savesFor name)
  | steps => steps

end SaveStep

/-- A monitor, and what has been found between a first and a second step. -/
structure Saving where
  monitor : Monitor
  found : NameMap Bool := .empty

namespace Saving

/-- Takes a step, if its turn has come: a validator is not saved while its last
save has not been shown, and is shown only then. -/
def step? (u : Saving) : SaveStep → Option Saving
  | .save x =>
    let m := u.monitor.save x
    if u.found.contains x.validator then none
    else some ⟨m, u.found.insert x.validator m.unsaved.isEmpty⟩
  | .write name => (u.found.get? name).map fun ok => ⟨u.monitor.writeFlag ok, u.found.erase name⟩

/-- Takes steps, the latest first. -/
def run? (m : Monitor) : List SaveStep → Option Saving
  | [] => some { monitor := m }
  | s :: before => (run? m before).bind (·.step? s)

/-- Nothing is between its two steps. -/
def Idle (u : Saving) : Prop :=
  u.found.isEmpty = true

instance (u : Saving) : Decidable u.Idle :=
  inferInstanceAs (Decidable (u.found.isEmpty = true))

variable {m : Monitor} {u : Saving} {before steps : List SaveStep} {x : Save} {name : String} {ok : Bool}

/-! ## One step -/

theorem run?_save (h : run? m (.save x :: before) = some u) :
    ∃ w, run? m before = some w ∧ u.monitor = w.monitor.save x ∧
      u.found = w.found.insert x.validator u.monitor.unsaved.isEmpty := by
  obtain ⟨w, hw, hstep⟩ := Option.bind_eq_some_iff.1 h
  refine ⟨w, hw, ?_⟩
  simp only [step?] at hstep
  split at hstep
  · cases hstep
  · cases hstep
    exact ⟨rfl, rfl⟩

theorem run?_write (h : run? m (.write name :: before) = some u) :
    ∃ w ok, run? m before = some w ∧ w.found.get? name = some ok ∧ u.monitor = w.monitor.writeFlag ok ∧
      u.found = w.found.erase name := by
  obtain ⟨w, hw, hstep⟩ := Option.bind_eq_some_iff.1 h
  obtain ⟨ok, hok, rfl⟩ := Option.map_eq_some_iff.1 hstep
  exact ⟨w, ok, hw, hok, rfl, rfl⟩

/-- With nothing in between the two steps are a whole save. -/
theorem run?_persist (m : Monitor) (x : Save) : run? m [.write x.validator, .save x] =
    some { monitor := m.persist x.trouble x.now x.validator x.state } := by
  have herased (ok : Bool) : (NameMap.insert .empty x.validator ok).erase x.validator = .empty := by
    ext1 name
    rw [NameMap.get?_erase]
    split
    · rfl
    · next hne => rw [NameMap.get?_insert_of_ne _ _ hne]
  have hsaved : run? m [.save x] =
      some ⟨m.save x, NameMap.insert .empty x.validator (m.save x).unsaved.isEmpty⟩ := rfl
  rw [run?, hsaved, Option.bind_some, step?, NameMap.get?_insert_self, Option.map_some, herased, m.persist_eq_steps]

/-! ## Runs -/

/-- Only a save changes what is noted. -/
theorem run?_lastSaver (h : run? m steps = some u) :
    ∃ w, run? m (SaveStep.lastSaver steps) = some w ∧ u.monitor.unsaved = w.monitor.unsaved := by
  induction steps generalizing u with
  | nil => exact ⟨u, h, rfl⟩
  | cons s before ih =>
    cases s with
    | save x => exact ⟨u, h, rfl⟩
    | write name =>
      obtain ⟨v, ok, hv, -, hmonitor, -⟩ := run?_write h
      obtain ⟨w, hw, hsame⟩ := ih hv
      refine ⟨w, hw, ?_⟩
      rw [hmonitor, ← hsame]
      rfl

/-- What is still to be shown was found at the validator's last save. -/
theorem run?_of_found (h : run? m steps = some u) (hfound : u.found.get? name = some ok) :
    ∃ w, run? m (steps.dropWhile (!·.savesFor name)) = some w ∧ w.monitor.unsaved.isEmpty = ok := by
  induction steps generalizing u with
  | nil =>
    cases h
    cases hfound
  | cons s before ih =>
    cases s with
    | save x =>
      obtain ⟨v, hv, -, hinsert⟩ := run?_save h
      rw [hinsert, NameMap.get?_insert] at hfound
      by_cases hname : x.validator = name
      · rw [if_pos hname, Option.some.injEq] at hfound
        refine ⟨u, ?_, hfound⟩
        rwa [List.dropWhile_cons_of_neg (by simp [SaveStep.savesFor, hname])]
      · rw [if_neg hname] at hfound
        rw [List.dropWhile_cons_of_pos (by simp [SaveStep.savesFor, hname])]
        exact ih hv hfound
    | write other =>
      obtain ⟨v, _, hv, -, -, herase⟩ := run?_write h
      rw [herase, NameMap.get?_erase] at hfound
      split at hfound
      · cases hfound
      · exact ih hv hfound

/-- With nothing left to be shown, the snapshot tells what the last to write has
found. -/
theorem run?_lastWriter (hflags : m.Flags) (h : run? m steps = some u) (hidle : u.Idle) :
    ∃ w, run? m (SaveStep.lastWriter steps) = some w ∧
      u.monitor.snapshot.persistenceOk = w.monitor.unsaved.isEmpty := by
  cases steps with
  | nil =>
    cases h
    exact ⟨_, rfl, hflags⟩
  | cons s before =>
    cases s with
    | save x =>
      -- What it found is still to be shown.
      obtain ⟨v, -, -, hinsert⟩ := run?_save h
      have hnone := NameMap.get?_of_isEmpty hidle x.validator
      rw [hinsert, NameMap.get?_insert_self] at hnone
      cases hnone
    | write name =>
      obtain ⟨v, ok, hv, hok, hmonitor, -⟩ := run?_write h
      obtain ⟨w, hw, rfl⟩ := run?_of_found hv hok
      exact ⟨w, hw, by rw [hmonitor]; rfl⟩

/-- Whenever no save is between its two steps: the snapshot tells what the last
one to write has found, so it is right exactly if the last one to save has
found the same, and in particular if they are one. -/
theorem flag_found_by_last_to_write (hflags : m.Flags) (hrun : run? m steps = some u) (hidle : u.Idle) :
    ∃ saved wrote, run? m (SaveStep.lastSaver steps) = some saved ∧ run? m (SaveStep.lastWriter steps) = some wrote ∧
      u.monitor.unsaved = saved.monitor.unsaved ∧
      u.monitor.snapshot.persistenceOk = wrote.monitor.unsaved.isEmpty ∧
      (u.monitor.Flags ↔ wrote.monitor.unsaved.isEmpty = saved.monitor.unsaved.isEmpty) ∧
      (SaveStep.lastWriter steps = SaveStep.lastSaver steps → u.monitor.Flags) := by
  obtain ⟨saved, hsaved, hunsaved⟩ := run?_lastSaver hrun
  obtain ⟨wrote, hwrote, hflag⟩ := run?_lastWriter hflags hrun hidle
  have hiff : u.monitor.Flags ↔ wrote.monitor.unsaved.isEmpty = saved.monitor.unsaved.isEmpty := by
    rw [Monitor.Flags, hflag, hunsaved]
  refine ⟨saved, wrote, hsaved, hwrote, hunsaved, hflag, hiff, ?_⟩
  intro hsame
  rw [hsame, hsaved, Option.some.injEq] at hwrote
  rw [hiff, hwrote]

/-- Two validators and no folder yet. -/
def idleMonitor : Monitor :=
  let settings : Settings :=
    { validators := (NameMap.insert .empty "val-1" { host := "h", publicKey := "" }).insert "val-2"
        { host := "h", publicKey := "" } }
  .start settings silent StateStore.unused .unavailable StateStore.epoch

/-- A save that succeeds and one that does not, at the same time. -/
def sideBySide : List SaveStep :=
  [.save StateStore.brokenSave, .save StateStore.firstSave]

/-- They show what they found in the order in which they saved. -/
theorem shown_in_order_of_saves :
    ∃ u, run? idleMonitor (.write "val-2" :: .write "val-1" :: sideBySide) = some u ∧ u.Idle ∧ u.monitor.Flags := by
  have hflags : idleMonitor.Flags := rfl
  have hrun : run? idleMonitor (.write "val-2" :: .write "val-1" :: sideBySide) = some _ := rfl
  obtain ⟨_, _, _, _, _, _, _, hright⟩ := flag_found_by_last_to_write hflags hrun (by decide +kernel)
  exact ⟨_, hrun, by decide +kernel, hright rfl⟩

/-- If the one that succeeds is the last to show what it found, the snapshot
says that all states are on disk, and one is not. -/
theorem overtaken_save_hides_failure :
    ¬ ∀ (m : Monitor) (steps : List SaveStep) (u : Saving),
      m.Flags → run? m steps = some u → u.Idle → u.monitor.Flags := by
  intro h
  have hflags := h idleMonitor (.write "val-1" :: .write "val-2" :: sideBySide) _ rfl rfl (by decide +kernel)
  revert hflags
  decide +kernel

end Saving

end ValidatorWatch
