import ValidatorWatch.Proofs.Monitor.Parts
/-!
# Saves and records that fail

State files are read when a monitor starts, and the history when someone asks
for it. So trouble with either reaches nothing but the files, the history and
what the snapshot says of the saves. The rest of the monitor is its `core`: a
part takes monitors with one core to monitors with one core, whatever trouble
there is, and shows the same on the way.

A save that fails leaves all state files as they are. It may make the folder,
and then a name that is too long for a file is no longer missing but refused.
-/

namespace ValidatorWatch

open Time (Instant)

/-! ## Without trouble

Whatever is `untroubled` is the same with saves and records that do not fail.
-/

def CheckConditions.untroubled (c : CheckConditions) : CheckConditions :=
  { c with saveTrouble := none, historyFails := false }

def TickConditions.untroubled (c : TickConditions) : TickConditions :=
  { c with saveTrouble := fun _ => none, historyFails := fun _ => false }

def ReportConditions.untroubled (c : ReportConditions) : ReportConditions :=
  { c with saveTrouble := fun _ => none }

def Operation.untroubled : Operation → Operation
  | .tick c => .tick c.untroubled
  | .check c name v => .check c.untroubled name v
  | .reports c => .reports c.untroubled
  | .restart now d h => .restart now d h

namespace Part

def untroubled : Part → Part
  | .check c name v => .check c.untroubled name v
  | .networks c => .networks c.untroubled
  | .report c name => .report c.untroubled name
  | p => p

/-- Whether a new monitor is started. -/
def isRestart : Part → Bool
  | .restart .. => true
  | _ => false

end Part

/-- What is seen of a part: how a check ended, the events that were told, the
messages that were attempted, and then the states and what is shown of them. -/
structure Glimpse where
  outcome : Option CheckOutcome
  events : List AlertEvent
  attempts : List Attempt
  states : NameMap (Option State)
  shown : NameMap ValidatorSnapshot

namespace Monitor

/-- The monitor apart from the files, the history and what it notes of saves. -/
def core (m : Monitor) : Monitor :=
  { m with
    store := StateStore.unused
    history := .unavailable
    unsaved := .empty
    snapshot := { m.snapshot with persistenceOk := true } }

/-- The events that a part tells. -/
def eventsOf (m : Monitor) : Part → List AlertEvent
  | .check c name _ => (m.checkErrand? c name).toList.flatMap Errand.events
  | .report c name => (m.reportErrand? c name).toList.flatMap Errand.events
  | _ => []

def glimpse (m : Monitor) (p : Part) : Glimpse :=
  let r := m.part p
  ⟨r.outcome, m.eventsOf p, r.attempts, r.monitor.states, r.monitor.snapshot.validators⟩

def glimpses (m : Monitor) : List Part → List Glimpse
  | [] => []
  | p :: rest => m.glimpse p :: (m.part p).monitor.glimpses rest

variable {m m' : Monitor} {name : String}

/-- Operations without trouble have parts without trouble. -/
theorem untroubled_parts (m : Monitor) (ops : List Operation) :
    (ops.flatMap m.parts).map Part.untroubled = (ops.map Operation.untroubled).flatMap m.parts := by
  have hone (op : Operation) : (m.parts op).map Part.untroubled = m.parts op.untroubled := by
    cases op with
    | tick c => simp only [parts, List.map_append, List.map_map]; rfl
    | reports c => simp only [parts, List.map_map]; rfl
    | check | restart => rfl
  rw [List.map_flatMap, List.flatMap_map]
  simp only [hone]

/-! ## The core -/

theorem core_persist (m : Monitor) (trouble : Option SaveTrouble) (now : Instant) (name : String) (s : State) :
    (m.persist trouble now name s).core = m.core := by
  rw [persist_eq]
  rfl

theorem core_keep (m : Monitor) (c : CheckConditions) (name : String) (v : ValidatorEntry) (s : State) :
    (m.core.keep c.untroubled name v s).core = (m.keep c name v s).core := by
  simp only [keep, core]

theorem core_conclude (m : Monitor) (c : CheckConditions) (name : String) (v : ValidatorEntry)
    (previous : Option State) (b : Bundle) :
    let r := m.conclude c name v previous b
    let q := m.core.conclude c.untroubled name v previous b
    q.monitor.core = r.monitor.core ∧ q.outcome = r.outcome ∧ q.attempts = r.attempts := by
  obtain ⟨-, hattempts, houtcome⟩ := @conclude_takes m name c v previous b
  obtain ⟨-, hattempts', houtcome'⟩ := @conclude_takes m.core name c.untroubled v previous b
  have htelling : Watch.check m.core.settings.rules name ⟨m.core.dispatcher, previous⟩ c.untroubled.now b =
      Watch.check m.settings.rules name ⟨m.dispatcher, previous⟩ c.now b := rfl
  rw [htelling] at hattempts' houtcome'
  refine ⟨?_, houtcome'.trans houtcome.symm, hattempts'.trans hattempts.symm⟩
  rw [monitor_conclude, monitor_conclude, htelling]
  exact core_keep { m with dispatcher := _ } c name v _

theorem core_check (m : Monitor) (c : CheckConditions) (name : String) (v : ValidatorEntry) :
    let r := m.check c name v
    let q := m.core.check c.untroubled name v
    q.monitor.core = r.monitor.core ∧ q.outcome = r.outcome ∧ q.attempts = r.attempts := by
  have hstates : m.core.states = m.states := rfl
  have hshutdown : m.core.shutdown = m.shutdown := rfl
  have hprobe : c.untroubled.probe = c.probe := rfl
  rw [check, check, hstates, hshutdown, hprobe]
  cases m.states.get? name with
  | none => exact ⟨rfl, rfl, rfl⟩
  | some previous =>
    dsimp only
    split
    · exact ⟨rfl, rfl, rfl⟩
    · cases c.probe with
      | answered b => exact core_conclude m c name v previous b
      | silent => exact core_conclude m c name v previous _
      | panicked | shutdown => exact ⟨rfl, rfl, rfl⟩

theorem core_report (m : Monitor) (c : ReportConditions) (name : String) :
    let r := report c { monitor := m } name
    let q := report c.untroubled { monitor := m.core } name
    q.monitor.core = r.monitor.core ∧ q.attempts = r.attempts := by
  have hstate : m.core.state? name = m.state? name := rfl
  cases hs : m.state? name with
  | none =>
    rw [report, report, hstate, hs]
    exact ⟨rfl, rfl⟩
  | some s =>
    obtain ⟨-, hattempts, -⟩ := report_takes (c := c) (r := { monitor := m }) hs
    obtain ⟨-, hattempts', -⟩ := report_takes (c := c.untroubled) (r := { monitor := m.core }) hs
    refine ⟨?_, hattempts'.trans hattempts.symm⟩
    rw [report, report, hstate, hs]
    dsimp only
    rw [core_persist, core_persist]
    rfl

theorem core_showNetworks (m : Monitor) (c : TickConditions) :
    (m.core.showNetworks c.untroubled).core = (m.showNetworks c).core := by
  let used := Network.all.filter fun n => m.settings.enabledValidators.any fun e => e.2.network = n
  have hfold : used.foldl (showNetwork c) { m.snapshot with persistenceOk := true } =
      { used.foldl (showNetwork c) m.snapshot with persistenceOk := true } := by
    refine List.foldl_hom (fun s : Snapshot => { s with persistenceOk := true }) fun s n => ?_
    unfold showNetwork
    cases c.networkHealth n <;> rfl
  exact congrArg (fun s => { m.core with snapshot := { s with persistenceOk := true } }) hfold

/-- What a part does to the core, and what it says, is the same without trouble. -/
theorem core_part {p : Part} (hp : p.isRestart = false) (m : Monitor) :
    let r := m.part p
    let q := m.core.part p.untroubled
    q.monitor.core = r.monitor.core ∧ q.outcome = r.outcome ∧ q.attempts = r.attempts := by
  cases p with
  | check c name v =>
    obtain ⟨hcore, houtcome, hattempts⟩ := core_check m c name v
    exact ⟨hcore, congrArg some houtcome, hattempts⟩
  | report c name =>
    obtain ⟨hcore, hattempts⟩ := core_report m c name
    exact ⟨hcore, rfl, hattempts⟩
  | networks c => exact ⟨core_showNetworks m c, rfl, rfl⟩
  | prune now =>
    refine ⟨?_, rfl, rfl⟩
    have hpruned (m : Monitor) : (m.pruneHistory now).2.core = m.core := by
      rw [pruneHistory]
      split <;> rfl
    exact (hpruned m.core).trans (hpruned m).symm
  | endTick | signal => exact ⟨rfl, rfl, rfl⟩
  | restart => cases hp

theorem eventsOf_core (m : Monitor) (p : Part) : m.core.eventsOf p.untroubled = m.eventsOf p := by
  cases p with
  | check c name v =>
    simp only [Part.untroubled, eventsOf, checkErrand?]
    have hstates : m.core.states = m.states := rfl
    have hshutdown : m.core.shutdown = m.shutdown := rfl
    have hbundle : c.untroubled.probe.bundle? m.core.settings.probeTimeoutSeconds c.untroubled.now =
        c.probe.bundle? m.settings.probeTimeoutSeconds c.now := rfl
    rw [hstates, hshutdown, hbundle]
    split <;> rfl
  | report c name =>
    have hstate : m.core.state? name = m.state? name := rfl
    simp only [Part.untroubled, eventsOf, reportErrand?, hstate]
    cases m.state? name <;> rfl
  | networks | endTick | prune | signal | restart => rfl

/-- Monitors with one core have one core after a part, and show the same. -/
theorem part_congr {p p' : Part} (hcore : m.core = m'.core) (hp : p.untroubled = p'.untroubled)
    (hstay : p.isRestart = false) (hstay' : p'.isRestart = false) :
    m.glimpse p = m'.glimpse p' ∧ (m.part p).monitor.core = (m'.part p').monitor.core := by
  obtain ⟨hr, houtcome, hattempts⟩ := core_part hstay m
  obtain ⟨hr', houtcome', hattempts'⟩ := core_part hstay' m'
  rw [hcore, hp] at hr houtcome hattempts
  have hsame : (m.part p).monitor.core = (m'.part p').monitor.core := hr.symm.trans hr'
  have hevents : m.eventsOf p = m'.eventsOf p' := by
    rw [← eventsOf_core, hcore, hp, eventsOf_core]
  have hstates : (m.part p).monitor.states = (m'.part p').monitor.states := congrArg (·.states) hsame
  have hshown : (m.part p).monitor.snapshot.validators = (m'.part p').monitor.snapshot.validators :=
    congrArg (·.snapshot.validators) hsame
  refine ⟨?_, hsame⟩
  simp only [glimpse, Glimpse.mk.injEq]
  exact ⟨houtcome.symm.trans houtcome', hevents, hattempts.symm.trans hattempts', hstates, hshown⟩

theorem run_congr {parts parts' : List Part} (hcore : m.core = m'.core)
    (hparts : parts.map Part.untroubled = parts'.map Part.untroubled) (hstay : ∀ p ∈ parts, p.isRestart = false) :
    m.glimpses parts = m'.glimpses parts' ∧ (m.run parts).core = (m'.run parts').core := by
  induction parts generalizing m m' parts' with
  | nil =>
    obtain rfl := List.map_eq_nil_iff.1 hparts.symm
    exact ⟨rfl, hcore⟩
  | cons p rest ih =>
    cases parts' with
    | nil => cases hparts
    | cons p' rest' =>
      obtain ⟨hp, hrest⟩ := List.cons.inj hparts
      have hstayp := hstay p List.mem_cons_self
      have hstayp' : p'.isRestart = false := by
        have hkind (p : Part) : p.untroubled.isRestart = p.isRestart := by cases p <;> rfl
        rw [← hkind, ← hp, hkind, hstayp]
      obtain ⟨hseen, hnext⟩ := part_congr hcore hp hstayp hstayp'
      obtain ⟨hseenRest, hend⟩ := ih hnext hrest fun p hp => hstay p (List.mem_cons_of_mem _ hp)
      exact ⟨congrArg₂ List.cons hseen hseenRest, hend⟩

end Monitor

namespace StateStore

/-- After a save that fails the same is loaded as before it, unless the save has
made the folder and the name is too long for a file. -/
theorem load_save_of_fail {s : StateStore} {trouble : Option SaveTrouble} {now : Instant} {a : String} {state : State}
    (h : (s.save trouble now a state).1 ≠ .ok ()) (b : String) :
    (s.save trouble now a state).2.load b = s.load b ∨
      s.place = .absent ∧ Folder.nameLimit < (fileName b).utf8ByteSize ∧ s.load b = .ok none ∧
        (s.save trouble now a state).2.load b =
          .error (.readFailed (s.filePath b) FileFault.nameTooLong.message) := by
  rcases readFile_save (b := b) (.inl h) with hsame | ⟨habsent, hlong, hrefused⟩
  · exact .inl (load_congr rfl rfl hsame)
  · refine .inr ⟨habsent, hlong, ?_, ?_⟩
    · have hmissing : s.readFile (fileName b) = .error .missing := by rw [readFile, habsent]
      rw [load, hmissing]
    · rw [load, hrefused]
      rfl

end StateStore

/-- Two runs from one core that differ in the trouble of saves and records
only, without restarts, are seen to be the same all along: the outcomes of the
checks, the events, the messages, the states with their ledgers and what is
shown of the validators. They end with one core. And a save that fails changes
nothing of what is loaded, but that a name too long for a file is refused once
there is a folder, and nothing of what is restored. -/
theorem write_faults_stay_outside (m m' : Monitor) (parts parts' : List Part) (hcore : m.core = m'.core)
    (hparts : parts.map Part.untroubled = parts'.map Part.untroubled) (hstay : ∀ p ∈ parts, p.isRestart = false) :
    m.glimpses parts = m'.glimpses parts' ∧ (m.run parts).core = (m'.run parts').core ∧
    ∀ (s : StateStore) trouble now a state, (s.save trouble now a state).1 ≠ .ok () → ∀ b,
      let after := (s.save trouble now a state).2
      after.restore b = s.restore b ∧
      (after.load b = s.load b ∨
        s.place = .absent ∧ Folder.nameLimit < (StateStore.fileName b).utf8ByteSize ∧ s.load b = .ok none ∧
          after.load b = .error (.readFailed (s.filePath b) FileFault.nameTooLong.message)) := by
  obtain ⟨hseen, hend⟩ := Monitor.run_congr hcore hparts hstay
  refine ⟨hseen, hend, fun s trouble now a state hfail b => ⟨?_, StateStore.load_save_of_fail hfail b⟩⟩
  exact StateStore.restore_save_of_ne (.inl hfail)

/-- A monitor with a history and nothing saved yet. -/
def recorded : Monitor :=
  .start halfEnabled silent StateStore.unused (.opened {}) StateStore.epoch

/-- The failed save of `silenceThenReport` shows in the snapshot and nowhere else. -/
theorem silenceThenReport_untroubled :
    let parts := silenceThenReport.flatMap recorded.parts
    let parts' := (silenceThenReport.map Operation.untroubled).flatMap recorded.parts
    recorded.glimpses parts = recorded.glimpses parts' ∧
      (recorded.run parts).snapshot.persistenceOk = false ∧ (recorded.run parts').snapshot.persistenceOk = true ∧
      (StateStore.unused.perform StateStore.brokenSave).2.load "val-2" = .ok none := by
  intro parts parts'
  have hparts : parts.map Part.untroubled = parts'.map Part.untroubled := by
    rw [Monitor.untroubled_parts, Monitor.untroubled_parts, List.map_map]
    rfl
  have hstay : ∀ p ∈ parts, p.isRestart = false := by decide +kernel
  obtain ⟨hseen, -, hfail⟩ := write_faults_stay_outside recorded recorded parts parts' rfl hparts hstay
  refine ⟨hseen, by decide +kernel, by decide +kernel, ?_⟩
  have hbroken : (StateStore.unused.perform StateStore.brokenSave).1 ≠ .ok () := by decide +kernel
  rcases (hfail StateStore.unused _ _ _ _ hbroken "val-2").2 with hsame | ⟨-, hlong, -⟩
  · exact hsame
  · exact absurd hlong (by decide +kernel)

namespace StateStore

/-- A first save under a name that is too long makes the folder and fails. -/
theorem save_of_long {a : String} (h : Folder.nameLimit < (fileName a).utf8ByteSize) (now : Instant) (state : State) :
    unused.save none now a state =
      (.error (.writeFailed (unused.filePath a) FileFault.nameTooLong.message),
        { unused with place := .folder .empty }) := by
  have hsize : Folder.nameLimit < (temporaryName a).utf8ByteSize := Nat.lt_of_lt_of_le h (size_fileName_le a)
  simp only [save, replaceFile, unused, makeFolder, Folder.write, if_pos hsize, Except.mapError]

/-- Before that save the name is missing, and then it is refused. -/
theorem load_of_long {a : String} (h : Folder.nameLimit < (fileName a).utf8ByteSize) (now : Instant) (state : State) :
    (unused.save none now a state).2.load a ≠ unused.load a := by
  rw [save_of_long h]
  simp [load, readFile, unused, Folder.read, h]

theorem utf8Len_replicate (n : Nat) : String.utf8Len (List.replicate n 'a') = n := by
  induction n with
  | zero => rfl
  | succ n ih => rw [List.replicate_succ, String.utf8Len_cons, ih]; rfl

/-- A name of so many letters. -/
def letters (n : Nat) : String := String.ofList (List.replicate n 'a')

theorem size_letters (n : Nat) : n ≤ (fileName (letters n)).utf8ByteSize := by
  have hletter : (if isSafe 'a' then 'a' else '_') = 'a' := by decide
  have hsafe : safeName (letters n) = List.replicate n 'a' := by
    simp only [safeName, letters, String.toList_ofList, List.map_replicate, hletter]
  calc n = String.utf8Len (List.replicate n 'a') := (utf8Len_replicate n).symm
    _ ≤ String.utf8Len ("state_".toList ++ safeName (letters n) ++ ".json".toList) :=
      String.utf8Len_le_of_infix (hsafe ▸ List.infix_append ..)
    _ = (fileName (letters n)).utf8ByteSize := (String.utf8ByteSize_ofList _).symm

end StateStore

/-- So a save that fails may change what is loaded. -/
theorem overlong_name_refused :
    ¬ ∀ (s : StateStore) (trouble : Option SaveTrouble) (now : Instant) (a : String) (state : State),
      (s.save trouble now a state).1 ≠ .ok () → ∀ b, (s.save trouble now a state).2.load b = s.load b := by
  intro h
  have hlong : Folder.nameLimit < (StateStore.fileName (StateStore.letters 300)).utf8ByteSize :=
    Nat.lt_of_lt_of_le (by decide) (StateStore.size_letters 300)
  refine StateStore.load_of_long hlong StateStore.epoch (.fresh StateStore.epoch) (h _ _ _ _ _ ?_ _)
  rw [StateStore.save_of_long hlong]
  exact nofun

end ValidatorWatch
