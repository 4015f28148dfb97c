import ValidatorWatch.Proofs.Dispatch.Indifference
import ValidatorWatch.Proofs.Monitor.Restart
import ValidatorWatch.Proofs.Store.Order
/-!
# Checks in any order

A check reads and changes what the monitor has of its validator, and of the
rest only what its channels remember and whether all states are on disk. So in
a tick a check comes to what it would come to first, whatever checks went
before it (`Monitor.Agree.check`, `Monitor.agree_check_of_ne`), as long as no
notifier counts its messages and no bucket keeps an event from a channel.

`checks_in_any_order` says so of a whole tick. In it the share of one validator
depends on its own circumstances only.
-/

namespace ValidatorWatch

open Time (Instant)

/-! ## What a check keeps -/

namespace HistoryAccess

/-- The history of one validator. -/
def of (name : String) : HistoryAccess → HistoryAccess
  | .opened h => .opened ⟨h.rows.filter fun r => r.validator = name⟩
  | access => access

theorem of_add_self (h : HistoryAccess) (fails : Bool) (r : CheckRecord) :
    (h.add fails r).of r.validator = (h.of r.validator).add fails r := by
  cases h with
  | unavailable | closed => rfl
  | opened h =>
    cases fails with
    | true => rfl
    | false => simp [add, of, History.store, CheckRecord.kept]

theorem of_add_of_ne {name : String} {r : CheckRecord} (hr : r.validator ≠ name) (h : HistoryAccess) (fails : Bool) :
    (h.add fails r).of name = h.of name := by
  cases h with
  | unavailable | closed => rfl
  | opened h =>
    cases fails with
    | true => rfl
    | false => simp [add, of, History.store, CheckRecord.kept, hr]

end HistoryAccess

/-- What no check changes of a snapshot. -/
def Snapshot.frame (s : Snapshot) : Snapshot :=
  { s with validators := .empty, persistenceOk := true }

theorem Snapshot.eq_of_frame {s t : Snapshot} (h : s.frame = t.frame) (hv : s.validators = t.validators)
    (hp : s.persistenceOk = t.persistenceOk) : s = t := by
  cases s
  cases t
  cases hv
  cases hp
  simpa [frame] using h

namespace Errand

/-- The errand on plain channels. -/
def plain (x : Errand) : Errand :=
  { x with watch := { x.watch with dispatcher := x.watch.dispatcher.plain } }

/-- An errand that no bucket hinders comes to the same on plain channels. -/
theorem telling_plain {x : Errand} (h : x.watch.dispatcher.Indifferent) (hx : x.Unhindered) :
    x.plain.telling.state = x.telling.state ∧ x.plain.telling.sent.report = x.telling.sent.report ∧
      x.plain.telling.sent.attempts = x.telling.sent.attempts := by
  obtain ⟨hledger, hreport, hattempts⟩ := Dispatcher.dispatch_plain h hx
  refine ⟨?_, hreport, hattempts⟩
  exact congrArg (fun l => ({ x.state with ledger := l } : State)) hledger

/-- Errands that no bucket hinders attempt the same messages on plain channels. -/
theorem attempts_plain {xs : List Errand} (h : ∀ x ∈ xs, x.watch.dispatcher.Indifferent)
    (hx : ∀ x ∈ xs, x.Unhindered) : attempts (xs.map plain) = attempts xs := by
  rw [attempts, attempts, List.flatMap_map]
  exact List.flatMap_congr fun x hmem => (telling_plain (h x hmem) (hx x hmem)).2.2

theorem save_plain {xs : List Errand} (h : ∀ x ∈ xs, x.watch.dispatcher.Indifferent)
    (hx : ∀ x ∈ xs, x.Unhindered) : (xs.map plain).map save = xs.map save := by
  rw [List.map_map]
  refine List.map_congr_left fun x hmem => ?_
  exact congrArg (StateStore.Save.mk x.trouble x.now x.validator) (telling_plain (h x hmem) (hx x hmem)).1

end Errand

namespace Monitor

variable {m m' : Monitor} {c : CheckConditions} {name : String} {v : ValidatorEntry} {x : Errand}

/-! ## What the monitor has of a validator -/

/-- Two monitors have the same of a validator, its state file aside, and work
alike. -/
structure Alike (name : String) (m m' : Monitor) : Prop where
  settings : m.settings = m'.settings
  shutdown : m.shutdown = m'.shutdown
  channels : m.dispatcher.plain = m'.dispatcher.plain
  state : m.states.get? name = m'.states.get? name
  shown : m.snapshot.validators.get? name = m'.snapshot.validators.get? name
  unsaved : m.unsaved.get? name = m'.unsaved.get? name
  history : m.history.of name = m'.history.of name

/-- Two monitors have the same of a validator and work alike. -/
structure Agree (name : String) (m m' : Monitor) : Prop extends Alike name m m' where
  store : m.store.Agree name m'.store

theorem Alike.refl (name : String) (m : Monitor) : Alike name m m :=
  ⟨rfl, rfl, rfl, rfl, rfl, rfl, rfl⟩

theorem Alike.symm (h : Alike name m m') : Alike name m' m :=
  ⟨h.settings.symm, h.shutdown.symm, h.channels.symm, h.state.symm, h.shown.symm, h.unsaved.symm, h.history.symm⟩

theorem Alike.trans {m'' : Monitor} (h : Alike name m m') (h' : Alike name m' m'') : Alike name m m'' :=
  ⟨h.settings.trans h'.settings, h.shutdown.trans h'.shutdown, h.channels.trans h'.channels,
    h.state.trans h'.state, h.shown.trans h'.shown, h.unsaved.trans h'.unsaved, h.history.trans h'.history⟩

theorem Agree.refl (name : String) (m : Monitor) : Agree name m m :=
  ⟨.refl name m, .refl name m.store⟩

theorem Agree.trans {m'' : Monitor} (h : Agree name m m') (h' : Agree name m' m'') : Agree name m m'' :=
  ⟨h.toAlike.trans h'.toAlike, h.store.trans h'.store⟩

/-! ## One check -/

/-- The monitor with plain channels. -/
def plain (m : Monitor) : Monitor :=
  { m with dispatcher := m.dispatcher.plain }

theorem agree_plain (name : String) (m : Monitor) : Agree name m.plain m :=
  ⟨⟨rfl, rfl, Dispatcher.plain_plain, rfl, rfl, rfl, rfl⟩, .refl name m.store⟩

/-- Such monitors keep a new state of the validator alike. -/
theorem Agree.keep (h : Agree name m m') (c : CheckConditions) (v : ValidatorEntry) (s : State) :
    Agree name (m.keep c name v s) (m'.keep c name v s) := by
  obtain ⟨hsaved, hstore⟩ := h.store.save c.saveTrouble c.now s
  refine ⟨⟨h.settings, h.shutdown, h.channels, ?_, ?_, ?_, ?_⟩, hstore⟩
  · simp only [Monitor.keep, NameMap.get?_insert_self]
  · simp only [Monitor.keep, NameMap.get?_insert_self]
  · simp only [Monitor.keep, Unsaved.get?_note, hsaved, if_true]
  · simp only [Monitor.keep]
    have hm := HistoryAccess.of_add_self m.history c.historyFails (.ofState name s (s.lastObservation.getD c.now))
    have hm' := HistoryAccess.of_add_self m'.history c.historyFails (.ofState name s (s.lastObservation.getD c.now))
    exact hm.trans ((congrArg _ h.history).trans hm'.symm)

/-- What is kept of one validator is nothing to another. -/
theorem alike_keep_of_ne {other : String} (hne : name ≠ other) (s : State) :
    Alike other m (m.keep c name v s) := by
  refine ⟨rfl, rfl, rfl, ?_, ?_, ?_, ?_⟩
  · exact (NameMap.get?_insert_of_ne _ _ hne).symm
  · exact (NameMap.get?_insert_of_ne _ _ hne).symm
  · simp only [Monitor.keep, Unsaved.get?_note, if_neg hne]
  · exact (HistoryAccess.of_add_of_ne hne _ _).symm

/-- The errand of a check is on the channels of the monitor. -/
theorem dispatcher_checkErrand? (hx : m.checkErrand? c name = some x) : x.watch.dispatcher = m.dispatcher := by
  unfold checkErrand? at hx
  split at hx
  · obtain rfl := Option.some.inj hx
    rfl
  · cases hx

/-- A check leaves nothing behind on the channels but what they remember. -/
theorem plain_check (m : Monitor) (c : CheckConditions) (name : String) (v : ValidatorEntry) :
    (m.check c name v).monitor.dispatcher.plain = m.dispatcher.plain := by
  rcases check_of m c name v with ⟨x, hx, -, -, -, ht, -⟩ | ⟨-, hr⟩
  · rw [ht.dispatcher, ← dispatcher_checkErrand? hx]
    exact Dispatcher.plain_dispatch
  · rw [hr]

/-- A check of one validator is nothing to another. -/
theorem alike_check_of_ne {other : String} (hne : name ≠ other) (hprobe : c.probe.isShutdown = false) :
    Alike other m (m.check c name v).monitor := by
  have hchannels := plain_check m c name v
  rcases check_of m c name v with ⟨x, hx, -⟩ | ⟨-, hr⟩
  · rw [monitor_check v hx] at hchannels ⊢
    have hsent : Alike other m { m with dispatcher := x.telling.sent.dispatcher } :=
      ⟨rfl, rfl, hchannels.symm, rfl, rfl, rfl, rfl⟩
    exact hsent.trans (alike_keep_of_ne hne _)
  · rw [hr, hprobe, Bool.and_false, Bool.or_false]
    exact .refl other m

theorem agree_check_of_ne {other : String} (hne : StateStore.fileName name ≠ StateStore.fileName other)
    (hprobe : c.probe.isShutdown = false) : Agree other m (m.check c name v).monitor := by
  refine ⟨alike_check_of_ne (fun h => hne (congrArg _ h)) hprobe, ?_⟩
  rcases check_of m c name v with ⟨x, -, -, -, -, ht, -⟩ | ⟨-, hr⟩
  · rw [ht.store]
    exact StateStore.agree_save_of_ne hne
  · rw [hr]
    exact .refl other m.store

theorem checkErrand?_plain (m : Monitor) (c : CheckConditions) (name : String) :
    m.plain.checkErrand? c name = (m.checkErrand? c name).map Errand.plain := by
  simp only [checkErrand?, plain]
  cases m.states.get? name with
  | none => rfl
  | some previous =>
    cases m.shutdown with
    | true => rfl
    | false => cases c.probe.bundle? m.settings.probeTimeoutSeconds c.now <;> rfl

theorem Alike.checkErrand? (h : Alike name m m') (c : CheckConditions) :
    m.plain.checkErrand? c name = m'.plain.checkErrand? c name := by
  unfold Monitor.checkErrand? plain
  rw [h.state, h.shutdown, h.settings, h.channels]

/-- On monitors that have the same of a validator its check comes to the same. -/
theorem Agree.check (h : Agree name m m') (v : ValidatorEntry) (hind : m'.dispatcher.Indifferent)
    (hx : ∀ x ∈ m'.checkErrand? c name, x.Unhindered) :
    Agree name (m.plain.check c name v).monitor (m'.check c name v).monitor ∧
      (m.plain.check c name v).outcome = (m'.check c name v).outcome := by
  have herrand : m.plain.checkErrand? c name = (m'.checkErrand? c name).map Errand.plain :=
    (h.checkErrand? c).trans (checkErrand?_plain m' c name)
  have hplain : Agree name m.plain m' := (agree_plain name m).trans h
  rcases check_of m' c name v with ⟨y, hy, -, -, -, -, -, ho⟩ | ⟨hy, hr⟩ <;> rw [hy] at herrand <;>
    rcases check_of m.plain c name v with ⟨x, hx', -, -, -, -, -, ho'⟩ | ⟨hx', hr'⟩ <;> rw [hx'] at herrand
  · obtain rfl := Option.some.inj herrand
    have hindifferent : y.watch.dispatcher.Indifferent := dispatcher_checkErrand? hy ▸ hind
    obtain ⟨hstate, hreport, -⟩ := Errand.telling_plain hindifferent (hx y hy)
    refine ⟨?_, ?_⟩
    · have hchannels : y.plain.telling.sent.dispatcher.plain = y.telling.sent.dispatcher.plain := by
        have hleft : y.plain.telling.sent.dispatcher.plain = y.watch.dispatcher.plain.plain := Dispatcher.plain_dispatch
        have hright : y.telling.sent.dispatcher.plain = y.watch.dispatcher.plain := Dispatcher.plain_dispatch
        rw [hleft, hright, Dispatcher.plain_plain]
      have hafter : Agree name { m.plain with dispatcher := y.plain.telling.sent.dispatcher }
          { m' with dispatcher := y.telling.sent.dispatcher } :=
        ⟨{ hplain.toAlike with channels := hchannels }, hplain.store⟩
      rw [monitor_check v hy, monitor_check v hx', hstate]
      exact hafter.keep c v _
    · rw [ho, ho', hstate, hreport]
      rfl
  · cases herrand
  · cases herrand
  · rw [hr, hr']
    refine ⟨⟨{ hplain.toAlike with shutdown := ?_ }, hplain.store⟩, ?_⟩
    · rw [hplain.shutdown, hplain.state]
    · show m.plain.givenUp c name = m'.givenUp c name
      rw [givenUp, givenUp, hplain.shutdown, hplain.state]

/-! ## Many checks -/

/-- A check that is made before all others, on plain channels. -/
def alone (m : Monitor) (c : TickConditions) (e : String × ValidatorEntry) : CheckResult :=
  m.plain.check (c.check e.1) e.1 e.2

/-- Its errand. -/
def aloneErrand? (m : Monitor) (c : TickConditions) (e : String × ValidatorEntry) : Option Errand :=
  m.plain.checkErrand? (c.check e.1) e.1

/-- No two of these validators share a state file. -/
def Apart (order : List (String × ValidatorEntry)) : Prop :=
  order.Pairwise fun e e' => StateStore.fileName e.1 ≠ StateStore.fileName e'.1

/-- Every one of many checks comes to what it would come to alone. -/
structure Sum (m : Monitor) (c : TickConditions) (order : List (String × ValidatorEntry)) (r r' : TickResult) :
    Prop where
  checked : ∀ e ∈ order, (m.alone c e).monitor.Agree e.1 r'.monitor
  others : ∀ name, (∀ e ∈ order, e.1 ≠ name) → r.monitor.Alike name r'.monitor
  apart : ∀ name, (∀ e ∈ order, StateStore.fileName e.1 ≠ StateStore.fileName name) → r.monitor.Agree name r'.monitor
  outcomes : r'.outcomes = r.outcomes ++ order.map fun e => (e.1, (m.alone c e).outcome)
  errands : (r.monitor.checkErrands c order).map Errand.plain = order.filterMap (m.aloneErrand? c)

theorem sum_checkAll {c : TickConditions} {order : List (String × ValidatorEntry)} {r : TickResult}
    (hfirst : ∀ e ∈ order, m.Agree e.1 r.monitor) (hapart : Apart order)
    (hprobe : ∀ name, (c.probe name).isShutdown = false) (hind : r.monitor.dispatcher.Indifferent)
    (hx : ∀ x ∈ r.monitor.checkErrands c order, x.Unhindered) :
    Sum m c order r (order.foldl (TickResult.addCheck c) r) := by
  induction order generalizing r with
  | nil =>
    exact ⟨by simp, fun name _ => .refl name _, fun name _ => .refl name _, (List.append_nil _).symm, rfl⟩
  | cons e rest ih =>
    obtain ⟨hne, hapart⟩ := List.pairwise_cons.1 hapart
    rw [checkErrands] at hx
    have hagree : m.Agree e.1 r.monitor := hfirst e List.mem_cons_self
    obtain ⟨hnow, houtcome⟩ := hagree.check (c := c.check e.1) e.2 hind
      fun x hxe => hx x (List.mem_append_left _ (Option.mem_toList.2 hxe))
    -- The other checks find what they would find first.
    have hrest := ih (r := r.addCheck c e)
      (fun e' he' => (hfirst e' (List.mem_cons_of_mem _ he')).trans (agree_check_of_ne (hne e' he') (hprobe e.1)))
      hapart (hind.of_plain (congrArg Dispatcher.lines (plain_check r.monitor (c.check e.1) e.1 e.2)))
      fun x hxr => hx x (List.mem_append_right _ hxr)
    constructor
    case checked =>
      refine List.forall_mem_cons.2 ⟨?_, hrest.checked⟩
      exact hnow.trans (hrest.apart e.1 fun e' he' => (hne e' he').symm)
    case others =>
      intro name hname
      obtain ⟨he, hname⟩ := List.forall_mem_cons.1 hname
      exact (alike_check_of_ne he (hprobe e.1)).trans (hrest.others name hname)
    case apart =>
      intro name hname
      obtain ⟨he, hname⟩ := List.forall_mem_cons.1 hname
      exact (agree_check_of_ne he (hprobe e.1)).trans (hrest.apart name hname)
    case outcomes =>
      rw [List.foldl_cons, hrest.outcomes, List.map_cons, alone, houtcome, TickResult.addCheck, List.append_assoc]
      rfl
    case errands =>
      have herrand : m.aloneErrand? c e = (r.monitor.checkErrand? (c.check e.1) e.1).map Errand.plain :=
        (hagree.checkErrand? (c.check e.1)).trans (checkErrand?_plain r.monitor (c.check e.1) e.1)
      have htail : ((r.monitor.check (c.check e.1) e.1 e.2).monitor.checkErrands c rest).map Errand.plain =
          rest.filterMap (m.aloneErrand? c) := hrest.errands
      rw [checkErrands, List.map_append, htail, List.filterMap_cons, herrand]
      cases r.monitor.checkErrand? (c.check e.1) e.1 <;> rfl

/-! ## The snapshot -/

theorem snapshot_checkAll {c : TickConditions} {order : List (String × ValidatorEntry)} {r : TickResult}
    (h : r.monitor.checkErrands c order = []) :
    (order.foldl (TickResult.addCheck c) r).monitor.snapshot = r.monitor.snapshot := by
  induction order generalizing r with
  | nil => rfl
  | cons e rest ih =>
    rw [checkErrands, List.append_eq_nil_iff, Option.toList_eq_nil_iff] at h
    have hrest := ih (r := r.addCheck c e) h.2
    rw [List.foldl_cons, hrest]
    exact (snapshot_check e.2 h.1).1

theorem frame_check (m : Monitor) (c : CheckConditions) (name : String) (v : ValidatorEntry) :
    (m.check c name v).monitor.snapshot.frame = m.snapshot.frame := by
  cases hx : m.checkErrand? c name with
  | some x =>
    rw [monitor_check v hx]
    rfl
  | none => rw [(snapshot_check v hx).1]

theorem frame_checkAll {c : TickConditions} (order : List (String × ValidatorEntry)) (r : TickResult) :
    (order.foldl (TickResult.addCheck c) r).monitor.snapshot.frame = r.monitor.snapshot.frame := by
  refine List.foldlRecOn order _
    (motive := fun s : TickResult => s.monitor.snapshot.frame = r.monitor.snapshot.frame) rfl ?_
  intro s hs e _
  exact (frame_check s.monitor (c.check e.1) e.1 e.2).trans hs

/-! ## Ticks -/

/-- A tick whose checks go on in this order. -/
def tickIn (m : Monitor) (c : TickConditions) (order : List (String × ValidatorEntry)) : TickResult :=
  let r := m.checkAll c order
  { r with monitor := (r.monitor.showNetworks c).endTick c.now }

/-- The order of a tick is one of them. -/
theorem tick_eq_tickIn (m : Monitor) (c : TickConditions) : m.tick c = m.tickIn c (m.checkOrder c) := rfl

/-- What a tick comes to for one validator: how its checks ended, what it was
told, its state, what is shown of it, what the state folder has of it, and its
history. -/
structure Share where
  outcomes : List (String × CheckOutcome)
  attempts : List Attempt
  state : Option State
  shown : Option ValidatorSnapshot
  restored : Option State
  history : HistoryAccess

/-- The share of a validator in such a tick. -/
def share (m : Monitor) (c : TickConditions) (order : List (String × ValidatorEntry)) (name : String) : Share :=
  let r := m.tickIn c order
  { outcomes := r.outcomes.filter fun o => o.1 = name
    attempts := Errand.attempts ((m.checkErrands c order).filter fun x => x.validator = name)
    state := r.monitor.state? name
    shown := r.monitor.snapshot.validators.get? name
    restored := r.monitor.store.restore name
    history := r.monitor.history.of name }

variable {cond cond' : TickConditions} {order order' : List (String × ValidatorEntry)} {s : Settings}

theorem pairwise_enabled (s : Settings) : s.enabledValidators.Pairwise fun e e' => e.1 ≠ e'.1 := by
  refine List.Pairwise.imp ?_ (s.validators.sorted.filter _)
  intro e e' hlt heq
  rw [heq] at hlt
  exact String.lt_irrefl _ hlt

theorem apart_of_perm (hperm : order.Perm s.enabledValidators) (hapart : s.KeptApart) : Apart order := by
  have hsymm : Std.Symm fun e e' : String × ValidatorEntry => StateStore.fileName e.1 ≠ StateStore.fileName e'.1 :=
    ⟨fun _ _ h => h.symm⟩
  refine (hperm.pairwise_iff (fun h => h.symm)).2 ?_
  refine (pairwise_enabled s).imp_of_mem fun he he' hne hfile => hne ?_
  exact hapart _ (List.mem_map_of_mem he) _ (List.mem_map_of_mem he') hfile

/-- One validator is listed once. -/
theorem filter_name {e : String × ValidatorEntry} (hapart : Apart order) (he : e ∈ order) :
    (order.filter fun e' => e'.1 = e.1) = [e] := by
  induction order with
  | nil => cases he
  | cons e' rest ih =>
    obtain ⟨hne, hapart⟩ := List.pairwise_cons.1 hapart
    rcases List.mem_cons.1 he with rfl | he
    · have hrest : (rest.filter fun e' => e'.1 = e.1) = [] :=
        List.filter_eq_nil_iff.2 fun e' he' hname => hne e' he' (congrArg _ (of_decide_eq_true hname).symm)
      rw [List.filter_cons_of_pos (by simp), hrest]
    · have hname : e'.1 ≠ e.1 := fun h => hne e he (congrArg _ h)
      rw [List.filter_cons_of_neg (by simpa using hname), ih hapart he]

/-! ## The errands of a tick -/

theorem indifferent_checkErrands (hind : m.dispatcher.Indifferent) (c : TickConditions)
    (order : List (String × ValidatorEntry)) :
    ∀ x ∈ m.checkErrands c order, x.watch.dispatcher.Indifferent := by
  induction order generalizing m with
  | nil => simp [checkErrands]
  | cons e rest ih =>
    rw [checkErrands]
    refine List.forall_mem_append.2 ⟨?_, ?_⟩
    · intro x hx
      rw [dispatcher_checkErrand? (Option.mem_toList.1 hx)]
      exact hind
    · exact ih (hind.of_plain (congrArg Dispatcher.lines (plain_check m (c.check e.1) e.1 e.2)))

theorem validator_aloneErrand? {e : String × ValidatorEntry} (hx : m.aloneErrand? cond e = some x) :
    x.validator = e.1 := by
  rcases check_of m.plain (cond.check e.1) e.1 e.2 with ⟨y, hy, hv, -⟩ | ⟨hy, -⟩ <;> rw [aloneErrand?, hy] at hx
  · rw [← Option.some.inj hx]
    exact hv
  · cases hx

theorem filter_errands (name : String) (order : List (String × ValidatorEntry)) :
    ((order.filterMap (m.aloneErrand? cond)).filter fun x => x.validator = name) =
      (order.filter fun e => e.1 = name).filterMap (m.aloneErrand? cond) := by
  induction order with
  | nil => rfl
  | cons e rest ih =>
    rw [List.filterMap_cons, List.filter_cons]
    cases hx : m.aloneErrand? cond e with
    | none =>
      dsimp only
      rw [ih]
      split
      · rw [List.filterMap_cons, hx]
      · rfl
    | some x =>
      dsimp only
      rw [List.filter_cons, validator_aloneErrand? hx, ih]
      split
      · rw [List.filterMap_cons, hx]
      · rfl

/-- The summary of a tick counts its checks. -/
theorem summary_perm {r r' : TickResult} (h : r.outcomes.Perm r'.outcomes) : r.summary = r'.summary := by
  refine h.foldl_eq' ?_ _
  intro a _ b _ t
  rcases a with ⟨-, _ | _ | _ | _⟩ <;> rcases b with ⟨-, _ | _ | _ | _⟩ <;>
    simp [TickSummary.add, Nat.add_right_comm]

/-! ## One tick and another -/

theorem sum_tickIn (horder : order.Perm m.settings.enabledValidators) (hapart : m.settings.KeptApart)
    (hind : m.dispatcher.Indifferent) (hprobe : ∀ name, (cond.probe name).isShutdown = false)
    (hx : ∀ x ∈ m.checkErrands cond order, x.Unhindered) :
    Sum m cond order { monitor := m } (m.checkAll cond order) :=
  sum_checkAll (fun e _ => .refl e.1 m) (apart_of_perm horder hapart) hprobe hind hx

/-- The share of a validator in a tick, if its check goes first. -/
def aloneShare (m : Monitor) (c : TickConditions) (e : String × ValidatorEntry) : Share :=
  let r := m.alone c e
  { outcomes := [(e.1, r.outcome)]
    attempts := Errand.attempts (m.aloneErrand? c e).toList
    state := r.monitor.state? e.1
    shown := r.monitor.snapshot.validators.get? e.1
    restored := r.monitor.store.restore e.1
    history := r.monitor.history.of e.1 }

theorem share_eq {e : String × ValidatorEntry} (hsum : Sum m cond order { monitor := m } (m.checkAll cond order))
    (hind : m.dispatcher.Indifferent) (hx : ∀ x ∈ m.checkErrands cond order, x.Unhindered) (hapart : Apart order)
    (he : e ∈ order) : m.share cond order e.1 = m.aloneShare cond e := by
  have hagree := hsum.checked e he
  have houtcomes : ((m.checkAll cond order).outcomes.filter fun o => o.1 = e.1) =
      [(e.1, (m.alone cond e).outcome)] := by
    rw [hsum.outcomes, List.nil_append, List.filter_map]
    have hname : ((fun o : String × CheckOutcome => decide (o.1 = e.1)) ∘
        fun e' => (e'.1, (m.alone cond e').outcome)) =
          fun e' : String × ValidatorEntry => decide (e'.1 = e.1) := rfl
    rw [hname, filter_name hapart he]
    rfl
  have hattempts : Errand.attempts ((m.checkErrands cond order).filter fun x => x.validator = e.1) =
      Errand.attempts (m.aloneErrand? cond e).toList := by
    have hindifferent := indifferent_checkErrands hind cond order
    rw [← Errand.attempts_plain (fun x hmem => hindifferent x (List.mem_filter.1 hmem).1)
      (fun x hmem => hx x (List.mem_filter.1 hmem).1)]
    have hplain : ((m.checkErrands cond order).filter fun x => x.validator = e.1).map Errand.plain =
        ((m.checkErrands cond order).map Errand.plain).filter fun x => x.validator = e.1 := by
      rw [List.filter_map]
      rfl
    rw [hplain, hsum.errands, filter_errands, filter_name hapart he, List.filterMap_cons]
    cases m.aloneErrand? cond e <;> rfl
  have hshown : (m.tickIn cond order).monitor.snapshot.validators.get? e.1 =
      (m.checkAll cond order).monitor.snapshot.validators.get? e.1 :=
    congrArg (NameMap.get? · e.1) (validators_showNetworks (m.checkAll cond order).monitor cond)
  have hstate : (m.checkAll cond order).monitor.state? e.1 = (m.alone cond e).monitor.state? e.1 := by
    rw [state?, state?, hagree.state]
  simp only [share, aloneShare, Share.mk.injEq]
  exact ⟨houtcomes, hattempts, hstate, hshown.trans hagree.shown.symm, hagree.store.restore.symm, hagree.history.symm⟩

/-- Of two orders every validator has the same. -/
theorem alike_orders (hsum : Sum m cond order { monitor := m } (m.checkAll cond order))
    (hsum' : Sum m cond order' { monitor := m } (m.checkAll cond order')) (hperm : order.Perm order')
    (name : String) : Alike name (m.checkAll cond order).monitor (m.checkAll cond order').monitor := by
  by_cases hname : ∃ e ∈ order, e.1 = name
  · obtain ⟨e, he, rfl⟩ := hname
    exact (hsum.checked e he).toAlike.symm.trans (hsum'.checked e (hperm.mem_iff.1 he)).toAlike
  · simp only [not_exists, not_and] at hname
    exact (hsum.others name hname).symm.trans (hsum'.others name fun e he => hname e (hperm.mem_iff.2 he))

theorem store_orders (hsum : Sum m cond order { monitor := m } (m.checkAll cond order))
    (hsum' : Sum m cond order' { monitor := m } (m.checkAll cond order')) (hperm : order.Perm order')
    (hapart : Apart order) (hind : m.dispatcher.Indifferent) (hx : ∀ x ∈ m.checkErrands cond order, x.Unhindered)
    (hx' : ∀ x ∈ m.checkErrands cond order', x.Unhindered) :
    (m.checkAll cond order).monitor.store = (m.checkAll cond order').monitor.store := by
  have hstore := store_foldl_addCheck (c := cond) order { monitor := m }
  have hstore' := store_foldl_addCheck (c := cond) order' { monitor := m }
  rw [← Errand.save_plain (indifferent_checkErrands hind cond order) hx, hsum.errands] at hstore
  rw [← Errand.save_plain (indifferent_checkErrands hind cond order') hx', hsum'.errands] at hstore'
  rw [checkAll, checkAll, hstore, hstore']
  refine StateStore.saveAll_perm ((hperm.filterMap _).map _) ?_
  rw [List.pairwise_map, List.pairwise_filterMap]
  refine hapart.imp fun hne x hex y hey => ?_
  show StateStore.fileName x.validator ≠ StateStore.fileName y.validator
  rw [validator_aloneErrand? hex, validator_aloneErrand? hey]
  exact hne

theorem snapshot_tickIn (h : m.snapshot = m'.snapshot) (hsettings : m.settings = m'.settings) (now : Instant) :
    ((m.showNetworks cond).endTick now).snapshot = ((m'.showNetworks cond).endTick now).snapshot := by
  unfold endTick showNetworks
  rw [h, hsettings]

theorem snapshot_orders (hsum : Sum m cond order { monitor := m } (m.checkAll cond order))
    (hsum' : Sum m cond order' { monitor := m } (m.checkAll cond order')) (hperm : order.Perm order') :
    (m.checkAll cond order).monitor.snapshot = (m.checkAll cond order').monitor.snapshot := by
  have halike := alike_orders hsum hsum' hperm
  have hframe : (m.checkAll cond order).monitor.snapshot.frame = (m.checkAll cond order').monitor.snapshot.frame :=
    (frame_checkAll order { monitor := m }).trans (frame_checkAll order' { monitor := m }).symm
  refine Snapshot.eq_of_frame hframe (NameMap.ext_get? fun name => (halike name).shown) ?_
  have hunsaved : (m.checkAll cond order).monitor.unsaved = (m.checkAll cond order').monitor.unsaved :=
    NameMap.ext_get? fun name => (halike name).unsaved
  have hnone : m.checkErrands cond order = [] ↔ m.checkErrands cond order' = [] := by
    have hlength := congrArg List.length hsum.errands
    have hlength' := congrArg List.length hsum'.errands
    rw [List.length_map, (hperm.filterMap _).length_eq] at hlength
    rw [List.length_map] at hlength'
    rw [← List.length_eq_zero_iff, ← List.length_eq_zero_iff]
    exact ⟨fun h => hlength'.trans (hlength.symm.trans h), fun h => hlength.trans (hlength'.symm.trans h)⟩
  -- The snapshot says something new of the saves only if there are some.
  by_cases herrands : m.checkErrands cond order = []
  · rw [checkAll, checkAll, snapshot_checkAll (r := { monitor := m }) herrands,
      snapshot_checkAll (r := { monitor := m }) (hnone.1 herrands)]
  · have hflags : (m.checkAll cond order).monitor.Flags := flags_checkAll (r := { monitor := m }) herrands
    have hflags' : (m.checkAll cond order').monitor.Flags :=
      flags_checkAll (r := { monitor := m }) fun h => herrands (hnone.2 h)
    rw [hflags, hflags', hunsaved]

end Monitor

/-- In a tick the share of a validator that is checked depends on the
circumstances of its own check only, whatever the order of the checks, and with
all circumstances the same, so is all that the tick comes to. Shutdowns aside,
this is so as long as no two of the validators share a state file, no notifier
counts its messages, and no bucket keeps an event from a channel. -/
theorem checks_in_any_order (m : Monitor) (c c' : TickConditions) (order order' : List (String × ValidatorEntry))
    (horder : order.Perm m.settings.enabledValidators) (horder' : order'.Perm m.settings.enabledValidators)
    (hapart : m.settings.KeptApart) (hind : m.dispatcher.Indifferent)
    (hprobe : ∀ name, (c.probe name).isShutdown = false) (hprobe' : ∀ name, (c'.probe name).isShutdown = false)
    (hx : ∀ x ∈ m.checkErrands c order, x.Unhindered) (hx' : ∀ x ∈ m.checkErrands c' order', x.Unhindered) :
    ((m.tickIn c order).attempts = Errand.attempts (m.checkErrands c order) ∧
      ∀ name ∈ m.settings.enabledValidators.map Prod.fst, c.check name = c'.check name →
        m.share c order name = m.share c' order' name) ∧
    (c = c' →
      (m.tickIn c order).monitor.states = (m.tickIn c' order').monitor.states ∧
      (m.tickIn c order).monitor.snapshot = (m.tickIn c' order').monitor.snapshot ∧
      (m.tickIn c order).monitor.store = (m.tickIn c' order').monitor.store ∧
      (∀ name, (m.tickIn c order).monitor.history.of name = (m.tickIn c' order').monitor.history.of name) ∧
      (m.tickIn c order).outcomes.Perm (m.tickIn c' order').outcomes ∧
      (m.tickIn c order).summary = (m.tickIn c' order').summary) := by
  have hsum := Monitor.sum_tickIn horder hapart hind hprobe hx
  have hsum' := Monitor.sum_tickIn horder' hapart hind hprobe' hx'
  refine ⟨⟨Monitor.attempts_foldl_addCheck order { monitor := m }, ?_⟩, ?_⟩
  · intro name hname hsame
    obtain ⟨e, he, rfl⟩ := List.mem_map.1 hname
    rw [Monitor.share_eq hsum hind hx (Monitor.apart_of_perm horder hapart) (horder.mem_iff.2 he),
      Monitor.share_eq hsum' hind hx' (Monitor.apart_of_perm horder' hapart) (horder'.mem_iff.2 he)]
    simp only [Monitor.aloneShare, Monitor.alone, Monitor.aloneErrand?, hsame]
  · rintro rfl
    have hperm : order.Perm order' := horder.trans horder'.symm
    have halike := Monitor.alike_orders hsum hsum' hperm
    have hsnapshot := Monitor.snapshot_orders hsum hsum' hperm
    have houtcomes : (m.tickIn c order).outcomes.Perm (m.tickIn c order').outcomes := by
      show (m.checkAll c order).outcomes.Perm (m.checkAll c order').outcomes
      rw [hsum.outcomes, hsum'.outcomes]
      exact (hperm.map _).append_left _
    refine ⟨NameMap.ext_get? fun name => (halike name).state, ?_, ?_, fun name => (halike name).history, houtcomes,
      Monitor.summary_perm houtcomes⟩
    · exact Monitor.snapshot_tickIn hsnapshot (halike "").settings c.now
    · exact Monitor.store_orders hsum hsum' hperm (Monitor.apart_of_perm horder hapart) hind hx hx'

/-! ## A panic and a silence -/

/-- One channel, to which no message gets through. -/
def cutOff : Dispatcher where
  lines := ⟨some { notifier := fun _ _ => .error (.timeout "pager"), bucket := none }, none, none⟩
  cooldown := .ofSeconds 300
  emergencyCooldown := .ofSeconds 1800

/-- A monitor of two validators, each of which counts as down after one failed
check. -/
def neighbours : Monitor :=
  let entry : ValidatorEntry := { host := "h", publicKey := "" }
  let settings : Settings := { alertThreshold := 1, validators := (NameMap.insert .empty "a" entry).insert "b" entry }
  .start settings cutOff StateStore.unused .unavailable StateStore.epoch

/-- A tick in which `a` has such a probe and that of `b` does not end. -/
def tickBeside (probe : ProbeOutcome) : TickConditions where
  now := StateStore.epoch
  probe name := if name = "a" then probe else .silent

/-- What the check of `b` comes to is the same before and after that of `a`,
and whether that panics or not. -/
theorem silence_beside_panic :
    let order := neighbours.settings.enabledValidators
    neighbours.share (tickBeside .panicked) order "b" = neighbours.share (tickBeside .silent) order.reverse "b" ∧
      (neighbours.tickIn (tickBeside .silent) order).monitor.store =
        (neighbours.tickIn (tickBeside .silent) order.reverse).monitor.store := by
  intro order
  have hreverse : order.reverse.Perm order := List.reverse_perm order
  have hapart : neighbours.settings.KeptApart := by unfold Settings.KeptApart; decide +kernel
  have hind : neighbours.dispatcher.Indifferent := by
    intro k line hline i n
    cases k with
    | primary =>
      obtain rfl := Option.some.inj hline
      rfl
    | secondary | emergency => cases hline
  have hprobe (p : ProbeOutcome) (hp : p.isShutdown = false) (name : String) :
      ((tickBeside p).probe name).isShutdown = false := by
    rw [tickBeside]
    dsimp only
    split
    · exact hp
    · rfl
  have hpanic : ∀ x ∈ neighbours.checkErrands (tickBeside .panicked) order, x.Unhindered := by decide +kernel
  have hsilent : ∀ x ∈ neighbours.checkErrands (tickBeside .silent) order, x.Unhindered := by decide +kernel
  have hlater : ∀ x ∈ neighbours.checkErrands (tickBeside .silent) order.reverse, x.Unhindered := by decide +kernel
  have hbeside := checks_in_any_order neighbours (tickBeside .panicked) (tickBeside .silent) order order.reverse
    (.refl _) hreverse hapart hind (hprobe _ rfl) (hprobe _ rfl) hpanic hlater
  have hsame := checks_in_any_order neighbours (tickBeside .silent) (tickBeside .silent) order order.reverse
    (.refl _) hreverse hapart hind (hprobe _ rfl) (hprobe _ rfl) hsilent hlater
  have hlisted : "b" ∈ neighbours.settings.enabledValidators.map Prod.fst := by decide +kernel
  exact ⟨hbeside.1.2 "b" hlisted rfl, (hsame.2 rfl).2.2.1⟩

end ValidatorWatch
