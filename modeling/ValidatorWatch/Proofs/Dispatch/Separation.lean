import ValidatorWatch.Proofs.Dispatch.Journal
/-!
# Channels do not interfere

All channels share one ledger, one queue and one round. Still each of them goes
its own way: what a dispatch does on a channel is what the same dispatch does
with that channel alone, on that part of the ledger which is about it
(`Dispatcher.dispatch_only`). So two runs that agree on a channel are the same
there, whatever the other channels answer (`channels_do_not_interfere`).

`only k` leaves out whatever is about a channel other than `k`.
-/

namespace ValidatorWatch

open Time (Instant)

/-! ## One channel alone -/

/-- The entry of one channel. -/
def ByChannel.only {α : Type} (m : ByChannel (Option α)) (k : Channel) : ByChannel (Option α) :=
  .ofFn fun j => if j = k then m.get j else none

/-- The ledger as far as it is about a channel: its times, its waiting alerts in
order and, for the emergency channel, the start of the cooldown. -/
def AlertLedger.only (l : AlertLedger) (k : Channel) : AlertLedger where
  lastSent := l.lastSent.only k
  lastEmergency := if k = .emergency then l.lastEmergency else none
  pending := l.pending.filter fun p => p.channel = k

/-- What is reported of a channel, in order. -/
def DispatchReport.only (r : DispatchReport) (k : Channel) : DispatchReport where
  delivered := r.delivered.filter fun x => x.1 = k
  suppressed := r.suppressed.filter fun x => x.1 = k
  failed := r.failed.filter fun x => x.1 = k
  retried := r.retried.filter fun x => x.1 = k

/-- The round as far as it is about a channel. -/
def Round.only (r : Round) (k : Channel) : Round where
  lines := r.lines.only k
  ledger := r.ledger.only k
  report := r.report.only k
  attempts := r.attempts.filter fun a => a.channel = k

namespace Dispatcher

/-- The dispatcher with one of its channels. -/
def only (d : Dispatcher) (k : Channel) : Dispatcher :=
  { d with lines := d.lines.only k }

/-- What a dispatch leaves behind on a channel. -/
def Outcome.only (o : Outcome) (k : Channel) : Outcome where
  dispatcher := o.dispatcher.only k
  ledger := o.ledger.only k
  report := o.report.only k
  attempts := o.attempts.filter fun a => a.channel = k

end Dispatcher

namespace ByChannel

variable {α : Type} {m : ByChannel (Option α)} {j k : Channel} {a : α}

@[simp] theorem get_only : (m.only k).get j = if j = k then m.get j else none :=
  get_ofFn _ j

theorem only_set_self : (m.set k (some a)).only k = (m.only k).set k (some a) := by
  ext1 i
  simp only [get_only, get_set]
  split <;> rfl

theorem only_set_of_ne (h : j ≠ k) : (m.set j (some a)).only k = m.only k := by
  ext1 i
  simp only [get_only, get_set]
  split
  next hi => rw [if_neg (hi ▸ h.symm)]
  next => rfl

end ByChannel

/-! ## The ledger -/

namespace AlertLedger

variable {l : AlertLedger} {j k : Channel} {c : Category} {e : AlertEvent} {t : Instant} {queue : List PendingAlert}

theorem lastSentAt_only : (l.only k).lastSentAt k c = l.lastSentAt k c := by
  simp [lastSentAt, only]

theorem only_record_self : (l.record k c t).only k = (l.only k).record k c t := by
  simp [record, only, ByChannel.only_set_self]

theorem only_record_of_ne (h : j ≠ k) : (l.record j c t).only k = l.only k := by
  simp [record, only, ByChannel.only_set_of_ne h]

/-- An alert that fails on a channel takes its place among those of the channel. -/
theorem filter_requeue_self : (requeue k e t queue).filter (·.channel = k) =
    requeue k e t (queue.filter (·.channel = k)) := by
  induction queue with
  | nil => simp [requeue]
  | cons p rest ih =>
    rw [requeue]
    by_cases hp : p.channel = k
    · by_cases hc : p.event.category = e.category <;> simp [requeue, hp, hc, ih]
    · simp [hp, ih]

theorem filter_requeue_of_ne (h : j ≠ k) : (requeue j e t queue).filter (·.channel = k) =
    queue.filter (·.channel = k) := by
  induction queue with
  | nil => simp [requeue, h]
  | cons p rest ih =>
    rw [requeue]
    split
    next hp => simp [hp.1, h]
    next => rw [List.filter_cons, List.filter_cons, ih]

/-- The cooldown of the emergency channel is only about that one. -/
theorem only_lastEmergency_of_ne {last : Option Instant} (h : k ≠ .emergency) :
    ({ l with lastEmergency := last } : AlertLedger).only k = l.only k := by
  simp [only, h]

end AlertLedger

/-! ## One step -/

namespace Round

variable {d : Dispatcher} {now : Instant} {recovered : Bool} {r : Round} {p : PendingAlert} {e : AlertEvent}
  {line : Line} {j k : Channel}

theorem only_send_self (line : Line) (n : Notification) :
    (r.send k line n).2.only k = ((r.only k).send k line n).2 := by
  simp [send, only, ByChannel.only_set_self]

theorem only_send_of_ne (h : j ≠ k) (line : Line) (n : Notification) :
    (r.send j line n).2.only k = r.only k := by
  simp [send, only, ByChannel.only_set_of_ne h, h]

theorem only_noteDelivered_self : (r.noteDelivered k e).only k = (r.only k).noteDelivered k e := by
  by_cases hk : k = .emergency <;>
    simp [noteDelivered, only, DispatchReport.only, hk, ← AlertLedger.only_record_self]
  simp [AlertLedger.only]

theorem only_noteDelivered_of_ne (h : j ≠ k) : (r.noteDelivered j e).only k = r.only k := by
  have hrecord := AlertLedger.only_record_of_ne (l := r.ledger) (c := e.category) (t := e.time) h
  have hledger : (r.noteDelivered j e).ledger.only k = r.ledger.only k := by
    rw [← hrecord, noteDelivered]
    split
    next hj => exact AlertLedger.only_lastEmergency_of_ne fun hk => h (hj.trans hk.symm)
    next => rfl
  rw [only, hledger]
  simp [noteDelivered, only, DispatchReport.only, h]

theorem only_noteSuppressed_self : (r.noteSuppressed k e).only k = (r.only k).noteSuppressed k e := by
  simp [noteSuppressed, only, DispatchReport.only]

theorem only_noteSuppressed_of_ne (h : j ≠ k) : (r.noteSuppressed j e).only k = r.only k := by
  simp [noteSuppressed, only, DispatchReport.only, h]

theorem only_noteFailed_self : (r.noteFailed k e now).only k = (r.only k).noteFailed k e now := by
  by_cases hs : e.severity = .critical <;>
    simp [noteFailed, only, DispatchReport.only, hs, AlertLedger.only, AlertLedger.queueRetry,
      AlertLedger.filter_requeue_self]

theorem only_noteFailed_of_ne (h : j ≠ k) : (r.noteFailed j e now).only k = r.only k := by
  by_cases hs : e.severity = .critical <;>
    simp [noteFailed, only, DispatchReport.only, hs, AlertLedger.only, AlertLedger.queueRetry,
      AlertLedger.filter_requeue_of_ne h, h]

/-- A retry on the channel is one with the channel alone. -/
theorem only_retry_self (h : p.channel = k) :
    (r.retry now recovered p).only k = (r.only k).retry now recovered p := by
  subst h
  have hline : (r.only p.channel).lines.get p.channel = r.lines.get p.channel := by simp [only]
  unfold retry
  split
  · rfl
  rw [hline]
  cases r.lines.get p.channel with
  | none => rfl
  | some line =>
    -- The notifier goes by what this channel was sent before, and by nothing else.
    have hsend := only_send_self (r := r) (k := p.channel) line (.ofEvent p.event)
    have hanswer : ((r.only p.channel).send p.channel line (.ofEvent p.event)).1 =
      (r.send p.channel line (.ofEvent p.event)).1 := rfl
    simp only [hanswer, ← hsend]
    cases (r.send p.channel line (.ofEvent p.event)).1 with
    | ok u =>
      simp only [← only_noteDelivered_self]
      simp [only, DispatchReport.only]
    | error why => simp [only, AlertLedger.only]

/-- A retry on another channel is nothing to it. -/
theorem only_retry_of_ne (h : p.channel ≠ k) : (r.retry now recovered p).only k = r.only k := by
  rcases retry_of now recovered r p with
    ⟨-, -, -, hr⟩ | ⟨line, -, ⟨u, -, -, hr⟩ | ⟨why, -, -, hr⟩⟩ <;> rw [hr]
  · have htold := only_noteDelivered_of_ne (r := (r.send p.channel line (.ofEvent p.event)).2) (e := p.event) h
    rw [only_send_of_ne h] at htold
    rw [← htold]
    simp [only, DispatchReport.only, DispatchReport.append_def, h]
  · have hsend := only_send_of_ne (r := r) h line (.ofEvent p.event)
    rw [← hsend]
    simp [only, AlertLedger.only, h]

theorem cools_only : cools d e (r.only k) k = cools d e r k := by
  cases k with
  | primary | secondary => simp only [cools, inCooldown, only, AlertLedger.lastSentAt_only]
  | emergency => simp [cools, inEmergencyCooldown, only, AlertLedger.only]

theorem allows_only : allows d now (r.only k) k line e = allows d now r k line e := by
  by_cases hk : k = .emergency
  · subst hk
    rw [allows_emergency, allows_emergency, cools_only]
  · rw [allows_broadcast _ hk, allows_broadcast _ hk, cools_only]

/-- An offer to the channel is one to the channel alone. -/
theorem only_offer_self : (r.offer d now e k).only k = (r.only k).offer d now e k := by
  have hline : (r.only k).lines.get k = r.lines.get k := by simp [only]
  unfold offer
  rw [hline]
  cases r.lines.get k with
  | none => rfl
  | some line =>
    simp only [allows_only]
    split
    · rfl
    rcases allows d now r k line e with ⟨_ | _, line'⟩
    · simp only [only_noteSuppressed_self]
      simp [only, ByChannel.only_set_self]
    · have hsend := only_send_self (r := r) (k := k) line' (.ofEvent e)
      have hpair : (r.only k).send k line' (.ofEvent e) =
          ((r.send k line' (.ofEvent e)).1, (r.send k line' (.ofEvent e)).2.only k) := by
        rw [hsend]
        rfl
      simp only [hpair]
      rcases r.send k line' (.ofEvent e) with ⟨_ | _, s⟩
      · exact only_noteFailed_self
      · exact only_noteDelivered_self

/-- An offer to another channel is nothing to it. -/
theorem only_offer_of_ne (h : j ≠ k) : (r.offer d now e j).only k = r.only k := by
  rcases offer_of d now e r j with
    ⟨-, -, hr⟩ | ⟨line, -, -, line', ⟨why, -, -, -, hr⟩ | ⟨-, ⟨u, -, -, hr⟩ | ⟨why, -, -, hr⟩⟩⟩ <;> rw [hr]
  · rw [only_noteSuppressed_of_ne h]
    simp [only, ByChannel.only_set_of_ne h]
  · rw [only_noteDelivered_of_ne h, only_send_of_ne h]
  · rw [only_noteFailed_of_ne h, only_send_of_ne h]

/-- With the channel alone, an offer to another one does nothing. -/
theorem offer_only_of_ne (h : j ≠ k) : (r.only k).offer d now e j = r.only k := by
  have hline : (r.only k).lines.get j = none := by simp [only, h]
  rw [offer, hline]

theorem only_offer : (r.offer d now e j).only k = (r.only k).offer d now e j := by
  by_cases h : j = k
  · subst h
    exact only_offer_self
  · rw [only_offer_of_ne h, offer_only_of_ne h]

theorem only_afterEvent : (r.afterEvent e).only k = (r.only k).afterEvent e := by
  unfold afterEvent
  split
  -- The time that a recovery clears is the emergency channel's, and of no account for another.
  · simp [only, AlertLedger.only]
  · rfl

/-- An event is handled on the channel as it is with the channel alone. -/
theorem only_handle : (r.handle d now e).only k = (r.only k).handle d now e := by
  simp only [handle, List.foldl_cons, List.foldl_nil, only_afterEvent, only_offer]

/-! ## Whole dispatches -/

theorem only_foldl_handle {events : List AlertEvent} :
    (events.foldl (handle d now) r).only k = events.foldl (handle d now) (r.only k) := by
  induction events generalizing r with
  | nil => rfl
  | cons e rest ih => rw [List.foldl_cons, List.foldl_cons, ih, only_handle]

theorem only_foldl_retry {queue : List PendingAlert} :
    (queue.foldl (retry now recovered) r).only k =
      (queue.filter (·.channel = k)).foldl (retry now recovered) (r.only k) := by
  induction queue generalizing r with
  | nil => rfl
  | cons p rest ih =>
    rw [List.foldl_cons, ih]
    by_cases hp : p.channel = k
    · rw [only_retry_self hp, List.filter_cons_of_pos (by simpa using hp), List.foldl_cons]
    · rw [only_retry_of_ne hp, List.filter_cons_of_neg (by simpa using hp)]

theorem only_retryPending : (r.retryPending now recovered).only k = (r.only k).retryPending now recovered := by
  rw [retryPending, only_foldl_retry]
  rfl

end Round

namespace Dispatcher

variable {d : Dispatcher} {k : Channel}

/-- What a dispatch does on a channel is what it does with the channel alone. -/
theorem dispatch_only (d : Dispatcher) (now : Instant) (events : List AlertEvent) (l : AlertLedger) (k : Channel) :
    (d.dispatch now events l).only k = (d.only k).dispatch now events (l.only k) := by
  let recovered := events.any fun e => e.category = .recovery
  let r := events.foldl (Round.handle d now) (Round.retryPending now recovered { lines := d.lines, ledger := l })
  let s := events.foldl (Round.handle d now)
    (Round.retryPending now recovered { lines := (d.only k).lines, ledger := l.only k })
  have h : r.only k = s := by
    rw [Round.only_foldl_handle, Round.only_retryPending]
    rfl
  show _ = (⟨{ d with lines := s.lines }, s.ledger, s.report, s.attempts⟩ : Outcome)
  rw [← h]
  rfl

/-- What each of some dispatches leaves behind, the first of them on a ledger
and each other on the ledger that the one before it leaves. -/
def dispatches (d : Dispatcher) (l : AlertLedger) : List Call → List Outcome
  | [] => []
  | c :: rest =>
    let o := d.dispatch c.now c.events l
    o :: o.dispatcher.dispatches o.ledger rest

theorem dispatches_only (d : Dispatcher) (l : AlertLedger) (calls : List Call) (k : Channel) :
    (d.dispatches l calls).map (·.only k) = (d.only k).dispatches (l.only k) calls := by
  induction calls generalizing d l with
  | nil => rfl
  | cons c rest ih => rw [dispatches, dispatches, List.map_cons, ih, ← dispatch_only]; rfl

end Dispatcher

/-- Two runs that agree on a channel, which are those of dispatchers with the
same such channel and the same cooldowns, on ledgers with the same entries for
it, are the same on that channel, dispatch by dispatch. The other channels may
answer what they like. -/
theorem channels_do_not_interfere (k : Channel) (d₁ d₂ : Dispatcher) (l₁ l₂ : AlertLedger) (calls : List Call)
    (hline : d₁.lines.get k = d₂.lines.get k) (hcooldown : d₁.cooldown = d₂.cooldown)
    (hemergency : d₁.emergencyCooldown = d₂.emergencyCooldown) (hledger : l₁.only k = l₂.only k) :
    (d₁.dispatches l₁ calls).map (·.only k) = (d₂.dispatches l₂ calls).map (·.only k) := by
  have hlines : d₁.lines.only k = d₂.lines.only k := by
    ext1 j
    rw [ByChannel.get_only, ByChannel.get_only]
    split
    next hj => rw [hj, hline]
    next => rfl
  have hd : d₁.only k = d₂.only k := by
    rw [Dispatcher.only, Dispatcher.only, hlines, hcooldown, hemergency]
  rw [Dispatcher.dispatches_only, Dispatcher.dispatches_only, hd, hledger]

/-- A primary channel with these answers beside an emergency channel that takes
all but its first message. -/
def pagerBeside (answers : Notifier) : Dispatcher where
  lines :=
    ⟨some { notifier := answers, bucket := none },
      some { notifier := fun sent _ => if sent = 0 then .error (.timeout "pager") else .ok ()
             bucket := none }, none⟩
  cooldown := .ofSeconds 300
  emergencyCooldown := .ofSeconds 1800

/-- The emergency channel does the same beside a primary channel that takes
everything and beside one that takes nothing. -/
theorem pager_beside_any_channel :
    let d₁ := pagerBeside fun _ _ => .ok ()
    let d₂ := pagerBeside fun _ _ => .error (.timeout "telegram")
    let calls : List Call := [.alarm .down 0, .alarm .down 60, .alarm .resource 1860]
    d₁.lines.get .emergency = d₂.lines.get .emergency ∧
      (d₁.dispatches {} calls).map (·.only .emergency) = (d₂.dispatches {} calls).map (·.only .emergency) ∧
      (d₁.dispatches {} calls).map (·.report.failed) ≠ (d₂.dispatches {} calls).map (·.report.failed) := by
  intro d₁ d₂ calls
  exact ⟨rfl, channels_do_not_interfere .emergency d₁ d₂ {} {} calls rfl rfl rfl rfl, by decide +kernel⟩

end ValidatorWatch
