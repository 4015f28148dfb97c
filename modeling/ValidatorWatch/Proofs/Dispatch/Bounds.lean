import ValidatorWatch.Proofs.Dispatch.Fates
import ValidatorWatch.Proofs.Validator.Encoding
/-!
# What a dispatch leaves in the ledger

A dispatch puts nothing into a ledger that could not be stored, as long as its
critical events can be. Only the counts of tries grow. A ledger is `Within` a
bound if all else can be stored and no alert was tried more often, and
`AlertLedger.Within.dispatch` says how far a dispatch raises the bound.
-/

namespace ValidatorWatch

open Time (Instant)

/-- A waiting alert that can be stored as long as so many tries can be counted. -/
structure PendingAlert.Within (n : Nat) (p : PendingAlert) : Prop where
  event : p.event.Storable
  firstFailedAt : Instant.InYears p.firstFailedAt.date.year
  attempts : p.attempts ≤ n

/-- A ledger that can be stored as long as so many tries can be counted. -/
structure AlertLedger.Within (n : Nat) (l : AlertLedger) : Prop where
  lastSent : ∀ k c, ∀ t ∈ l.lastSentAt k c, Instant.InYears t.date.year
  lastEmergency : ∀ t ∈ l.lastEmergency, Instant.InYears t.date.year
  pending : ∀ p ∈ l.pending, p.Within n

/-- The time of the event can be stored, and the whole of it if it may have to
wait. -/
structure AlertEvent.Queueable (e : AlertEvent) : Prop where
  time : Instant.InYears e.time.date.year
  critical : e.severity = .critical → e.Storable

variable {n m : Nat} {l : AlertLedger}

theorem PendingAlert.Within.mono {p : PendingAlert} (h : p.Within n) (hle : n ≤ m) : p.Within m :=
  ⟨h.event, h.firstFailedAt, h.attempts.trans hle⟩

/-- Another try is counted. -/
theorem PendingAlert.Within.again {p : PendingAlert} {e : AlertEvent} (h : p.Within n) (he : e.Storable) :
    ({ p with event := e, attempts := p.attempts + 1 } : PendingAlert).Within (n + 1) :=
  ⟨he, h.firstFailedAt, Nat.succ_le_succ h.attempts⟩

theorem AlertLedger.Within.mono (h : l.Within n) (hle : n ≤ m) : l.Within m :=
  ⟨h.lastSent, h.lastEmergency, fun p hp => (h.pending p hp).mono hle⟩

theorem AlertLedger.within_empty (n : Nat) : AlertLedger.Within n {} :=
  ⟨AlertLedger.storable_empty.lastSent, AlertLedger.storable_empty.lastEmergency, by simp⟩

theorem AlertLedger.Within.requeue {k : Channel} {e : AlertEvent} {now : Instant} {queue : List PendingAlert}
    (h : ∀ p ∈ queue, p.Within n) (he : e.Storable) (hnow : Instant.InYears now.date.year) :
    ∀ p ∈ AlertLedger.requeue k e now queue, p.Within (n + 1) := by
  intro p hp
  rcases mem_requeue hp with hp | rfl | ⟨q, hq, rfl⟩
  · exact (h p hp).mono (Nat.le_succ n)
  · exact ⟨he, hnow, Nat.le_add_left 1 n⟩
  · exact (h q hq).again he

namespace Round

variable {d : Dispatcher} {now : Instant} {recovered : Bool} {r r' : Round} {p : PendingAlert} {e : AlertEvent}
  {k : Channel}

/-- A step records no other time than that of its event. -/
theorem Notes.within {x : Entry} (h : r.Notes x r') (hr : r.ledger.Within n)
    (htime : Instant.InYears x.event.time.date.year) (hpending : ∀ p ∈ r'.ledger.pending, p.Within m) :
    r'.ledger.Within m := by
  refine ⟨fun j c t ht => ?_, fun t ht => ?_, hpending⟩
  · rw [h.lastSentAt] at ht
    split at ht
    · obtain rfl := Option.some.inj ht
      exact htime
    · exact hr.lastSent j c t ht
  · rw [h.lastEmergency] at ht
    split at ht
    · cases ht
    split at ht
    · obtain rfl := Option.some.inj ht
      exact htime
    · exact hr.lastEmergency t ht

theorem within_retry (h : r.ledger.Within (n + 1)) (hp : p.Within n) :
    (r.retry now recovered p).ledger.Within (n + 1) := by
  refine (retry_notes 0).within h hp.event.time ?_
  rw [pending_retry]
  refine List.forall_mem_append.2 ⟨h.pending, fun q hq => ?_⟩
  split at hq
  · rw [List.mem_singleton.1 hq]
    exact hp.again hp.event
  · cases hq

theorem within_offer (h : r.ledger.Within n) (he : e.Queueable) (hnow : Instant.InYears now.date.year) :
    (r.offer d now e k).ledger.Within (n + 1) := by
  cases hf : r.offerFate d now e k with
  | none =>
    rw [(not_for_of_offerFate hf).2]
    exact h.mono (Nat.le_succ n)
  | some fate =>
    refine (offer_notes 0 hf).within h he.time ?_
    rw [pending_offer]
    split
    next hc => exact AlertLedger.Within.requeue h.pending (he.critical hc.2) hnow
    next => exact (h.mono (Nat.le_succ n)).pending

theorem within_handle (h : r.ledger.Within n) (he : e.Queueable) (hnow : Instant.InYears now.date.year) :
    (r.handle d now e).ledger.Within (n + 3) := by
  have hoffers : ([Channel.primary, .secondary, .emergency].foldl (offer d now e) r).ledger.Within (n + 3) :=
    within_offer (within_offer (within_offer h he hnow) he hnow) he hnow
  rw [handle, afterEvent]
  split
  -- A recovery only clears a time.
  · exact ⟨hoffers.lastSent, by simp, hoffers.pending⟩
  · exact hoffers

theorem within_foldl_retry {queue : List PendingAlert} (h : r.ledger.Within (n + 1)) (hq : ∀ p ∈ queue, p.Within n)
    (now : Instant) (recovered : Bool) : (queue.foldl (retry now recovered) r).ledger.Within (n + 1) :=
  List.foldlRecOn queue _ (motive := fun s : Round => s.ledger.Within (n + 1)) h
    fun _ hs p hp => within_retry hs (hq p hp)

theorem within_foldl_handle {events : List AlertEvent} (h : r.ledger.Within n) (he : ∀ e ∈ events, e.Queueable)
    (hnow : Instant.InYears now.date.year) :
    (events.foldl (handle d now) r).ledger.Within (n + 3 * events.length) := by
  induction events generalizing r n with
  | nil => exact h
  | cons e rest ih =>
    have hfirst : (r.handle d now e).ledger.Within (n + 3) := within_handle h (he e List.mem_cons_self) hnow
    have hrest := ih hfirst fun f hf => he f (List.mem_cons_of_mem _ hf)
    exact hrest.mono (by rw [List.length_cons]; omega)

end Round

/-- A dispatch tries every waiting alert once more, and one for every event on
every channel. -/
theorem AlertLedger.Within.dispatch (h : l.Within n) (d : Dispatcher) {now : Instant} {events : List AlertEvent}
    (he : ∀ e ∈ events, e.Queueable) (hnow : Instant.InYears now.date.year) :
    (d.dispatch now events l).ledger.Within (n + 1 + 3 * events.length) := by
  have hstart : AlertLedger.Within (n + 1) { l with pending := [] } := ⟨h.lastSent, h.lastEmergency, by simp⟩
  have hretried := Round.within_foldl_retry (r := { lines := d.lines, ledger := { l with pending := [] } })
    hstart h.pending now (events.any fun e => e.category = .recovery)
  exact Round.within_foldl_handle hretried he hnow

end ValidatorWatch
