import ValidatorWatch.Alert.Dispatch
/-!
# What becomes of an event on a channel

A dispatch does one thing at a time: it tries a waiting event again on its
channel, offers a new event to one, or closes an event that was offered to
all. `Round.retryFate` and `Round.offerFate` name what such a step does with
the event, and `Round.Notes` what that changes. Later proofs never look into
`Round.retry` and `Round.offer`.
-/

namespace ValidatorWatch

open Time (Instant Span)

/-- Why an event was kept from a channel. -/
inductive Hold where
  | cooldown
  | tokens
  deriving DecidableEq

/-- Why a waiting event was given up. A newer event of its category that the
channel refused takes its place. -/
inductive Loss where
  | recovered
  | expired (firstFailedAt now : Instant)
  | superseded (place : Nat)
  | closed
  deriving DecidableEq

/-- What a step did with an event. A recovery that was offered to all channels
clears the cooldown of the emergency channel. -/
inductive Fate where
  | withheld (why : Hold)
  | sent (answer : Delivery)
  | resent (answer : Delivery)
  | lost (why : Loss)
  | clears

namespace Fate

/-- The channel took the event. -/
def accepted : Fate → Bool
  | .sent (.ok _) | .resent (.ok _) => true
  | _ => false

/-- The channel was tried and did not take the event. -/
def refused : Fate → Bool
  | .sent (.error _) | .resent (.error _) => true
  | _ => false

end Fate

/-- What a step did: with which event, by its place among all that were told,
and on which channel. -/
structure Entry where
  place : Nat
  channel : Channel
  event : AlertEvent
  fate : Fate

instance : Append DispatchReport where
  append r s :=
    ⟨r.delivered ++ s.delivered, r.suppressed ++ s.suppressed, r.failed ++ s.failed,
      r.retried ++ s.retried⟩

namespace DispatchReport

theorem append_def (r s : DispatchReport) : r ++ s =
    ⟨r.delivered ++ s.delivered, r.suppressed ++ s.suppressed, r.failed ++ s.failed,
      r.retried ++ s.retried⟩ := rfl

@[simp] theorem append_empty (r : DispatchReport) : r ++ ({} : DispatchReport) = r := by
  simp [append_def]

theorem append_assoc (r s t : DispatchReport) : r ++ s ++ t = r ++ (s ++ t) := by
  simp [append_def]

end DispatchReport

namespace Entry

/-- What the notifier was handed. -/
def attempts (x : Entry) : List Attempt :=
  match x.fate with
  | .sent answer | .resent answer => [⟨x.channel, .ofEvent x.event, answer⟩]
  | _ => []

/-- What the dispatch reports of it. -/
def report (x : Entry) : DispatchReport :=
  let it := [(x.channel, x.event.category)]
  match x.fate with
  | .withheld _ => { suppressed := it }
  | .sent (.ok _) => { delivered := it }
  | .sent (.error _) => { failed := it }
  | .resent (.ok _) => { delivered := it, retried := it }
  | _ => {}

/-- The channel took the event, one of that category. -/
def tells (x : Entry) (k : Channel) (c : Category) : Bool :=
  x.fate.accepted && x.channel = k && x.event.category = c

end Entry

/-- What is in a queue after a failure was in it before, or is the failed event,
with a count of its own or with that of the event whose place it took. -/
theorem AlertLedger.mem_requeue {k : Channel} {e : AlertEvent} {now : Instant} {q : PendingAlert}
    {queue : List PendingAlert} (h : q ∈ requeue k e now queue) :
    q ∈ queue ∨ q = ⟨k, e, now, 1⟩ ∨ ∃ p ∈ queue, q = { p with event := e, attempts := p.attempts + 1 } := by
  induction queue with
  | nil => exact .inr (.inl (List.mem_singleton.1 h))
  | cons p rest ih =>
    rw [requeue] at h
    split at h
    · rcases List.mem_cons.1 h with rfl | h
      · exact .inr (.inr ⟨p, List.mem_cons_self, rfl⟩)
      · exact .inl (List.mem_cons_of_mem _ h)
    · rcases List.mem_cons.1 h with rfl | h
      · exact .inl List.mem_cons_self
      · rcases ih h with h | h | ⟨p', hp', h⟩
        · exact .inl (List.mem_cons_of_mem _ h)
        · exact .inr (.inl h)
        · exact .inr (.inr ⟨p', List.mem_cons_of_mem _ hp', h⟩)

namespace Round

/-- The round `r'` is `r` with that step noted, the queue aside. -/
structure Notes (r : Round) (x : Entry) (r' : Round) : Prop where
  configured : ∀ k, (r'.lines.get k).isSome = (r.lines.get k).isSome
  attempts : r'.attempts = r.attempts ++ x.attempts
  report : r'.report = r.report ++ x.report
  lastSentAt : ∀ k c, r'.ledger.lastSentAt k c =
    if x.tells k c then some x.event.time else r.ledger.lastSentAt k c
  lastEmergency : r'.ledger.lastEmergency =
    match x.fate with
    | .clears => none
    | fate =>
      if fate.accepted ∧ x.channel = .emergency then some x.event.time else r.ledger.lastEmergency

/-! ## Trying again -/

/-- What becomes of a waiting event that is tried again. -/
def retryFate (now : Instant) (recovered : Bool) (r : Round) (p : PendingAlert) : Fate :=
  if recovered then .lost .recovered
  else if retryWindow < now - p.firstFailedAt then .lost (.expired p.firstFailedAt now)
  else
    match r.lines.get p.channel with
    | none => .lost .closed
    | some line => .resent (line.notifier line.sent (.ofEvent p.event))

variable {d : Dispatcher} {now : Instant} {recovered : Bool} {r : Round} {p : PendingAlert} {e : AlertEvent}
  {k : Channel} {n : Nat}

theorem isSome_set {lines : ByChannel (Option Line)} {line line' : Line} (h : lines.get k = some line)
    (j : Channel) : ((lines.set k (some line')).get j).isSome = (lines.get j).isSome := by
  rw [ByChannel.get_set]
  split
  next hj => rw [hj, h]; rfl
  next => rfl

theorem notes_lost (why : Loss) : r.Notes ⟨n, k, e, .lost why⟩ r := by
  constructor <;> simp [Entry.attempts, Entry.report, Entry.tells, Fate.accepted]

theorem lastSentAt_noteDelivered (j : Channel) (c : Category) :
    (r.noteDelivered k e).ledger.lastSentAt j c =
      if k = j ∧ e.category = c then some e.time else r.ledger.lastSentAt j c := by
  have h := AlertLedger.lastSentAt_record r.ledger k j e.category c e.time
  simp only [eq_comm (a := j), eq_comm (a := c)] at h
  rw [← h]
  unfold noteDelivered
  dsimp only
  split <;> rfl

theorem lastEmergency_noteDelivered :
    (r.noteDelivered k e).ledger.lastEmergency =
      if k = .emergency then some e.time else r.ledger.lastEmergency := by
  unfold noteDelivered
  dsimp only
  split <;> rfl

theorem pending_noteDelivered : (r.noteDelivered k e).ledger.pending = r.ledger.pending := by
  unfold noteDelivered
  dsimp only
  split <;> rfl

/-- What a retry does, in three cases. -/
theorem retry_of (now : Instant) (recovered : Bool) (r : Round) (p : PendingAlert) :
    -- Given up: nothing changes.
    (∃ why, (why = .recovered ∧ recovered = true ∨
        why = .expired p.firstFailedAt now ∧ retryWindow < now - p.firstFailedAt ∨
        why = .closed ∧ r.lines.get p.channel = none) ∧
      r.retryFate now recovered p = .lost why ∧ retry now recovered r p = r) ∨
    ∃ line, r.lines.get p.channel = some line ∧
      let s := (r.send p.channel line (.ofEvent p.event)).2
      -- Taken.
      ((∃ u, line.notifier line.sent (.ofEvent p.event) = .ok u ∧
        r.retryFate now recovered p = .resent (.ok u) ∧
        retry now recovered r p =
          { s.noteDelivered p.channel p.event with
            report := (s.noteDelivered p.channel p.event).report ++
              { retried := [(p.channel, p.event.category)] } }) ∨
      -- Refused again: back into the queue.
      ∃ why, line.notifier line.sent (.ofEvent p.event) = .error why ∧
        r.retryFate now recovered p = .resent (.error why) ∧
        retry now recovered r p =
          { s with ledger := { s.ledger with
            pending := s.ledger.pending ++ [{ p with attempts := p.attempts + 1 }] } }) := by
  unfold retryFate retry
  by_cases hrec : recovered = true
  · exact .inl ⟨.recovered, .inl ⟨rfl, hrec⟩, by simp [hrec]⟩
  by_cases hold : retryWindow < now - p.firstFailedAt
  · exact .inl ⟨.expired p.firstFailedAt now, .inr (.inl ⟨rfl, hold⟩), by simp [hrec, hold]⟩
  simp only [hrec, hold, Bool.or_false, decide_false, Bool.false_eq_true, if_false]
  cases hl : r.lines.get p.channel with
  | none => exact .inl ⟨.closed, .inr (.inr ⟨rfl, rfl⟩), rfl, rfl⟩
  | some line =>
    refine .inr ⟨line, rfl, ?_⟩
    cases ha : line.notifier line.sent (.ofEvent p.event) with
    | ok u =>
      exact .inl ⟨u, rfl, congrArg Fate.resent ha, by simp [send, ha, DispatchReport.append_def]⟩
    | error why =>
      exact .inr ⟨why, rfl, congrArg Fate.resent ha, by simp [send, ha]⟩

/-- What a retry changes, the queue aside. -/
theorem retry_notes (n : Nat) :
    r.Notes ⟨n, p.channel, p.event, r.retryFate now recovered p⟩ (retry now recovered r p) := by
  rcases retry_of now recovered r p with
    ⟨why, -, hf, hr⟩ | ⟨line, hl, ⟨u, ha, hf, hr⟩ | ⟨why, ha, hf, hr⟩⟩ <;> rw [hf, hr]
  · exact notes_lost why
  · refine ⟨fun j => isSome_set hl j, ?_, ?_, fun j c => ?_, ?_⟩
    · simp [noteDelivered, send, ha, Entry.attempts]
    · simp [noteDelivered, send, Entry.report, DispatchReport.append_def]
    · simp [lastSentAt_noteDelivered, send, Entry.tells, Fate.accepted]
    · simp [lastEmergency_noteDelivered, send, Fate.accepted]
  · refine ⟨fun j => isSome_set hl j, ?_, ?_, fun j c => ?_, ?_⟩
    · simp [send, ha, Entry.attempts]
    · simp [send, Entry.report]
    · simp [send, Entry.tells, Fate.accepted, AlertLedger.lastSentAt]
    · simp [send, Fate.accepted]

/-- Only a refused retry puts its event back into the queue. -/
theorem pending_retry : (retry now recovered r p).ledger.pending = r.ledger.pending ++
    if (r.retryFate now recovered p).refused then [{ p with attempts := p.attempts + 1 }] else [] := by
  rcases retry_of now recovered r p with
    ⟨why, -, hf, hr⟩ | ⟨line, hl, ⟨u, ha, hf, hr⟩ | ⟨why, ha, hf, hr⟩⟩ <;> rw [hf, hr]
  · simp [Fate.refused]
  · simp [pending_noteDelivered, send, Fate.refused]
  · simp [send, Fate.refused]

/-! ## New events -/

/-- Whether a cooldown keeps an event from a channel. -/
def cools (d : Dispatcher) (e : AlertEvent) (r : Round) : Channel → Bool
  | .emergency => inEmergencyCooldown d.emergencyCooldown e r.ledger
  | k => inCooldown d.cooldown k e r.ledger

/-- What becomes of a new event on a channel, if that is configured and gets
such events. -/
def offerFate (d : Dispatcher) (now : Instant) (e : AlertEvent) (r : Round) (k : Channel) :
    Option Fate :=
  match r.lines.get k with
  | none => none
  | some line =>
    if wants k e then
      match allows d now r k line e with
      | (false, _) => some (.withheld (if cools d e r k then .cooldown else .tokens))
      | (true, line) => some (.sent (line.notifier line.sent (.ofEvent e)))
    else none

theorem cools_broadcast (hk : k ≠ .emergency) :
    cools d e r k = inCooldown d.cooldown k e r.ledger := by
  cases k with
  | emergency => exact absurd rfl hk
  | primary | secondary => rfl

theorem allows_broadcast (line : Line) (hk : k ≠ .emergency) :
    allows d now r k line e =
      if cools d e r k then (false, line)
      else if e.exempt then (true, line) else line.takeToken now := by
  cases k with
  | emergency => exact absurd rfl hk
  | primary | secondary => rfl

theorem allows_emergency (line : Line) :
    allows d now r .emergency line e = (!cools d e r .emergency, line) := rfl

theorem cools_of_allows {line line' : Line} (h : allows d now r k line e = (true, line')) :
    cools d e r k = false := by
  cases hc : cools d e r k with
  | false => rfl
  | true =>
    by_cases hk : k = .emergency
    · subst hk
      simp [allows_emergency, hc] at h
    · simp [allows_broadcast line hk, hc] at h

/-- Only the bucket keeps an event from a channel that is in no cooldown. -/
theorem exempt_of_not_allows {line line' : Line} (h : allows d now r k line e = (false, line'))
    (hc : cools d e r k = false) : e.exempt = false := by
  cases he : e.exempt with
  | false => rfl
  | true =>
    by_cases hk : k = .emergency
    · subst hk
      simp [allows_emergency, hc] at h
    · simp [allows_broadcast line hk, hc, he] at h

/-- No report is in a cooldown of the primary or the secondary channel. -/
theorem channel_of_cools (hc : cools d e r k = true) (hx : e.category = .extendedReport) :
    k = .emergency := by
  by_cases hk : k = .emergency
  · exact hk
  · rw [cools_broadcast hk, inCooldown, hx] at hc
    cases hl : r.ledger.lastSentAt k .extendedReport <;> simp [hl] at hc

/-- What an offer does, in four cases. -/
theorem offer_of (d : Dispatcher) (now : Instant) (e : AlertEvent) (r : Round) (k : Channel) :
    -- Not for this channel: nothing changes.
    (((r.lines.get k).isSome = false ∨ wants k e = false) ∧ r.offerFate d now e k = none ∧
      offer d now e r k = r) ∨
    ∃ line, r.lines.get k = some line ∧ wants k e = true ∧ ∃ line',
      -- Withheld: critical events only by the cooldown, reports only on the emergency channel.
      ((∃ why, (e.severity = .critical → why = .cooldown) ∧
        (e.category = .extendedReport → k = .emergency) ∧
        r.offerFate d now e k = some (.withheld why) ∧
        offer d now e r k =
          { r with lines := r.lines.set k (some line') }.noteSuppressed k e) ∨
      cools d e r k = false ∧ let s := (r.send k line' (.ofEvent e)).2
      -- Sent and taken.
      ((∃ u, line'.notifier line'.sent (.ofEvent e) = .ok u ∧
        r.offerFate d now e k = some (.sent (.ok u)) ∧ offer d now e r k = s.noteDelivered k e) ∨
      -- Sent and refused.
      ∃ why, line'.notifier line'.sent (.ofEvent e) = .error why ∧
        r.offerFate d now e k = some (.sent (.error why)) ∧
        offer d now e r k = s.noteFailed k e now)) := by
  unfold offerFate offer
  cases hl : r.lines.get k with
  | none => exact .inl ⟨.inl rfl, rfl, rfl⟩
  | some line =>
    by_cases hw : wants k e = true
    case neg => exact .inl ⟨.inr (by simpa using hw), by simp [hw], by simp [hw]⟩
    refine .inr ⟨line, rfl, hw, ?_⟩
    simp only [hw, if_true, Bool.not_true, Bool.false_eq_true, if_false]
    rcases ha : allows d now r k line e with ⟨_ | _, line'⟩ <;> refine ⟨line', ?_⟩
    · refine .inl ⟨_, ?_, ?_, rfl, rfl⟩
      · intro hs
        by_cases hc : cools d e r k = true
        · rw [if_pos hc]
        · have := exempt_of_not_allows ha (by simpa using hc)
          simp [AlertEvent.exempt, hs] at this
      · intro hx
        by_cases hc : cools d e r k = true
        · exact channel_of_cools hc hx
        · have := exempt_of_not_allows ha (by simpa using hc)
          simp [AlertEvent.exempt, hx] at this
    · refine .inr ⟨cools_of_allows ha, ?_⟩
      cases hn : line'.notifier line'.sent (.ofEvent e) with
      | ok u => exact .inl ⟨u, rfl, by simp [hn], by simp [send, hn]⟩
      | error why => exact .inr ⟨why, rfl, by simp [hn], by simp [send, hn]⟩

/-- What the fate of a new event says. -/
theorem offerFate_of {f : Fate} (hf : r.offerFate d now e k = some f) :
    (r.lines.get k).isSome = true ∧ wants k e = true ∧
      ((∃ why, f = .withheld why ∧ (e.severity = .critical → why = .cooldown) ∧
        (e.category = .extendedReport → k = .emergency)) ∨
      ∃ answer, f = .sent answer ∧ cools d e r k = false) := by
  rcases offer_of d now e r k with
    ⟨-, h, -⟩ | ⟨line, hl, hw, line', ⟨why, hs, hx, h, -⟩ | ⟨hc, ⟨u, -, h, -⟩ | ⟨why, -, h, -⟩⟩⟩ <;>
    rw [hf] at h
  · cases h
  · exact ⟨by rw [hl]; rfl, hw, .inl ⟨why, Option.some.inj h, hs, hx⟩⟩
  · exact ⟨by rw [hl]; rfl, hw, .inr ⟨.ok u, Option.some.inj h, hc⟩⟩
  · exact ⟨by rw [hl]; rfl, hw, .inr ⟨.error why, Option.some.inj h, hc⟩⟩

/-- An event without a fate is not for the channel. -/
theorem not_for_of_offerFate (hf : r.offerFate d now e k = none) :
    ((r.lines.get k).isSome = false ∨ wants k e = false) ∧ offer d now e r k = r := by
  rcases offer_of d now e r k with
    ⟨hnot, -, hr⟩ | ⟨line, hl, hw, line', ⟨why, hs, hx, h, -⟩ | ⟨hc, ⟨u, -, h, -⟩ | ⟨why, -, h, -⟩⟩⟩
  · exact ⟨hnot, hr⟩
  all_goals rw [hf] at h; cases h

/-- What an offer changes, the queue aside. -/
theorem offer_notes (n : Nat) {f : Fate} (hf : r.offerFate d now e k = some f) :
    r.Notes ⟨n, k, e, f⟩ (offer d now e r k) := by
  rcases offer_of d now e r k with ⟨-, h, -⟩ | ⟨line, hl, -, line', ⟨why, -, -, h, hr⟩ | ⟨-, h⟩⟩
  · rw [hf] at h
    cases h
  · obtain rfl : f = .withheld why := by rw [hf] at h; exact Option.some.inj h
    rw [hr]
    refine ⟨fun j => isSome_set hl j, ?_, ?_, fun j c => ?_, ?_⟩
    · simp [noteSuppressed, Entry.attempts]
    · simp [noteSuppressed, Entry.report, DispatchReport.append_def]
    · simp [noteSuppressed, Entry.tells, Fate.accepted]
    · simp [noteSuppressed, Fate.accepted]
  · rcases h with ⟨u, ha, h, hr⟩ | ⟨why, ha, h, hr⟩
    · obtain rfl : f = .sent (.ok u) := by rw [hf] at h; exact Option.some.inj h
      rw [hr]
      refine ⟨fun j => isSome_set hl j, ?_, ?_, fun j c => ?_, ?_⟩
      · simp [noteDelivered, send, ha, Entry.attempts]
      · simp [noteDelivered, send, Entry.report, DispatchReport.append_def]
      · simp [lastSentAt_noteDelivered, send, Entry.tells, Fate.accepted]
      · simp [lastEmergency_noteDelivered, send, Fate.accepted]
    · obtain rfl : f = .sent (.error why) := by rw [hf] at h; exact Option.some.inj h
      rw [hr]
      refine ⟨fun j => isSome_set hl j, ?_, ?_, fun j c => ?_, ?_⟩
      · simp [noteFailed, send, ha, Entry.attempts]
      · simp [noteFailed, send, Entry.report, DispatchReport.append_def]
      · simp only [noteFailed, send, Entry.tells, Fate.accepted, AlertLedger.lastSentAt]
        split <;> simp [AlertLedger.queueRetry]
      · simp only [noteFailed, send, Fate.accepted]
        split <;> simp [AlertLedger.queueRetry]

/-- Only a critical event that was refused goes into the queue. -/
theorem pending_offer : (offer d now e r k).ledger.pending =
    if (r.offerFate d now e k).any Fate.refused ∧ e.severity = .critical then
      AlertLedger.requeue k e now r.ledger.pending
    else r.ledger.pending := by
  rcases offer_of d now e r k with
    ⟨-, h, hr⟩ | ⟨line, hl, -, line', ⟨why, -, -, h, hr⟩ | ⟨-, ⟨u, ha, h, hr⟩ | ⟨why, ha, h, hr⟩⟩⟩ <;>
    rw [h, hr]
  · simp
  · simp [noteSuppressed, Fate.refused]
  · simp [pending_noteDelivered, send, Fate.refused]
  · simp only [noteFailed, send, Fate.refused, Option.any_some, true_and]
    split <;> rfl

/-! ## After all channels -/

/-- What closing an event changes: a recovery clears the emergency cooldown. -/
theorem afterEvent_notes (n : Nat) (h : e.category = .recovery) :
    r.Notes ⟨n, .emergency, e, .clears⟩ (r.afterEvent e) := by
  rw [afterEvent, if_pos h]
  refine ⟨fun _ => rfl, ?_, ?_, fun j c => ?_, rfl⟩
  · simp [Entry.attempts]
  · simp [Entry.report]
  · simp [Entry.tells, Fate.accepted, AlertLedger.lastSentAt]

theorem pending_afterEvent : (r.afterEvent e).ledger.pending = r.ledger.pending := by
  unfold afterEvent
  split <;> rfl

end Round

end ValidatorWatch
