import ValidatorWatch.Alert.Event
/-!
# The alert ledger

What was delivered for a validator, and what still has to be. For each channel and category the
ledger holds the time of the last event delivered, and critical events whose delivery failed wait in
it for another try.
-/

namespace ValidatorWatch

open Time (Instant)

/-- A critical event that a channel did not take. -/
structure PendingAlert where
  channel : Channel
  event : AlertEvent
  firstFailedAt : Instant
  attempts : Nat
  deriving DecidableEq, Inhabited

/-- What was delivered for a validator and what waits. A channel without any delivery has
no times. -/
structure AlertLedger where
  lastSent : ByChannel (Option (ByCategory (Option Instant))) := ⟨none, none, none⟩
  lastEmergency : Option Instant := none
  pending : List PendingAlert := []
  deriving DecidableEq, Inhabited

namespace AlertLedger

/-- No delivery on any channel yet. -/
def noTimes : ByCategory (Option Instant) :=
  .ofFn fun _ => none

/-- The time of the last event of that category that the channel took. -/
def lastSentAt (l : AlertLedger) (channel : Channel) (category : Category) : Option Instant :=
  (l.lastSent.get channel).bind fun times => times.get category

/-- Notes a delivery. -/
def record (l : AlertLedger) (channel : Channel) (category : Category) (t : Instant) :
    AlertLedger :=
  let times := (l.lastSent.get channel).getD noTimes
  { l with lastSent := l.lastSent.set channel (some (times.set category (some t))) }

/-- Puts a failed event into the queue of a channel. A newer event takes the place of an older one
of its category, and the place keeps the time of the first failure. -/
def requeue (channel : Channel) (event : AlertEvent) (failedAt : Instant) :
    List PendingAlert → List PendingAlert
  | [] => [⟨channel, event, failedAt, 1⟩]
  | p :: rest =>
    if p.channel = channel ∧ p.event.category = event.category then
      { p with event := event, attempts := p.attempts + 1 } :: rest
    else p :: requeue channel event failedAt rest

/-- Notes a failed delivery of a critical event. -/
def queueRetry (l : AlertLedger) (channel : Channel) (event : AlertEvent) (failedAt : Instant) :
    AlertLedger :=
  { l with pending := requeue channel event failedAt l.pending }

/-- A recorded delivery is the last one of its channel and category, and changes no other. -/
theorem lastSentAt_record (l : AlertLedger) (channel other : Channel) (category kind : Category)
    (t : Instant) :
    (l.record channel category t).lastSentAt other kind =
      if other = channel ∧ kind = category then some t else l.lastSentAt other kind := by
  by_cases hc : other = channel
  · subst hc
    by_cases hk : kind = category
    · subst hk
      simp [lastSentAt, record, ByChannel.get_set, ByCategory.get_set]
    · cases h : l.lastSent.get other <;>
        simp [lastSentAt, record, ByChannel.get_set, ByCategory.get_set, hk, h, noTimes]
  · simp [lastSentAt, record, ByChannel.get_set, hc]

end AlertLedger

end ValidatorWatch
