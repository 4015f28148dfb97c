import ValidatorWatch.Alert.Ledger
import ValidatorWatch.Alert.Notifier
import ValidatorWatch.Alert.TokenBucket
/-!
# Dispatch

The dispatcher decides for every event and channel whether it goes out, sends it, and notes in the
ledger what was delivered.

The primary and the secondary channel get every event, but an event of the same category at most
once within the cooldown, and only while the channel's bucket has tokens. Extended reports skip the
cooldown, and neither they nor critical events take a token. The emergency channel gets critical
events only, once within a cooldown of its own, and a recovery ends that cooldown.

A critical event that a channel did not take waits in the ledger. Every later dispatch tries it
again first, until the channel takes it, the validator recovers, or an hour has passed. What one
channel does is nothing to the others.
-/

namespace ValidatorWatch

open Time (Instant Span)

/-- A configured channel: its notifier, its bucket if it is limited, and how often it was
sent to. -/
structure Line where
  notifier : Notifier
  bucket : Option (TokenBucket Float)
  sent : Nat := 0

/-- A message handed to a notifier, and what it said. -/
structure Attempt where
  channel : Channel
  notification : Notification
  delivery : Delivery

/-- What a dispatch did, by channel and category, in order. -/
structure DispatchReport where
  delivered : List (Channel × Category) := []
  suppressed : List (Channel × Category) := []
  failed : List (Channel × Category) := []
  retried : List (Channel × Category) := []
  deriving DecidableEq

/-- The channels and their cooldowns. -/
structure Dispatcher where
  lines : ByChannel (Option Line)
  cooldown : Span
  emergencyCooldown : Span

/-- How long a failed critical event is tried again. -/
def retryWindow : Span :=
  .ofSeconds 3600

namespace DispatchReport

/-- How many deliveries a channel took. -/
def deliveredTo (r : DispatchReport) (channel : Channel) : Nat :=
  r.delivered.countP fun d => d.1 = channel

end DispatchReport

namespace Line

/-- Takes a token, if the channel is limited. -/
def takeToken (l : Line) (now : Instant) : Bool × Line :=
  match l.bucket with
  | none => (true, l)
  | some bucket =>
    let (taken, bucket) := bucket.acquire now
    (taken, { l with bucket := some bucket })

end Line

namespace AlertEvent

/-- Events that are worth telling whatever the rate. -/
def exempt (e : AlertEvent) : Bool :=
  e.severity = .critical || e.category = .extendedReport

end AlertEvent

/-- A dispatch under way. -/
structure Round where
  lines : ByChannel (Option Line)
  ledger : AlertLedger
  report : DispatchReport := {}
  attempts : List Attempt := []

namespace Round

/-- Hands a message to a channel. -/
def send (r : Round) (channel : Channel) (line : Line) (n : Notification) : Delivery × Round :=
  let delivery := line.notifier line.sent n
  (delivery,
    { r with
      lines := r.lines.set channel (some { line with sent := line.sent + 1 })
      attempts := r.attempts ++ [⟨channel, n, delivery⟩] })

/-- Notes the delivery of an event. -/
def noteDelivered (r : Round) (channel : Channel) (e : AlertEvent) : Round :=
  let ledger := r.ledger.record channel e.category e.time
  { r with
    ledger :=
      if channel = .emergency then { ledger with lastEmergency := some e.time } else ledger
    report := { r.report with delivered := r.report.delivered ++ [(channel, e.category)] } }

/-- Notes that an event was not sent. -/
def noteSuppressed (r : Round) (channel : Channel) (e : AlertEvent) : Round :=
  { r with
    report := { r.report with suppressed := r.report.suppressed ++ [(channel, e.category)] } }

/-- Notes that an event was not taken; a critical one waits for another try. -/
def noteFailed (r : Round) (channel : Channel) (e : AlertEvent) (now : Instant) : Round :=
  { r with
    ledger := if e.severity = .critical then r.ledger.queueRetry channel e now else r.ledger
    report := { r.report with failed := r.report.failed ++ [(channel, e.category)] } }

/-! ## Trying again -/

/-- Tries a waiting event again, unless it is given up. A channel that is no longer configured gives
its events up. -/
def retry (now : Instant) (recovered : Bool) (r : Round) (p : PendingAlert) : Round :=
  if recovered || retryWindow < now - p.firstFailedAt then r
  else
    match r.lines.get p.channel with
    | none => r
    | some line =>
      let (delivery, r) := r.send p.channel line (.ofEvent p.event)
      match delivery with
      | .ok _ =>
        let r := r.noteDelivered p.channel p.event
        { r with
          report :=
            { r.report with retried := r.report.retried ++ [(p.channel, p.event.category)] } }
      | .error _ =>
        let waiting := r.ledger.pending ++ [{ p with attempts := p.attempts + 1 }]
        { r with ledger := { r.ledger with pending := waiting } }

/-- Tries every waiting event again. -/
def retryPending (now : Instant) (recovered : Bool) (r : Round) : Round :=
  r.ledger.pending.foldl (retry now recovered)
    { r with ledger := { r.ledger with pending := [] } }

/-! ## New events -/

/-- Whether the channel had an event of this category within the cooldown. -/
def inCooldown (cooldown : Span) (channel : Channel) (e : AlertEvent) (l : AlertLedger) : Bool :=
  match l.lastSentAt channel e.category with
  | some last => e.category ≠ .extendedReport && e.time - last < cooldown
  | none => false

/-- Whether the emergency channel had an event within its cooldown. -/
def inEmergencyCooldown (cooldown : Span) (e : AlertEvent) (l : AlertLedger) : Bool :=
  match l.lastEmergency with
  | some last => e.time - last < cooldown
  | none => false

/-- Whether an event may go out on a channel, and the channel after that. It may have given a
token. -/
def allows (d : Dispatcher) (now : Instant) (r : Round) (channel : Channel) (line : Line)
    (e : AlertEvent) : Bool × Line :=
  match channel with
  | .emergency => (!inEmergencyCooldown d.emergencyCooldown e r.ledger, line)
  | _ =>
    if inCooldown d.cooldown channel e r.ledger then (false, line)
    else if e.exempt then (true, line)
    else line.takeToken now

/-- Whether a channel gets such events at all. -/
def wants (channel : Channel) (e : AlertEvent) : Bool :=
  channel ≠ .emergency || e.severity = .critical

/-- Handles an event on one channel. -/
def offer (d : Dispatcher) (now : Instant) (e : AlertEvent) (r : Round) (channel : Channel) :
    Round :=
  match r.lines.get channel with
  | none => r
  | some line =>
    if !wants channel e then r
    else
      match allows d now r channel line e with
      | (false, line) =>
        { r with lines := r.lines.set channel (some line) }.noteSuppressed channel e
      | (true, line) =>
        match r.send channel line (.ofEvent e) with
        | (.ok _, r) => r.noteDelivered channel e
        | (.error _, r) => r.noteFailed channel e now

/-- A recovery ends the cooldown of the emergency channel. -/
def afterEvent (e : AlertEvent) (r : Round) : Round :=
  if e.category = .recovery then { r with ledger := { r.ledger with lastEmergency := none } } else r

/-- Handles an event on every channel: first those that get every event, then the emergency one. -/
def handle (d : Dispatcher) (now : Instant) (r : Round) (e : AlertEvent) : Round :=
  afterEvent e ([Channel.primary, .secondary, .emergency].foldl (offer d now e) r)

end Round

namespace Dispatcher

/-- Whether any channel is configured. -/
def hasChannels (d : Dispatcher) : Bool :=
  Channel.all.any fun c => (d.lines.get c).isSome

/-- What a dispatch leaves behind. -/
structure Outcome where
  dispatcher : Dispatcher
  ledger : AlertLedger
  report : DispatchReport
  attempts : List Attempt

/-- Tries the waiting events again and then handles the new ones. -/
def dispatch (d : Dispatcher) (now : Instant) (events : List AlertEvent) (ledger : AlertLedger) :
    Outcome :=
  let recovered := events.any fun e => e.category = .recovery
  let r := Round.retryPending now recovered { lines := d.lines, ledger := ledger }
  let r := events.foldl (Round.handle d now) r
  ⟨{ d with lines := r.lines }, r.ledger, r.report, r.attempts⟩

/-- What a notice leaves behind. -/
structure NoticeOutcome where
  dispatcher : Dispatcher
  delivered : Nat
  attempts : List Attempt

/-- Sends a notice of the monitor itself on one channel, if that has a token. -/
def notify (now : Instant) (n : Notification) (r : Round) (channel : Channel) : Round :=
  match r.lines.get channel with
  | none => r
  | some line =>
    match line.takeToken now with
    | (false, line) => { r with lines := r.lines.set channel (some line) }
    | (true, line) => (r.send channel line n).2

/-- Whether a notifier took its message. -/
def taken (a : Attempt) : Bool :=
  match a.delivery with
  | .ok _ => true
  | .error _ => false

/-- Sends a notice of the monitor itself to the primary and the secondary channel. -/
def broadcastNotice (d : Dispatcher) (now : Instant) (n : Notification) : NoticeOutcome :=
  let r := [Channel.primary, .secondary].foldl (notify now n) { lines := d.lines, ledger := {} }
  ⟨{ d with lines := r.lines }, r.attempts.countP taken, r.attempts⟩

end Dispatcher

end ValidatorWatch
