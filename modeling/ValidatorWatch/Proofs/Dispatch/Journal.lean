import Mathlib.Data.List.Induction
import ValidatorWatch.Proofs.Dispatch.Fates
/-!
# Runs of dispatches and their journals

Events are told to the channels of a validator by one dispatch after another.
`Dispatcher.run` joins what they report and attempt. Its result does not say
what became of which event, since two events may look the same. So
`Dispatcher.trail` goes through the same run step by step, numbers the events
in the order in which they were told, and keeps a journal, the latest entry
first, and the queue with the places of its events.

`Trail.outcome_trail` says that this changes nothing about the run, and
`Trail.kept` that the attempts, the report and the queue of the run are what
the journal says. `Dispatcher.trail_keeps` is the one induction over the
steps of a run.
-/

namespace ValidatorWatch

open Time (Instant Span)

/-- A dispatch of some events at some time. -/
structure Call where
  now : Instant
  events : List AlertEvent

namespace Call

/-- Whether the validator has recovered. -/
def recovered (c : Call) : Bool :=
  c.events.any fun e => e.category = .recovery

end Call

namespace Dispatcher

/-- One dispatch more. -/
def Outcome.call (o : Outcome) (c : Call) : Outcome :=
  let next := o.dispatcher.dispatch c.now c.events o.ledger
  ⟨next.dispatcher, next.ledger, o.report ++ next.report, o.attempts ++ next.attempts⟩

/-- One dispatch after another, from the empty ledger. -/
def run (d : Dispatcher) (calls : List Call) : Outcome :=
  calls.foldl Outcome.call ⟨d, {}, {}, []⟩

end Dispatcher

/-- A critical event without any figures. -/
def alarm (category : Category) (second : Int) : AlertEvent where
  validator := "v"
  severity := .critical
  category := category
  summary := ""
  height := none
  peers := none
  uptimePercent := none
  thresholdCrossed := none
  report := none
  time := .ofNanos (second * 1000000000)

/-- The dispatch of such an event in its own second. -/
def Call.alarm (category : Category) (second : Int) : Call :=
  ⟨.ofNanos (second * 1000000000), [ValidatorWatch.alarm category second]⟩

/-! ## The queue -/

/-- A waiting event and its place. -/
structure Waiting where
  place : Nat
  alert : PendingAlert

namespace Waiting

/-- `AlertLedger.requeue`, with places. -/
def requeue (place : Nat) (k : Channel) (e : AlertEvent) (failedAt : Instant) :
    List Waiting → List Waiting
  | [] => [⟨place, ⟨k, e, failedAt, 1⟩⟩]
  | w :: rest =>
    if w.alert.channel = k ∧ w.alert.event.category = e.category then
      ⟨place, { w.alert with event := e, attempts := w.alert.attempts + 1 }⟩ :: rest
    else w :: requeue place k e failedAt rest

/-- The waiting event that a newer one replaces. -/
def replaced? (k : Channel) (e : AlertEvent) (queue : List Waiting) : Option Waiting :=
  queue.find? fun w => w.alert.channel = k ∧ w.alert.event.category = e.category

variable {n : Nat} {k : Channel} {e : AlertEvent} {now : Instant}

theorem map_requeue (queue : List Waiting) : (requeue n k e now queue).map alert =
    AlertLedger.requeue k e now (queue.map alert) := by
  induction queue with
  | nil => rfl
  | cons w rest ih =>
    rw [requeue, List.map_cons, AlertLedger.requeue]
    split
    · rfl
    · rw [List.map_cons, ih]

/-- An event goes to the end of the queue or takes the place of another. -/
theorem requeue_of (n : Nat) (k : Channel) (e : AlertEvent) (now : Instant) (queue : List Waiting) :
    (replaced? k e queue = none ∧ requeue n k e now queue = queue ++ [⟨n, ⟨k, e, now, 1⟩⟩]) ∨
    ∃ before w after since tries, queue = before ++ w :: after ∧ w.alert.channel = k ∧
      w.alert.event.category = e.category ∧ replaced? k e queue = some w ∧
      requeue n k e now queue = before ++ ⟨n, ⟨k, e, since, tries⟩⟩ :: after := by
  induction queue with
  | nil => exact .inl ⟨rfl, rfl⟩
  | cons w rest ih =>
    by_cases hw : w.alert.channel = k ∧ w.alert.event.category = e.category
    · refine .inr ⟨[], w, rest, w.alert.firstFailedAt, w.alert.attempts + 1, rfl, hw.1, hw.2, ?_, ?_⟩
      · simp [replaced?, hw]
      · simp [requeue, hw]
    · have hf : replaced? k e (w :: rest) = replaced? k e rest := by simp [replaced?, hw]
      have hq : requeue n k e now (w :: rest) = w :: requeue n k e now rest := by
        rw [requeue, if_neg hw]
      rw [hf, hq]
      rcases ih with ⟨hnone, hrest⟩ | ⟨before, v, after, since, tries, hrest, hk, hc, hsome, hnew⟩
      · exact .inl ⟨hnone, by rw [hrest, List.cons_append]⟩
      · refine .inr ⟨w :: before, v, after, since, tries, ?_, hk, hc, hsome, ?_⟩
        · rw [hrest, List.cons_append]
        · rw [hnew, List.cons_append]

end Waiting

/-! ## Steps -/

/-- One step of a dispatch. -/
inductive Step where
  | retry (now : Instant) (recovered : Bool) (w : Waiting)
  | offer (now : Instant) (place : Nat) (e : AlertEvent) (k : Channel)
  | close (place : Nat) (e : AlertEvent)

namespace Step

/-- The steps for new events, the first of them at place `n`. -/
def ofEvents (now : Instant) : Nat → List AlertEvent → List Step
  | _, [] => []
  | n, e :: rest =>
    .offer now n e .primary :: .offer now n e .secondary :: .offer now n e .emergency ::
      .close n e :: ofEvents now (n + 1) rest

/-- What a step does with a round. -/
def on (d : Dispatcher) (r : Round) : Step → Round
  | .retry now recovered w => r.retry now recovered w.alert
  | .offer now _ e k => r.offer d now e k
  | .close _ e => r.afterEvent e

/-- The place of the event that a step is about, and the event. -/
def place : Step → Nat
  | .retry _ _ w => w.place
  | .offer _ n _ _ => n
  | .close n _ => n

def event : Step → AlertEvent
  | .retry _ _ w => w.alert.event
  | .offer _ _ e _ => e
  | .close _ e => e

/-- The steps for new events are what a dispatch does with them. -/
theorem foldl_ofEvents (d : Dispatcher) (now : Instant) (n : Nat) (events : List AlertEvent) (r : Round) :
    (ofEvents now n events).foldl (on d) r = events.foldl (Round.handle d now) r := by
  induction events generalizing n r with
  | nil => rfl
  | cons e rest ih => exact ih (n + 1) (r.handle d now e)

/-- Each of them is about one of the events, at its place. -/
theorem mem_ofEvents {s : Step} {now : Instant} {n : Nat} {events : List AlertEvent}
    (h : s ∈ ofEvents now n events) :
    (∃ i, s.place = n + i ∧ events[i]? = some s.event) ∧
      ∀ now recovered w, s ≠ .retry now recovered w := by
  induction events generalizing n with
  | nil => simp [ofEvents] at h
  | cons e rest ih =>
    simp only [ofEvents, List.mem_cons] at h
    rcases h with rfl | rfl | rfl | rfl | h
    · exact ⟨⟨0, rfl, rfl⟩, by simp⟩
    · exact ⟨⟨0, rfl, rfl⟩, by simp⟩
    · exact ⟨⟨0, rfl, rfl⟩, by simp⟩
    · exact ⟨⟨0, rfl, rfl⟩, by simp⟩
    · obtain ⟨⟨i, hp, he⟩, hr⟩ := ih h
      exact ⟨⟨i + 1, by omega, he⟩, hr⟩

end Step

/-- A run so far: what the dispatches before this one reported and attempted,
the round of this one, the queue, all events told, and the journal. -/
structure Trail where
  report : DispatchReport := {}
  attempts : List Attempt := []
  round : Round
  queue : List Waiting := []
  told : List AlertEvent := []
  journal : List Entry := []

namespace Trail

/-- What the run so far would leave behind. -/
def outcome (t : Trail) (d : Dispatcher) : Dispatcher.Outcome :=
  ⟨{ d with lines := t.round.lines }, t.round.ledger, t.report ++ t.round.report,
    t.attempts ++ t.round.attempts⟩

/-- What the journal notes of a step, the latest entry first. A critical event
that is refused costs the one that it replaces in the queue. -/
def entries (d : Dispatcher) (t : Trail) : Step → List Entry
  | .retry now recovered w =>
    [⟨w.place, w.alert.channel, w.alert.event, t.round.retryFate now recovered w.alert⟩]
  | .offer now n e k =>
    match t.round.offerFate d now e k with
    | none => []
    | some fate =>
      (if fate.refused ∧ e.severity = .critical then
        (Waiting.replaced? k e t.queue).toList.map fun w =>
          ⟨w.place, k, w.alert.event, .lost (.superseded n)⟩
      else []) ++ [⟨n, k, e, fate⟩]
  | .close n e => if e.category = .recovery then [⟨n, .emergency, e, .clears⟩] else []

/-- The queue after a step. -/
def queueAfter (d : Dispatcher) (t : Trail) : Step → List Waiting
  | .retry now recovered w =>
    t.queue ++
      if (t.round.retryFate now recovered w.alert).refused then
        [⟨w.place, { w.alert with attempts := w.alert.attempts + 1 }⟩]
      else []
  | .offer now n e k =>
    if (t.round.offerFate d now e k).any Fate.refused ∧ e.severity = .critical then
      Waiting.requeue n k e now t.queue
    else t.queue
  | .close _ _ => t.queue

/-- A step, noted in the journal. -/
def perform (d : Dispatcher) (t : Trail) (s : Step) : Trail :=
  { t with
    round := s.on d t.round
    queue := t.queueAfter d s
    journal := t.entries d s ++ t.journal }

/-- The beginning of a dispatch. -/
def begin (t : Trail) (c : Call) : Trail :=
  { t with
    report := t.report ++ t.round.report
    attempts := t.attempts ++ t.round.attempts
    round := { lines := t.round.lines, ledger := { t.round.ledger with pending := [] } }
    queue := []
    told := t.told ++ c.events }

/-- The steps of a dispatch. -/
def plan (t : Trail) (c : Call) : List Step :=
  t.queue.map (.retry c.now c.recovered) ++ Step.ofEvents c.now t.told.length c.events

/-- A whole dispatch. -/
def dispatch (d : Dispatcher) (t : Trail) (c : Call) : Trail :=
  (t.plan c).foldl (perform d) (t.begin c)

end Trail

/-- What every step keeps holds after any steps, the others still to be done. -/
theorem Trail.perform_keeps {d : Dispatcher} {P : List Step → Trail → Prop}
    (performs : ∀ s todo t, P (s :: todo) t → P todo (t.perform d s)) {todo : List Step} (rest : List Step)
    {t : Trail} (h : P (todo ++ rest) t) : P rest (todo.foldl (Trail.perform d) t) := by
  induction todo generalizing t with
  | nil => exact h
  | cons s todo ih => exact ih (performs s (todo ++ rest) t h)

namespace Dispatcher

/-- A run with its journal. -/
def trail (d : Dispatcher) (calls : List Call) : Trail :=
  calls.foldl (Trail.dispatch d) { round := { lines := d.lines, ledger := {} } }

theorem trail_append (d : Dispatcher) (calls : List Call) (c : Call) :
    d.trail (calls ++ [c]) = (d.trail calls).dispatch d c := by
  rw [trail, List.foldl_append]
  rfl

/-- What holds at first and is kept by the beginning of a dispatch and by every
step holds after every run. It may speak of the steps that are still to be
done. -/
theorem trail_keeps {d : Dispatcher} {P : List Step → Trail → Prop}
    (first : P [] { round := { lines := d.lines, ledger := {} } })
    (begins : ∀ t c, P [] t → P (t.plan c) (t.begin c))
    (performs : ∀ s todo t, P (s :: todo) t → P todo (t.perform d s))
    (calls : List Call) : P [] (d.trail calls) := by
  induction calls using List.reverseRecOn with
  | nil => exact first
  | append_singleton calls c ih =>
    rw [trail_append]
    refine Trail.perform_keeps performs [] ?_
    rw [List.append_nil]
    exact begins _ c ih

end Dispatcher

namespace Trail

variable {d : Dispatcher} {t : Trail} {c : Call} {s : Step} {todo : List Step}

/-! ## The run and its trail -/

/-- What holds between the journal and the round, and is kept by noting what a
step changes, is kept by every step. -/
theorem noted_perform {R : List Entry → Round → Prop}
    (note : ∀ journal r x r', R journal r → r.Notes x r' → R (x :: journal) r')
    (h : R t.journal t.round) : R (t.perform d s).journal (t.perform d s).round := by
  cases s with
  | retry now recovered w => exact note _ _ _ _ h (Round.retry_notes w.place)
  | offer now n e k =>
    simp only [perform, entries, Step.on]
    cases hf : t.round.offerFate d now e k with
    | none =>
      rw [(Round.not_for_of_offerFate hf).2]
      exact h
    | some fate =>
      have hsent := note _ _ _ _ h (Round.offer_notes n hf)
      by_cases hr : fate.refused = true ∧ e.severity = .critical
      · simp only [if_pos hr]
        cases Waiting.replaced? k e t.queue with
        | none => exact hsent
        | some w => exact note _ _ _ _ hsent (Round.notes_lost _)
      · simp only [if_neg hr]
        exact hsent
  | close n e =>
    simp only [perform, entries, Step.on]
    by_cases he : e.category = .recovery
    · rw [if_pos he]
      exact note _ _ _ _ h (Round.afterEvent_notes n he)
    · rw [if_neg he, Round.afterEvent, if_neg he]
      exact h

/-- What the journal says was attempted and reported. -/
def attempted : List Entry → List Attempt
  | [] => []
  | x :: journal => attempted journal ++ x.attempts

def reported : List Entry → DispatchReport
  | [] => {}
  | x :: journal => reported journal ++ x.report

/-- The run is what the journal and the queue say. -/
structure Kept (t : Trail) : Prop where
  pending : t.round.ledger.pending = t.queue.map Waiting.alert
  attempts : t.attempts ++ t.round.attempts = attempted t.journal
  report : t.report ++ t.round.report = reported t.journal

theorem pending_perform (h : t.round.ledger.pending = t.queue.map Waiting.alert) :
    (t.perform d s).round.ledger.pending = (t.perform d s).queue.map Waiting.alert := by
  cases s with
  | retry now recovered w =>
    simp only [perform, queueAfter, Step.on]
    rw [Round.pending_retry, h, List.map_append]
    split <;> rfl
  | offer now n e k =>
    simp only [perform, queueAfter, Step.on]
    rw [Round.pending_offer, h]
    split
    · rw [Waiting.map_requeue]
    · rfl
  | close n e =>
    simp only [perform, queueAfter, Step.on]
    rw [Round.pending_afterEvent, h]

theorem Kept.perform (h : t.Kept) : (t.perform d s).Kept := by
  refine ⟨pending_perform h.pending, ?_, ?_⟩
  · refine noted_perform (R := fun journal r => t.attempts ++ r.attempts = attempted journal) ?_ h.attempts
    intro journal r x r' hr hn
    rw [attempted, ← hr, hn.attempts, List.append_assoc]
  · refine noted_perform (R := fun journal r => t.report ++ r.report = reported journal) ?_ h.report
    intro journal r x r' hr hn
    rw [reported, ← hr, hn.report, DispatchReport.append_assoc]

theorem Kept.begin (h : t.Kept) : (t.begin c).Kept :=
  ⟨rfl, by simpa [Trail.begin] using h.attempts, by simpa [Trail.begin] using h.report⟩

/-- After every run, the attempts, the report and the queue are what the journal
and the queue with places say. -/
theorem kept (d : Dispatcher) (calls : List Call) : (d.trail calls).Kept := by
  refine Dispatcher.trail_keeps (P := fun _ t => t.Kept) ?_ ?_ ?_ calls
  · exact ⟨rfl, rfl, by simp [reported]⟩
  · intro t c h; exact h.begin
  · intro s todo t h; exact h.perform

theorem foldl_perform : (todo.foldl (perform d) t).outcome d =
    let r := todo.foldl (Step.on d) t.round
    ⟨{ d with lines := r.lines }, r.ledger, t.report ++ r.report, t.attempts ++ r.attempts⟩ := by
  induction todo generalizing t with
  | nil => rfl
  | cons s todo ih =>
    rw [List.foldl_cons, ih]
    rfl

/-- A dispatch with a journal is a dispatch. -/
theorem outcome_dispatch (h : t.Kept) : (t.dispatch d c).outcome d = (t.outcome d).call c := by
  rw [dispatch, foldl_perform, plan, List.foldl_append, Step.foldl_ofEvents]
  have hretry : (t.queue.map (Step.retry c.now c.recovered)).foldl (Step.on d) (t.begin c).round =
      Round.retryPending c.now c.recovered { lines := t.round.lines, ledger := t.round.ledger } := by
    rw [Round.retryPending, h.pending, List.foldl_map, List.foldl_map]
    rfl
  rw [hretry]
  rfl

/-- The trail of a run ends where the run ends. -/
theorem outcome_trail (d : Dispatcher) (calls : List Call) :
    (d.trail calls).outcome d = d.run calls := by
  induction calls using List.reverseRecOn with
  | nil => rfl
  | append_singleton calls c ih =>
    have hd := outcome_dispatch (d := d) (c := c) (kept d calls)
    rw [ih] at hd
    rw [Dispatcher.trail_append, Dispatcher.run, List.foldl_append]
    exact hd

theorem told_dispatch : (t.dispatch d c).told = t.told ++ c.events := by
  have h : ∀ (todo : List Step) (t : Trail), (todo.foldl (perform d) t).told = t.told := by
    intro todo
    induction todo with
    | nil => intro t; rfl
    | cons s todo ih => intro t; exact ih (t.perform d s)
  rw [dispatch, h]
  rfl

theorem told_trail (d : Dispatcher) (calls : List Call) :
    (d.trail calls).told = calls.flatMap Call.events := by
  induction calls using List.reverseRecOn with
  | nil => rfl
  | append_singleton calls c ih =>
    rw [Dispatcher.trail_append, told_dispatch, ih, List.flatMap_append, List.flatMap_singleton]

end Trail

end ValidatorWatch
