import ValidatorWatch.Proofs.Dispatch.Fates
import ValidatorWatch.Proofs.Evaluation.Membership
import ValidatorWatch.Proofs.Monitor.Watch
/-!
# What is told of an outage that is over

A recovery empties the queue of waiting alerts, so while the verdict is neither
inactive nor critical no alert about an outage waits, unless the validator
left these verdicts without a recovery. It does so on its way through a
warning: then an alert that a channel did not take is sent again although the
validator is fine.

`Watch.run` keeps, beside the watch, how the validator last left these two
verdicts, and `Settled` is the invariant.
-/

namespace ValidatorWatch

open Time (Instant)

/-! ## What a dispatch is about -/

namespace Round

variable {d : Dispatcher} {now : Instant} {recovered : Bool} {r : Round} {p : PendingAlert} {e : AlertEvent}
  {k : Channel} {P : AlertEvent → Prop}

/-- What a round sent and has waiting is about events of one kind. -/
structure About (P : AlertEvent → Prop) (r : Round) : Prop where
  sent : ∀ a ∈ r.attempts, ∃ e, P e ∧ a.notification = .ofEvent e
  waiting : ∀ p ∈ r.ledger.pending, P p.event

theorem mem_attempts_of_entry {x : Entry} {a : Attempt} (h : a ∈ x.attempts) : a.notification = .ofEvent x.event := by
  unfold Entry.attempts at h
  split at h
  · rw [List.mem_singleton.1 h]
  · rw [List.mem_singleton.1 h]
  · cases h

theorem About.of_notes {r' : Round} {x : Entry} (h : r.About P) (hnotes : r.Notes x r') (hx : P x.event)
    (hwaiting : ∀ p ∈ r'.ledger.pending, P p.event) : r'.About P := by
  refine ⟨fun a ha => ?_, hwaiting⟩
  rw [hnotes.attempts] at ha
  rcases List.mem_append.1 ha with ha | ha
  · exact h.sent a ha
  · exact ⟨x.event, hx, mem_attempts_of_entry ha⟩

/-- A recovery gives every waiting event up, whatever it is about. -/
theorem About.retry (h : r.About P) (hp : recovered = false → P p.event) : (r.retry now recovered p).About P := by
  cases recovered with
  | true => exact h
  | false =>
    refine h.of_notes (retry_notes 0) (hp rfl) ?_
    rw [pending_retry]
    intro q hq
    rcases List.mem_append.1 hq with hq | hq
    · exact h.waiting q hq
    · split at hq
      · rw [List.mem_singleton.1 hq]; exact hp rfl
      · cases hq

theorem About.offer (h : r.About P) (he : P e) : (r.offer d now e k).About P := by
  cases hf : r.offerFate d now e k with
  | none => rw [(not_for_of_offerFate hf).2]; exact h
  | some fate =>
    refine h.of_notes (offer_notes 0 hf) he ?_
    rw [pending_offer]
    intro q hq
    split at hq
    · rcases AlertLedger.mem_requeue hq with hq | rfl | ⟨p, -, rfl⟩
      · exact h.waiting q hq
      · exact he
      · exact he
    · exact h.waiting q hq

theorem About.handle (h : r.About P) (he : P e) : (r.handle d now e).About P := by
  have hoffers : ([Channel.primary, .secondary, .emergency].foldl (Round.offer d now e) r).About P :=
    ((h.offer he).offer he).offer he
  rw [Round.handle]
  refine ⟨fun a ha => hoffers.sent a ?_, fun p hp => hoffers.waiting p ?_⟩
  · unfold afterEvent at ha
    split at ha <;> exact ha
  · rwa [pending_afterEvent] at hp

theorem About.foldl_retry {queue : List PendingAlert} (hqueue : recovered = false → ∀ p ∈ queue, P p.event)
    (h : r.About P) : (queue.foldl (Round.retry now recovered) r).About P := by
  induction queue generalizing r with
  | nil => exact h
  | cons p rest ih =>
    exact ih (fun hr q hq => hqueue hr q (List.mem_cons_of_mem _ hq))
      (h.retry fun hr => hqueue hr p List.mem_cons_self)

theorem About.foldl_handle {events : List AlertEvent} (hevents : ∀ e ∈ events, P e) (h : r.About P) :
    (events.foldl (Round.handle d now) r).About P := by
  induction events generalizing r with
  | nil => exact h
  | cons e rest ih =>
    exact ih (fun f hf => hevents f (List.mem_cons_of_mem _ hf)) (h.handle (hevents e List.mem_cons_self))

end Round

/-- What a dispatch sends and leaves waiting is about its events, or about
those that were waiting if none of its events is a recovery. -/
theorem Dispatcher.dispatch_about {P : AlertEvent → Prop} (d : Dispatcher) (now : Instant) {events : List AlertEvent}
    {ledger : AlertLedger} (hevents : ∀ e ∈ events, P e)
    (hwaiting : (events.any fun e => e.category = .recovery) = false → ∀ p ∈ ledger.pending, P p.event) :
    (∀ a ∈ (d.dispatch now events ledger).attempts, ∃ e, P e ∧ a.notification = .ofEvent e) ∧
      ∀ p ∈ (d.dispatch now events ledger).ledger.pending, P p.event := by
  have hstart : Round.About P { lines := d.lines, ledger := { ledger with pending := [] } } :=
    ⟨by simp, by simp⟩
  let retried := Round.retryPending now (events.any fun e => e.category = .recovery)
    { lines := d.lines, ledger := ledger }
  have hretried : retried.About P := hstart.foldl_retry hwaiting
  have hhandled : (events.foldl (Round.handle d now) retried).About P := hretried.foldl_handle hevents
  exact ⟨hhandled.sent, hhandled.waiting⟩

namespace State

variable {rules : Rules} {s : State} {validator : String} {o : Observation}

/-- A check that leaves the validator neither inactive nor critical does not
tell that it is down. -/
theorem goesDown_eq_false (h : (s.nextVerdict rules o).isDown = false) : s.goesDown rules o = false := by
  rw [Bool.eq_false_iff]
  intro hd
  have hstreak : rules.threshold ≤ s.streak o := by
    rw [goesDown, Bool.and_eq_true, decide_eq_true_eq, decide_eq_true_eq] at hd
    exact hd.2
  rw [nextVerdict_of_streak hstreak] at h
  cases h

theorem category_ne_down (h : (s.nextVerdict rules o).isDown = false) {e : AlertEvent}
    (he : e ∈ s.nextEvents rules validator o) : e.category ≠ .down := by
  intro hc
  have htold := exists_mem_nextEvents_iff.1 ⟨e, he, hc⟩
  rw [eventOf?, downEvent?, goesDown_eq_false h] at htold
  cases htold

/-- A check that makes the validator active after an outage tells of a
recovery, unless a raised resource level becomes stale on it. -/
theorem any_recovery (validator : String) (hdown : s.verdict.isDown = true) (hactive : s.nextVerdict rules o = .active)
    (hkept : s.resourcesExpire o = false) :
    ((s.nextEvents rules validator o).any fun e => e.category = .recovery) = true := by
  obtain ⟨hfails, hlevel, hmember⟩ := nextVerdict_eq_active_iff.1 hactive
  have htold : (s.eventOf? rules validator o .recovery).isSome = true :=
    isSome_recoveryEvent?_iff.2 ⟨hdown, hfails, heldLevel_eq_normal_iff.2 ⟨hlevel, hkept⟩, hmember⟩
  obtain ⟨e, he, hc⟩ := exists_mem_nextEvents_iff.2 htold
  exact List.any_eq_true.2 ⟨e, he, decide_eq_true hc⟩

end State

/-! ## How an outage ends -/

/-- How a validator came from inactive or critical to another verdict. -/
inductive Exit where
  | recovered
  | throughWarning
  | staleLevel
  deriving DecidableEq

/-- The way that a check takes from inactive or critical to another verdict,
if it takes one. -/
def State.exit? (rules : Rules) (s : State) (o : Observation) : Option Exit :=
  if s.verdict.isDown && !(s.nextVerdict rules o).isDown then
    if s.nextVerdict rules o = .warning then some .throughWarning
    else if s.resourcesExpire o then some .staleLevel
    else some .recovered
  else none

namespace Watch

/-- The state that a check goes by. -/
def before (w : Watch) (o : Observation) : State :=
  w.state.getD (.fresh o.time)

/-- A turn, and the last way out of inactive or critical after it. -/
def follow (rules : Rules) (validator : String) (w : Watch × Option Exit) (t : Turn) : Watch × Option Exit :=
  (w.1.turn rules validator t,
    match t with
    | .check _ b =>
      let o := w.1.observation b
      ((w.1.before o).exit? rules o).or w.2
    | .report _ => w.2)

/-- A run of checks and reports of a validator that has no state yet. -/
def run (rules : Rules) (validator : String) (d : Dispatcher) (turns : List Turn) : Watch × Option Exit :=
  turns.foldl (follow rules validator) (⟨d, none⟩, none)

/-- While the verdict is neither inactive nor critical, nothing about an outage
waits, if the last way out of these verdicts was a recovery. -/
def Settled (w : Watch) (exit : Option Exit) : Prop :=
  ∀ t, let s := w.state.getD (.fresh t)
    s.verdict.isDown = false → exit ≠ some .throughWarning → exit ≠ some .staleLevel →
      ∀ p ∈ s.ledger.pending, p.event.category ≠ .down

variable {rules : Rules} {validator : String} {w : Watch} {exit : Option Exit} {now : Instant} {b : Bundle}

theorem settled_fresh (d : Dispatcher) (exit : Option Exit) : Settled ⟨d, none⟩ exit := by
  intro t s _ _ _ p hp
  cases hp

/-- A check after which the verdict is neither inactive nor critical neither
sends nor leaves waiting anything about an outage. -/
theorem Settled.check (h : Settled w exit)
    (hdown : (w.check rules validator now b).state.verdict.isDown = false)
    (hwarning : (follow rules validator (w, exit) (.check now b)).2 ≠ some .throughWarning)
    (hstale : (follow rules validator (w, exit) (.check now b)).2 ≠ some .staleLevel) :
    (∀ a ∈ (w.check rules validator now b).sent.attempts, ∃ e : AlertEvent, e.category ≠ .down ∧
        a.notification = .ofEvent e) ∧
      ∀ p ∈ (w.check rules validator now b).state.ledger.pending, p.event.category ≠ .down := by
  let o := w.observation b
  let s := w.before o
  have hnext : (s.nextVerdict rules o).isDown = false := hdown
  refine Dispatcher.dispatch_about w.dispatcher now (P := fun e => e.category ≠ .down)
    (fun e he => State.category_ne_down hnext he) fun hnone => ?_
  have hexit : (follow rules validator (w, exit) (.check now b)).2 = (s.exit? rules o).or exit := rfl
  rw [hexit, State.exit?, hnext] at hwarning hstale
  cases hprev : s.verdict.isDown with
  | false =>
    rw [hprev] at hwarning hstale
    exact h o.time hprev hwarning hstale
  -- A recovery has been told, so nothing waits any more.
  | true =>
    rw [hprev] at hwarning hstale
    simp only [Bool.not_false, Bool.and_self, if_true] at hwarning hstale
    have hnot : s.nextVerdict rules o ≠ .warning := fun hw => hwarning (by rw [if_pos hw]; rfl)
    have hkept : s.resourcesExpire o = false := by
      rw [if_neg hnot] at hstale
      rw [Bool.eq_false_iff]
      exact fun hx => hstale (by rw [if_pos hx]; rfl)
    have hactive : s.nextVerdict rules o = .active := by
      cases hv : s.nextVerdict rules o with
      | active => rfl
      | warning => exact absurd hv hnot
      | inactive => rw [hv] at hnext; cases hnext
      | critical => rw [hv] at hnext; cases hnext
    have htold := State.any_recovery validator hprev hactive hkept
    exact absurd (htold.symm.trans hnone) (by decide)

theorem Settled.turn (h : Settled w exit) (t : Turn) :
    Settled (follow rules validator (w, exit) t).1 (follow rules validator (w, exit) t).2 := by
  cases t with
  | check now b =>
    intro _ s hdown hwarning hstale
    exact (h.check hdown hwarning hstale).2
  | report now =>
    cases hs : w.state with
    | none =>
      have hw : (follow rules validator (w, exit) (.report now)).1 = w := by
        show w.turn rules validator (.report now) = w
        rw [Watch.turn, hs]
      rw [hw]
      exact h
    | some s =>
      intro t next hdown hwarning hstale
      have hwaiting := h t
      rw [hs] at hwaiting
      have hnext : next = (w.report validator now s).state := by
        show (w.turn rules validator (.report now)).state.getD (.fresh t) = _
        rw [Watch.turn, hs]
        rfl
      rw [hnext] at hdown ⊢
      refine (Dispatcher.dispatch_about w.dispatcher now (P := fun e => e.category ≠ .down) ?_ fun _ => ?_).2
      · intro e he
        rw [List.mem_singleton.1 he]
        exact Category.noConfusion
      · exact hwaiting hdown hwarning hstale

theorem settled_run (d : Dispatcher) (turns : List Turn) :
    Settled (run rules validator d turns).1 (run rules validator d turns).2 := by
  induction turns using List.reverseRecOn with
  | nil => exact settled_fresh d none
  | append_singleton turns t ih =>
    rw [run, List.foldl_append]
    exact ih.turn t

end Watch

/-- On a check after which a validator is active nothing tells anew that it is
down. If the last check that left inactive and critical went straight to
active, with a resource level that had not become stale, or there is none,
nothing about an outage is sent again either, and nothing waits. -/
theorem no_down_told_of_active (rules : Rules) (validator : String) (d : Dispatcher) (turns : List Watch.Turn)
    (now : Instant) (b : Bundle) :
    let w := (Watch.run rules validator d turns).1
    let exit := (Watch.run rules validator d (turns ++ [.check now b])).2
    let t := w.check rules validator now b
    t.state.verdict = .active →
      (∀ e ∈ t.events, e.category ≠ .down) ∧
      (exit ≠ some .throughWarning → exit ≠ some .staleLevel →
        (∀ a ∈ t.sent.attempts, a.notification.category ≠ some .down) ∧
        ∀ p ∈ t.state.ledger.pending, p.event.category ≠ .down) := by
  intro w exit t hactive
  have hdown : t.state.verdict.isDown = false := by rw [hactive]; rfl
  refine ⟨fun e he => State.category_ne_down hdown he, fun hwarning hstale => ?_⟩
  have hexit : exit = (Watch.follow rules validator (Watch.run rules validator d turns) (.check now b)).2 := by
    show (Watch.run rules validator d (turns ++ [.check now b])).2 = _
    rw [Watch.run, List.foldl_append]
    rfl
  rw [hexit] at hwarning hstale
  obtain ⟨hsent, hpending⟩ := (Watch.settled_run d turns).check hdown hwarning hstale
  refine ⟨fun a ha => ?_, hpending⟩
  obtain ⟨e, he, hnotification⟩ := hsent a ha
  rw [hnotification]
  exact fun hc => he (Option.some.inj hc)

/-- A channel that does not take its first two messages. -/
def lateChannel : Dispatcher where
  lines := ⟨some ⟨fun n _ => if n < 2 then .error (.timeout "telegram") else .ok (), none, 0⟩, none, none⟩
  cooldown := .ofSeconds 300
  emergencyCooldown := .ofSeconds 1800

/-- What a probe finds in a minute: the height of the node, if it answers, and the load of its host. -/
def found (minute : Int) (height : Option Nat) (cpu : Float) : Bundle where
  node := (height.map fun h => .ok { height := some h }).getD (.error (.timeout "node" 5))
  resources := some (.ok { cpu := some cpu })
  rpc := none
  primary := none
  secondary := none
  collectedAt := .ofNanos (minute * 60000000000)

/-- A check of what a probe finds. -/
def probed (minute : Int) (height : Option Nat) (cpu : Float) : Watch.Turn :=
  .check (.ofNanos (minute * 60000000000)) (found minute height cpu)

/-- An alert that waits is dropped by a straight recovery. -/
theorem waiting_alert_dropped :
    let d := lateChannel
    let w := (Watch.run (.ofSettings 1 {}) "v" d [probed 0 none 10.0]).1
    let t := w.check (.ofSettings 1 {}) "v" (.ofNanos 60000000000) (found 1 (some 7) 10.0)
    (∃ s, w.state = some s ∧ s.ledger.pending.map (·.event.category) = [.down]) ∧
      t.state.verdict = .active ∧ (∀ a ∈ t.sent.attempts, a.notification.category ≠ some .down) ∧
      ∀ p ∈ t.state.ledger.pending, p.event.category ≠ .down := by
  intro d w t
  have h := no_down_told_of_active (.ofSettings 1 {}) "v" d [probed 0 none 10.0] (.ofNanos 60000000000)
    (found 1 (some 7) 10.0) (by decide +kernel)
  have hexit : (Watch.run (.ofSettings 1 {}) "v" d ([probed 0 none 10.0] ++
      [.check (.ofNanos 60000000000) (found 1 (some 7) 10.0)])).2 = some .recovered := by decide +kernel
  exact ⟨⟨_, rfl, by decide +kernel⟩, by decide +kernel,
    h.2 (by rw [hexit]; decide) (by rw [hexit]; decide)⟩

/-- After an outage and then a busy host, the validator is fine again, and yet
the alert about the outage is sent. -/
theorem down_told_of_active :
    ¬ ∀ (rules : Rules) (validator : String) (d : Dispatcher) (turns : List Watch.Turn) (now : Instant) (b : Bundle),
      let w := (Watch.run rules validator d turns).1
      let t := w.check rules validator now b
      t.state.verdict = .active →
        (∀ a ∈ t.sent.attempts, a.notification.category ≠ some .down) ∧
        ∀ p ∈ t.state.ledger.pending, p.event.category ≠ .down := by
  intro h
  have hnone := h (.ofSettings 1 {}) "v" lateChannel [probed 0 none 10.0, probed 1 (some 7) 92.0]
    (.ofNanos 120000000000) (found 2 (some 8) 10.0) (by decide +kernel)
  revert hnone
  decide +kernel

end ValidatorWatch
