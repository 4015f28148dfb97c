import ValidatorWatch.Proofs.Dispatch.Journal
/-!
# Dispatches that no bucket holds up

All that a bucket does is to keep an event from its channel. So a dispatch in
which that happens to no event is what the same channels make of it without
buckets, and what is in the buckets is of no account.

Whether it happens is read off the journal of the dispatch.
-/

namespace ValidatorWatch

open Time (Instant)

/-! ## Channels without buckets -/

/-- Buckets for the channels, where a channel may be unlimited. -/
abbrev Buckets := ByChannel (Option (TokenBucket Float))

/-- The channels with these buckets in place of theirs. -/
def Buckets.fit (b : Buckets) (lines : ByChannel (Option Line)) : ByChannel (Option Line) :=
  .ofFn fun k => (lines.get k).map fun line => { line with bucket := b.get k }

/-- The dispatcher with these buckets on its channels. -/
def Dispatcher.fitted (d : Dispatcher) (b : Buckets) : Dispatcher :=
  { d with lines := b.fit d.lines }

/-- A bucket kept the event from its channel. -/
def Entry.starved (x : Entry) : Bool :=
  match x.fate with
  | .withheld .tokens => true
  | _ => false

namespace Line

/-- The channel without its bucket. -/
def unlimited (l : Line) : Line :=
  { l with bucket := none }

variable {l : Line} {now : Instant}

theorem takeToken_unlimited : l.unlimited.takeToken now = (true, l.unlimited) := rfl

theorem unlimited_takeToken : (l.takeToken now).2.unlimited = l.unlimited := by
  unfold takeToken
  split <;> rfl

end Line

/-- The channels without their buckets. -/
def unlimitedLines (lines : ByChannel (Option Line)) : ByChannel (Option Line) :=
  .ofFn fun k => (lines.get k).map Line.unlimited

variable {lines : ByChannel (Option Line)} {k : Channel}

@[simp] theorem get_unlimitedLines : (unlimitedLines lines).get k = (lines.get k).map Line.unlimited :=
  ByChannel.get_ofFn _ k

theorem unlimitedLines_set {line : Line} :
    unlimitedLines (lines.set k (some line)) = (unlimitedLines lines).set k (some line.unlimited) := by
  ext1 j
  simp only [get_unlimitedLines, ByChannel.get_set]
  split <;> rfl

theorem unlimitedLines_fit {b : Buckets} : unlimitedLines (b.fit lines) = unlimitedLines lines := by
  ext1 j
  simp only [get_unlimitedLines, Buckets.fit, ByChannel.get_ofFn, Option.map_map]
  rfl

/-- The dispatcher without buckets. -/
def Dispatcher.unlimited (d : Dispatcher) : Dispatcher :=
  { d with lines := unlimitedLines d.lines }

theorem Dispatcher.unlimited_fitted {d : Dispatcher} {b : Buckets} : (d.fitted b).unlimited = d.unlimited :=
  congrArg (fun lines => ({ d with lines := lines } : Dispatcher)) unlimitedLines_fit

/-! ## One step without buckets -/

namespace Round

/-- The round with channels without buckets. -/
def unlimited (r : Round) : Round :=
  { r with lines := unlimitedLines r.lines }

variable {d : Dispatcher} {now : Instant} {recovered : Bool} {r : Round} {p : PendingAlert} {e : AlertEvent}
  {line : Line}

theorem send_unlimited {n : Notification} :
    r.unlimited.send k line.unlimited n = ((r.send k line n).1, (r.send k line n).2.unlimited) := by
  simp only [send, unlimited, unlimitedLines_set]
  rfl

theorem retryFate_unlimited : r.unlimited.retryFate now recovered p = r.retryFate now recovered p := by
  simp only [retryFate, unlimited, get_unlimitedLines]
  cases r.lines.get p.channel <;> rfl

/-- What waits is tried again whatever is in the buckets. -/
theorem retry_unlimited : r.unlimited.retry now recovered p = (r.retry now recovered p).unlimited := by
  unfold retry
  split
  · rfl
  · have hline : r.unlimited.lines.get p.channel = (r.lines.get p.channel).map Line.unlimited := get_unlimitedLines
    rw [hline]
    cases r.lines.get p.channel with
    | none => rfl
    | some line =>
      simp only [Option.map_some, send_unlimited]
      cases (r.send p.channel line (.ofEvent p.event)).1 <;> rfl

theorem cools_unlimited : cools d e r.unlimited k = cools d e r k := by
  cases k <;> rfl

/-- Where no bucket is to blame, an event is as welcome without buckets. -/
theorem allows_unlimited (h : (allows d now r k line e).1 = true ∨ cools d e r k = true) :
    allows d now r.unlimited k line.unlimited e =
      ((allows d now r k line e).1, (allows d now r k line e).2.unlimited) := by
  by_cases hk : k = .emergency
  · subst hk
    rfl
  · rw [allows_broadcast _ hk, allows_broadcast _ hk, cools_unlimited] at *
    split
    · rfl
    next hc =>
      split
      · rfl
      next he =>
        rw [if_neg hc, if_neg he, or_iff_left hc] at h
        rw [Line.takeToken_unlimited, Line.unlimited_takeToken, h]

theorem offerFate_unlimited (h : r.offerFate d now e k ≠ some (.withheld .tokens)) :
    r.unlimited.offerFate d now e k = r.offerFate d now e k ∧
      r.unlimited.offer d now e k = (r.offer d now e k).unlimited := by
  have hline : r.unlimited.lines.get k = (r.lines.get k).map Line.unlimited := get_unlimitedLines
  unfold offerFate offer at *
  rw [hline]
  cases hl : r.lines.get k with
  | none => exact ⟨rfl, rfl⟩
  | some line =>
    rw [hl] at h
    simp only [Option.map_some] at h ⊢
    by_cases hw : wants k e = true
    case neg => simp only [hw, Bool.false_eq_true, if_false, Bool.not_false, if_true, and_self]
    simp only [hw, if_true, Bool.not_true, Bool.false_eq_true, if_false, cools_unlimited] at h ⊢
    rcases ha : allows d now r k line e with ⟨_ | _, line'⟩
    · rw [ha] at h
      have hc : cools d e r k = true := by
        by_contra hc
        exact h (by rw [if_neg hc])
      rw [allows_unlimited (.inr hc), ha]
      refine ⟨rfl, ?_⟩
      simp only [unlimited, noteSuppressed, unlimitedLines_set]
    · rw [allows_unlimited (.inl (by rw [ha])), ha]
      simp only [send_unlimited]
      refine ⟨rfl, ?_⟩
      rcases hs : r.send k line' (.ofEvent e) with ⟨_ | _, s⟩ <;> rfl

theorem afterEvent_unlimited : r.unlimited.afterEvent e = (r.afterEvent e).unlimited := by
  unfold afterEvent
  split <;> rfl

end Round

/-! ## Whole dispatches -/

namespace Trail

/-- The trail of channels without buckets. -/
def unlimited (t : Trail) : Trail :=
  { t with round := t.round.unlimited }

variable {d : Dispatcher} {t : Trail} {s : Step} {todo : List Step}

theorem perform_unlimited (h : ∀ x ∈ t.entries d s, x.starved = false) :
    t.unlimited.perform d s = (t.perform d s).unlimited := by
  cases s with
  | retry now recovered w =>
    simp only [perform, Step.on, queueAfter, entries, unlimited, Round.retry_unlimited, Round.retryFate_unlimited]
  | offer now n e k =>
    have hfate : t.round.offerFate d now e k ≠ some (.withheld .tokens) := by
      intro hf
      rw [entries, hf] at h
      exact absurd (h _ (List.mem_append_right _ (List.mem_singleton_self _))) (by simp [Entry.starved])
    obtain ⟨hf, ho⟩ := Round.offerFate_unlimited hfate
    simp only [perform, Step.on, queueAfter, entries, unlimited, hf, ho]
  | close n e => simp only [perform, Step.on, queueAfter, entries, unlimited, Round.afterEvent_unlimited]

theorem mem_journal_foldl {x : Entry} (h : x ∈ t.journal) : x ∈ (todo.foldl (perform d) t).journal := by
  induction todo generalizing t with
  | nil => exact h
  | cons s todo ih => exact ih (List.mem_append_right _ h)

theorem foldl_perform_unlimited (h : ∀ x ∈ (todo.foldl (perform d) t).journal, x.starved = false) :
    todo.foldl (perform d) t.unlimited = (todo.foldl (perform d) t).unlimited := by
  induction todo generalizing t with
  | nil => rfl
  | cons s todo ih =>
    have hstep : ∀ x ∈ t.entries d s, x.starved = false := fun x hx =>
      h x (mem_journal_foldl (t := t.perform d s) (List.mem_append_left _ hx))
    rw [List.foldl_cons, List.foldl_cons, perform_unlimited hstep]
    exact ih h

/-- The trail before a dispatch on a ledger. -/
def first (d : Dispatcher) (l : AlertLedger) : Trail :=
  { round := { lines := d.lines, ledger := l }, queue := l.pending.map (⟨0, ·⟩) }

theorem kept_first (d : Dispatcher) (l : AlertLedger) : (first d l).Kept where
  pending := by simp [first, Function.comp_def]
  attempts := rfl
  report := by simp [first, reported]

end Trail

namespace Dispatcher

/-- The journal of a dispatch. -/
def journal (d : Dispatcher) (c : Call) (l : AlertLedger) : List Entry :=
  ((Trail.first d l).dispatch d c).journal

/-- A dispatch ends where its trail does. -/
theorem dispatch_eq_outcome (d : Dispatcher) (c : Call) (l : AlertLedger) :
    d.dispatch c.now c.events l = ((Trail.first d l).dispatch d c).outcome d := by
  rw [Trail.outcome_dispatch (Trail.kept_first d l)]
  simp [Outcome.call, Trail.outcome, Trail.first, DispatchReport.append_def]

/-- A dispatch in which no bucket keeps an event from its channel is the same
without buckets. -/
theorem dispatch_unlimited {d : Dispatcher} {c : Call} {l : AlertLedger}
    (h : ∀ x ∈ d.journal c l, x.starved = false) :
    d.unlimited.dispatch c.now c.events l =
      { d.dispatch c.now c.events l with dispatcher := (d.dispatch c.now c.events l).dispatcher.unlimited } := by
  have htrail : (Trail.first d.unlimited l).dispatch d.unlimited c = ((Trail.first d l).dispatch d c).unlimited :=
    Trail.foldl_perform_unlimited h
  rw [dispatch_eq_outcome, dispatch_eq_outcome, htrail]
  rfl

end Dispatcher

end ValidatorWatch
