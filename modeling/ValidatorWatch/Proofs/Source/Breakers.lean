import ValidatorWatch.Proofs.Time.Differences
import ValidatorWatch.Source.CircuitBreaker
/-!
# Breakers by their failures

A breaker keeps a count, a time and one of three states. What it answers needs
none of them: it follows from the calls made so far, by how many failures there
were since the last success and how long ago the latest was. A breaker that is
half open lets everything through, and so would the rule, as long as time does
not run back: the call that made it half open found the recovery time over, and
so does every later one.

`Follows` is the invariant, kept by each kind of call, and
`refusals_by_failures_alone` the rule. In a leap second time does run back for
the differences that the rule goes by, and there the half-open state matters
(`let_through_after_leap_second`).
-/

namespace ValidatorWatch.CircuitBreaker

open Time (Instant Span)

/-! ## Calls -/

/-- A call of a breaker. -/
inductive Call where
  | ask (now : Instant)
  | succeed
  | fail (now : Instant)

/-- When the call is made, if that is told. -/
def Call.time? : Call → Option Instant
  | .ask now => some now
  | .succeed => none
  | .fail now => some now

/-- The breaker after a call. -/
def make (b : CircuitBreaker) : Call → CircuitBreaker
  | .ask now => (b.canExecute now).2
  | .succeed => b.recordSuccess
  | .fail now => b.recordFailure now

/-- The breaker after some calls, the latest first. -/
def after (b : CircuitBreaker) (history : List Call) : CircuitBreaker :=
  history.foldr (fun call before => before.make call) b

/-! ## What the calls tell, the latest first -/

/-- How many failures there were since the last success. -/
def failuresInRow : List Call → Nat
  | [] => 0
  | .ask _ :: before => failuresInRow before
  | .succeed :: _ => 0
  | .fail _ :: before => failuresInRow before + 1

/-- When the latest failure was. -/
def latestFailure? : List Call → Option Instant
  | [] => none
  | .ask _ :: before => latestFailure? before
  | .succeed :: before => latestFailure? before
  | .fail now :: _ => some now

/-- When it was asked for leave since the latest failure. -/
def askedSinceFailure : List Call → List Instant
  | [] => []
  | .ask now :: before => now :: askedSinceFailure before
  | .succeed :: before => askedSinceFailure before
  | .fail _ :: _ => []

/-- The latest failure is less than the recovery time ago. -/
def Recovering (recovery : Span) (history : List Call) (now : Instant) : Prop :=
  ∃ t ∈ latestFailure? history, now - t < recovery

instance (recovery : Span) (history : List Call) (now : Instant) : Decidable (Recovering recovery history now) :=
  inferInstanceAs (Decidable (∃ t ∈ latestFailure? history, now - t < recovery))

/-- It was asked for leave when the recovery time was over. -/
def Probed (recovery : Span) (history : List Call) : Prop :=
  ∃ now ∈ askedSinceFailure history, ¬ Recovering recovery history now

/-- Time does not run back: of two calls the later one has the later time. -/
def InOrder (history : List Call) : Prop :=
  (history.filterMap Call.time?).Pairwise fun later earlier => earlier ≤ later

instance (history : List Call) : Decidable (InOrder history) :=
  inferInstanceAs (Decidable (List.Pairwise _ _))

section History

variable {recovery : Span} {history before : List Call} {now t : Instant}

theorem mem_times_of_asked (h : t ∈ askedSinceFailure history) : t ∈ history.filterMap Call.time? := by
  induction history with
  | nil => cases h
  | cons call before ih =>
    cases call with
    | ask now =>
      rcases List.mem_cons.1 h with rfl | h
      · exact List.mem_cons_self
      · exact List.mem_cons_of_mem _ (ih h)
    | succeed => exact ih h
    | fail now => cases h

theorem mem_times_of_latestFailure? (h : latestFailure? history = some t) :
    t ∈ history.filterMap Call.time? := by
  induction history with
  | nil => cases h
  | cons call before ih =>
    cases call with
    | ask now => exact List.mem_cons_of_mem _ (ih h)
    | succeed => exact ih h
    | fail now =>
      obtain rfl := Option.some.inj h
      exact List.mem_cons_self

theorem probed_ask : Probed recovery (.ask now :: before) ↔ ¬ Recovering recovery before now ∨ Probed recovery before := by
  simp only [Probed, askedSinceFailure, List.mem_cons, exists_eq_or_imp]
  exact Iff.rfl

theorem not_probed_fail : ¬ Probed recovery (.fail now :: before) := by
  rintro ⟨t, ht, -⟩
  cases ht

/-- Once the recovery time is over it stays over. -/
theorem not_recovering_of_probed (h : Probed recovery history) (horder : InOrder (.ask now :: history))
    (hleap : ∀ t ∈ (Call.ask now :: history).filterMap Call.time?, t.inLeapSecond = false) :
    ¬ Recovering recovery history now := by
  obtain ⟨asked, hasked, hover⟩ := h
  rintro ⟨failed, hfailed, hrecent⟩
  have hmem := mem_times_of_asked hasked
  have hlater : asked ≤ now := List.rel_of_pairwise_cons horder hmem
  have hmore : asked - failed ≤ now - failed :=
    Instant.sub_le_sub_of_le hlater (hleap asked (List.mem_cons_of_mem _ hmem)) (hleap now List.mem_cons_self)
      (hleap failed (List.mem_cons_of_mem _ (mem_times_of_latestFailure? hfailed)))
  exact hover ⟨failed, hfailed, Int.lt_of_le_of_lt hmore hrecent⟩

end History

/-! ## The breaker follows them -/

section Settings

variable {b : CircuitBreaker}

/-- A call changes neither the threshold nor the recovery time. -/
theorem settings_make (call : Call) : (b.make call).threshold = b.threshold ∧ (b.make call).recovery = b.recovery := by
  cases call with
  | ask now =>
    simp only [make, canExecute]
    cases b.state with
    | closed => exact ⟨rfl, rfl⟩
    | halfOpen => exact ⟨rfl, rfl⟩
    | opened => dsimp only; split <;> exact ⟨rfl, rfl⟩
  | succeed => exact ⟨rfl, rfl⟩
  | fail now => exact ⟨rfl, rfl⟩

theorem settings_after (history : List Call) :
    (b.after history).threshold = b.threshold ∧ (b.after history).recovery = b.recovery := by
  induction history with
  | nil => exact ⟨rfl, rfl⟩
  | cons call before ih =>
    obtain ⟨hthreshold, hrecovery⟩ := settings_make (b := b.after before) call
    exact ⟨hthreshold.trans ih.1, hrecovery.trans ih.2⟩

end Settings

/-- The calls as the breaker keeps them. -/
structure Follows (history : List Call) (b : CircuitBreaker) : Prop where
  failures : b.failures = min (failuresInRow history) failureLimit
  lastFailure : b.lastFailure = latestFailure? history
  closed : b.state = .closed ↔ failuresInRow history < max b.threshold 1
  halfOpen : b.state = .halfOpen ↔ max b.threshold 1 ≤ failuresInRow history ∧ Probed b.recovery history

namespace Follows

variable {history before : List Call} {b : CircuitBreaker} {now : Instant}

/-- An open breaker has heard of failures enough, and was not asked when the
recovery time was over. -/
theorem opened (h : Follows history b) :
    b.state = .opened ↔ max b.threshold 1 ≤ failuresInRow history ∧ ¬ Probed b.recovery history := by
  have hmany : max b.threshold 1 ≤ failuresInRow history ↔ b.state ≠ .closed := by
    rw [Ne, h.closed, Nat.not_lt]
  have hhalf := h.halfOpen
  rw [hmany] at hhalf ⊢
  cases hs : b.state with
  | closed => simp
  | opened => simpa [hs] using hhalf
  | halfOpen => simpa [hs] using hhalf

theorem recovered_iff (h : Follows history b) : b.recovered now = true ↔ ¬ Recovering b.recovery history now := by
  rw [recovered, Recovering, h.lastFailure]
  cases latestFailure? history with
  | none => simp
  | some t => simp [Span.le_def, Span.lt_def]

theorem start (threshold : Nat) (recovery : Span) : Follows [] { threshold := threshold, recovery := recovery } where
  failures := rfl
  lastFailure := rfl
  closed := by simp only [failuresInRow, true_iff]; omega
  halfOpen := by simp only [failuresInRow, reduceCtorEq, false_iff]; omega

theorem succeed (h : Follows before b) : Follows (.succeed :: before) b.recordSuccess where
  failures := rfl
  lastFailure := h.lastFailure
  closed := by simp only [recordSuccess, failuresInRow, true_iff]; omega
  halfOpen := by simp only [recordSuccess, failuresInRow, reduceCtorEq, false_iff]; omega

/-- A half-open breaker is opened anew, but by then the count is high enough to
open a closed one. -/
theorem fail (h : Follows before b) (hlimit : b.threshold ≤ failureLimit) (now : Instant) :
    Follows (.fail now :: before) (b.recordFailure now) := by
  have hreached : b.threshold ≤ min (b.failures + 1) failureLimit ↔ max b.threshold 1 ≤ failuresInRow before + 1 := by
    rw [h.failures]
    omega
  have hstate : (b.recordFailure now).state =
      if max b.threshold 1 ≤ failuresInRow before + 1 then .opened else .closed := by
    simp only [recordFailure, hreached, Bool.or_eq_true, decide_eq_true_eq]
    by_cases hopens : max b.threshold 1 ≤ failuresInRow before + 1
    · rw [if_pos (.inl hopens), if_pos hopens]
    · have hclosed : b.state = .closed := h.closed.2 (by omega)
      simp [hopens, hclosed]
  constructor
  case failures =>
    show min (b.failures + 1) failureLimit = min (failuresInRow before + 1) failureLimit
    rw [h.failures]
    omega
  case lastFailure => rfl
  case closed =>
    show (b.recordFailure now).state = .closed ↔ failuresInRow before + 1 < max b.threshold 1
    rw [hstate]
    split <;> simp <;> omega
  case halfOpen =>
    rw [hstate]
    split <;> simp [not_probed_fail]

/-- Asking makes a difference only to an open breaker whose recovery time is
over. -/
theorem ask (h : Follows before b) (now : Instant) : Follows (.ask now :: before) (b.canExecute now).2 := by
  have hrecovered : b.recovered now = true ↔ ¬ Recovering b.recovery before now := h.recovered_iff
  unfold canExecute
  cases hs : b.state with
  | closed =>
    have hfew := h.closed.1 hs
    refine ⟨h.failures, h.lastFailure, h.closed, ?_⟩
    simp only [hs, reduceCtorEq, false_iff, failuresInRow]
    omega
  | halfOpen =>
    obtain ⟨hmany, hprobed⟩ := h.halfOpen.1 hs
    refine ⟨h.failures, h.lastFailure, h.closed, ?_⟩
    simp [hs, hmany, failuresInRow, probed_ask, hprobed]
  | opened =>
    obtain ⟨hmany, hnot⟩ := h.opened.1 hs
    by_cases hover : b.recovered now = true
    · rw [if_pos hover]
      refine ⟨h.failures, h.lastFailure, ?_, ?_⟩
      · simp only [reduceCtorEq, false_iff, failuresInRow]
        omega
      · simp [hmany, failuresInRow, probed_ask, hrecovered.1 hover]
    · rw [if_neg hover]
      refine ⟨h.failures, h.lastFailure, h.closed, ?_⟩
      rw [hrecovered, Decidable.not_not] at hover
      simp [hs, failuresInRow, probed_ask, hover, hnot]

/-- After all calls the breaker follows them. -/
theorem after {threshold : Nat} (hlimit : threshold ≤ failureLimit) (recovery : Span) (history : List Call) :
    Follows history (CircuitBreaker.after { threshold := threshold, recovery := recovery } history) := by
  induction history with
  | nil => exact start threshold recovery
  | cons call before ih =>
    cases call with
    | ask now => exact ih.ask now
    | succeed => exact ih.succeed
    | fail now => exact ih.fail (by rw [(settings_after before).1]; exact hlimit) now

/-- It refuses when failures enough were heard of, the latest less than the
recovery time ago, and it was not asked when that time was over. -/
theorem refuses_iff (h : Follows history b) : (b.canExecute now).1 = false ↔
    max b.threshold 1 ≤ failuresInRow history ∧ Recovering b.recovery history now ∧ ¬ Probed b.recovery history := by
  have hrecovered : b.recovered now = true ↔ ¬ Recovering b.recovery history now := h.recovered_iff
  have hrefuses : (b.canExecute now).1 = false ↔ b.state = .opened ∧ b.recovered now = false := by
    unfold canExecute
    cases b.state with
    | closed => simp
    | halfOpen => simp
    | opened => cases b.recovered now <;> simp
  rw [hrefuses, h.opened, Bool.eq_false_iff, Ne, hrecovered, Decidable.not_not, and_assoc,
    and_comm (a := ¬ Probed b.recovery history)]

end Follows

/-! ## The rule -/

theorem threshold_le_failureLimit (threshold : UInt32) : threshold.toNat ≤ failureLimit := by
  have hlt : threshold.toNat < 4294967296 := threshold.toNat_lt
  show threshold.toNat ≤ 4294967296 - 1
  omega

/-- Whatever calls there were, a breaker is closed exactly as long as fewer
failures than its threshold, and fewer than one at least, came after the last
success. Otherwise it refuses a request if the latest failure is less than the
recovery time ago and no request since was made when that time was over. If time
does not run back and no call is in a leap second, such a request cannot have
been made, and the failures alone decide. -/
theorem refusals_by_failures_alone (threshold : UInt32) (recovery : Span) (history : List Call) (now : Instant) :
    let b := CircuitBreaker.after { threshold := threshold.toNat, recovery := recovery } history
    let enough := max threshold.toNat 1
    (b.state = .closed ↔ failuresInRow history < enough) ∧
    ((b.canExecute now).1 = false ↔
      enough ≤ failuresInRow history ∧ Recovering recovery history now ∧ ¬ Probed recovery history) ∧
    (InOrder (.ask now :: history) →
      (∀ t ∈ (Call.ask now :: history).filterMap Call.time?, t.inLeapSecond = false) →
      ((b.canExecute now).1 = false ↔ enough ≤ failuresInRow history ∧ Recovering recovery history now)) := by
  intro b enough
  have h : Follows history b := Follows.after (threshold_le_failureLimit threshold) recovery history
  obtain ⟨hthreshold, hrecovery⟩ : b.threshold = threshold.toNat ∧ b.recovery = recovery := settings_after history
  have hclosed := h.closed
  have hrefuses : (b.canExecute now).1 = false ↔ _ := h.refuses_iff
  rw [hthreshold] at hclosed hrefuses
  rw [hrecovery] at hrefuses
  refine ⟨hclosed, hrefuses, ?_⟩
  intro horder hleap
  rw [hrefuses]
  constructor
  · rintro ⟨hmany, hrecent, -⟩
    exact ⟨hmany, hrecent⟩
  · rintro ⟨hmany, hrecent⟩
    exact ⟨hmany, hrecent, fun hprobed => not_recovering_of_probed hprobed horder hleap hrecent⟩

/-- Two failures open a breaker. Eleven seconds later it is asked, and fails
again. -/
def failedProbe : List Call :=
  let second (n : Int) : Instant := .ofNanos (n * 1000000000)
  [.fail (second 12), .ask (second 12), .fail (second 1), .fail (second 0)]

/-- So a second after that it refuses. -/
theorem refused_after_failed_probe :
    let b := CircuitBreaker.after { threshold := 2, recovery := .ofSeconds 10 } failedProbe
    let now := Instant.ofNanos 13000000000
    InOrder (.ask now :: failedProbe) ∧
      (∀ t ∈ (Call.ask now :: failedProbe).filterMap Call.time?, t.inLeapSecond = false) ∧
      (b.canExecute now).1 = false := by
  intro b now
  have horder : InOrder (.ask now :: failedProbe) := by decide
  have hleap : ∀ t ∈ (Call.ask now :: failedProbe).filterMap Call.time?, t.inLeapSecond = false := by decide
  have h := (refusals_by_failures_alone 2 (.ofSeconds 10) failedProbe now).2.2 horder hleap
  exact ⟨horder, hleap, h.2 (by decide)⟩

/-- In a leap second a breaker fails, is asked when its recovery time of 50 ms is
just over, and is asked again at the midnight after it. The difference of that
time and the failure is negative, and yet the breaker lets the request through:
it is half open. -/
theorem let_through_after_leap_second :
    ¬ ∀ (threshold : UInt32) (recovery : Span) (history : List Call) (now : Instant),
      .ofSeconds 0 ≤ recovery → InOrder (.ask now :: history) →
      let b := CircuitBreaker.after { threshold := threshold.toNat, recovery := recovery } history
      let enough := max threshold.toNat 1
      (b.state = .closed ↔ failuresInRow history < enough) ∧
        ((b.canExecute now).1 = false ↔ enough ≤ failuresInRow history ∧ Recovering recovery history now) := by
  intro h
  have hrule := (h 1 (.ofMillis 50) [.ask (.inLastLeapSecond 950), .fail (.inLastLeapSecond 900)]
    .afterLastLeapSecond (by decide) (by decide)).2
  revert hrule
  decide

end ValidatorWatch.CircuitBreaker
