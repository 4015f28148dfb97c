import Mathlib.Algebra.Order.Field.Basic
import Mathlib.Algebra.Order.Ring.Rat
import Mathlib.Tactic.Linarith
import Mathlib.Tactic.Positivity
import ValidatorWatch.Alert.TokenBucket
import ValidatorWatch.Proofs.Time.Differences
/-!
# The rate of a token bucket

A bucket that counts in exact fractions keeps to its rate whatever the clock
does. What is in it never exceeds the capacity, and a call takes out no more
than the time by which the last refill advanced has brought in, and than was
there before (`take_pays`). Along a block of calls that adds up:
`tokens_taken_bounded`.

The advance is a difference of instants, refill by refill. Outside leap seconds
the differences of a block add up to one from its beginning to its end, and a
call at or before the last refill is no advance. A call in a leap second may be
one (`tokens_from_leap_second`).
-/

namespace ValidatorWatch

open Time (Instant Span)

instance : TokenAmount ℚ where
  ofNat n := n
  atMost x y := decide (x ≤ y)
  wholePart x := x.floor.toNat

/-- The length in seconds, as an exact fraction. -/
def Time.Span.inSeconds (s : Span) : ℚ :=
  s.nanos / 1000000000

namespace TokenBucket

/-! ## Calls -/

/-- A call of a bucket. -/
inductive Call where
  | acquire (now : Instant)
  | available (now : Instant)

/-- When the call is made. -/
def Call.time : Call → Instant
  | .acquire now => now
  | .available now => now

section Calls

variable {R : Type} [TokenAmount R]

/-- The bucket after a call. -/
def make (b : TokenBucket R) : Call → TokenBucket R
  | .acquire now => (b.acquire now).2
  | .available now => (b.available now).2

/-- How many tokens a call takes. -/
def takes (b : TokenBucket R) : Call → Nat
  | .acquire now => if (b.acquire now).1 then 1 else 0
  | .available _ => 0

/-- The bucket after a block of calls. -/
def after (b : TokenBucket R) (calls : List Call) : TokenBucket R :=
  calls.foldl make b

/-- How many tokens a block of calls takes. -/
def taken (b : TokenBucket R) : List Call → Nat
  | [] => 0
  | call :: more => b.takes call + taken (b.make call) more

/-- By how much the last refill advances in a block of calls, refill by
refill. -/
def advance (b : TokenBucket R) : List Call → Span
  | [] => ⟨0⟩
  | call :: more => ⟨((b.make call).lastRefill - b.lastRefill).nanos + (advance (b.make call) more).nanos⟩

end Calls

/-! ## In exact fractions -/

@[simp] theorem amount_ofNat (n : Nat) : (TokenAmount.ofNat n : ℚ) = n := rfl

@[simp] theorem amount_atMost (x y : ℚ) : TokenAmount.atMost x y = decide (x ≤ y) := rfl

theorem refill_of_elapsed {b : TokenBucket ℚ} {now : Instant} (h : 0 < (now - b.lastRefill).millis) : b.refill now =
    { b with
      tokens := min (b.tokens + (now - b.lastRefill).millis.toNat / 1000 * b.perSecond) b.capacity
      lastRefill := now } := by
  unfold refill least
  simp only [amount_ofNat, amount_atMost, decide_eq_true_eq, Nat.cast_ofNat, min_def]
  exact if_neg (not_le.2 h)

theorem refill_of_not_elapsed {b : TokenBucket ℚ} {now : Instant} (h : (now - b.lastRefill).millis ≤ 0) :
    b.refill now = b := by
  unfold refill
  exact if_pos h

/-- A call fills the bucket up and takes a whole token or nothing. -/
theorem make_cases (b : TokenBucket ℚ) (call : Call) :
    (b.takes call = 0 ∧ b.make call = b.refill call.time) ∨
    (b.takes call = 1 ∧ 1 ≤ (b.refill call.time).tokens ∧
      b.make call = { b.refill call.time with tokens := (b.refill call.time).tokens - 1 }) := by
  cases call with
  | acquire now =>
    simp only [make, takes, acquire, Call.time, amount_ofNat, amount_atMost, decide_eq_true_eq, Nat.cast_one]
    by_cases htoken : 1 ≤ (b.refill now).tokens
    · rw [if_pos htoken]
      exact .inr ⟨rfl, htoken, rfl⟩
    · rw [if_neg htoken]
      exact .inl ⟨rfl, rfl⟩
  | available now => exact .inl ⟨rfl, rfl⟩

theorem lastRefill_make (b : TokenBucket ℚ) (call : Call) :
    (b.make call).lastRefill = (b.refill call.time).lastRefill := by
  rcases b.make_cases call with ⟨-, hmake⟩ | ⟨-, -, hmake⟩ <;> rw [hmake]

theorem tokens_make (b : TokenBucket ℚ) (call : Call) :
    b.takes call + (b.make call).tokens = (b.refill call.time).tokens := by
  rcases b.make_cases call with ⟨htakes, hmake⟩ | ⟨htakes, -, hmake⟩ <;> rw [htakes, hmake]
  · rw [Nat.cast_zero, zero_add]
  · rw [Nat.cast_one, add_sub_cancel]

/-- A bucket of a capacity that a minute fills, with no more in it than that. -/
structure Sound (c : ℚ) (b : TokenBucket ℚ) : Prop where
  capacity : b.capacity = c
  perSecond : b.perSecond = c / 60
  nonneg : 0 ≤ b.tokens
  le : b.tokens ≤ c

/-- Whole milliseconds are no more than the time that passed. -/
theorem millis_le_inSeconds {s : Span} (h : 0 < s.millis) : (s.millis.toNat / 1000 : ℚ) ≤ s.inSeconds := by
  have hnonneg : 0 ≤ s.nanos := by
    by_contra hneg
    have hmillis := Int.tdiv_nonneg (show 0 ≤ -s.nanos by omega) (show (0 : ℤ) ≤ 1000000 by decide)
    rw [Int.neg_tdiv] at hmillis
    rw [Span.millis] at h
    omega
  have hmillis : (s.millis.toNat : ℤ) * 1000000 ≤ s.nanos := by
    rw [Span.millis, Int.tdiv_eq_ediv_of_nonneg hnonneg] at *
    omega
  have hcast : (s.millis.toNat : ℚ) * 1000000 ≤ s.nanos := by exact_mod_cast hmillis
  rw [Span.inSeconds, div_le_div_iff₀ (by norm_num) (by norm_num)]
  linarith

namespace Sound

variable {c : ℚ} {b : TokenBucket ℚ}

theorem perMinute (messages : Nat) (now : Instant) :
    Sound (max messages 1 : Nat) (TokenBucket.perMinute messages now) where
  capacity := rfl
  perSecond := rfl
  nonneg := Nat.cast_nonneg _
  le := le_refl _

/-- A refill brings in no more than the time by which it advances, and fills the
bucket up at most. -/
theorem refill (h : Sound c b) (hc : 0 ≤ c) (now : Instant) : Sound c (b.refill now) ∧
    (b.refill now).tokens ≤ b.tokens + c / 60 * ((b.refill now).lastRefill - b.lastRefill).inSeconds := by
  rcases le_or_gt (now - b.lastRefill).millis 0 with hnone | helapsed
  · rw [refill_of_not_elapsed hnone]
    refine ⟨h, ?_⟩
    simp [Span.inSeconds]
  · rw [refill_of_elapsed helapsed, h.perSecond, h.capacity]
    have hin := millis_le_inSeconds helapsed
    have hbrought : 0 ≤ ((now - b.lastRefill).millis.toNat / 1000 : ℚ) * (c / 60) := by positivity
    refine ⟨⟨rfl, rfl, ?_, min_le_right _ _⟩, ?_⟩
    · exact le_min (add_nonneg h.nonneg hbrought) hc
    · calc min (b.tokens + (now - b.lastRefill).millis.toNat / 1000 * (c / 60)) c
          ≤ b.tokens + (now - b.lastRefill).millis.toNat / 1000 * (c / 60) := min_le_left _ _
        _ ≤ b.tokens + (now - b.lastRefill).inSeconds * (c / 60) := by gcongr
        _ = b.tokens + c / 60 * (now - b.lastRefill).inSeconds := by rw [mul_comm (c / 60)]

/-- What a call takes out, the time by which it advances has brought in, or it
was there before. -/
theorem make (h : Sound c b) (hc : 0 ≤ c) (call : Call) : Sound c (b.make call) ∧
    b.takes call + (b.make call).tokens ≤ b.tokens + c / 60 * ((b.make call).lastRefill - b.lastRefill).inSeconds := by
  obtain ⟨hrefill, hbrought⟩ := h.refill hc call.time
  refine ⟨?_, ?_⟩
  · rcases b.make_cases call with ⟨-, hmake⟩ | ⟨-, htoken, hmake⟩ <;> rw [hmake]
    · exact hrefill
    · exact ⟨hrefill.capacity, hrefill.perSecond, sub_nonneg.2 htoken, (sub_le_self _ zero_le_one).trans hrefill.le⟩
  · rw [tokens_make, lastRefill_make]
    exact hbrought

/-- And so does a block of calls. -/
theorem after (h : Sound c b) (hc : 0 ≤ c) (calls : List Call) : Sound c (b.after calls) ∧
    b.taken calls + (b.after calls).tokens ≤ b.tokens + c / 60 * (b.advance calls).inSeconds := by
  induction calls generalizing b with
  | nil =>
    refine ⟨h, ?_⟩
    simp [TokenBucket.after, taken, advance, Span.inSeconds]
  | cons call more ih =>
    obtain ⟨hmake, hcall⟩ := h.make hc call
    obtain ⟨hafter, hmore⟩ := ih hmake
    have hadvance : (b.advance (call :: more)).inSeconds =
        ((b.make call).lastRefill - b.lastRefill).inSeconds + ((b.make call).advance more).inSeconds := by
      simp only [advance, Span.inSeconds, Int.cast_add, add_div]
    have htaken : (b.taken (call :: more) : ℚ) = b.takes call + (b.make call).taken more := by
      simp only [taken, Nat.cast_add]
    have hend : b.after (call :: more) = (b.make call).after more := rfl
    refine ⟨hafter, ?_⟩
    rw [hadvance, htaken, hend, mul_add]
    linarith

end Sound

/-! ## Outside leap seconds -/

section Plain

variable {b : TokenBucket ℚ} {call : Call} {calls : List Call}

theorem refill_of_le {now : Instant} (h : now ≤ b.lastRefill) (hnow : now.inLeapSecond = false)
    (hb : b.lastRefill.inLeapSecond = false) : b.refill now = b := by
  apply refill_of_not_elapsed
  rw [Instant.le_iff_count hnow hb] at h
  have hnanos := Instant.nanos_sub_eq hnow hb
  have hmillis := Int.tdiv_nonneg (show 0 ≤ -(now - b.lastRefill).nanos by omega) (show (0 : ℤ) ≤ 1000000 by decide)
  rw [Int.neg_tdiv] at hmillis
  rw [Span.millis]
  omega

theorem lastRefill_make_or (b : TokenBucket ℚ) (call : Call) :
    (b.make call).lastRefill = b.lastRefill ∨ (b.make call).lastRefill = call.time := by
  rw [lastRefill_make]
  rcases le_or_gt (call.time - b.lastRefill).millis 0 with hnone | helapsed
  · rw [refill_of_not_elapsed hnone]
    exact .inl rfl
  · rw [refill_of_elapsed helapsed]
    exact .inr rfl

theorem inLeapSecond_make (hb : b.lastRefill.inLeapSecond = false) (hcall : call.time.inLeapSecond = false) :
    (b.make call).lastRefill.inLeapSecond = false := by
  rcases b.lastRefill_make_or call with h | h <;> rw [h]
  · exact hb
  · exact hcall

theorem inLeapSecond_after (hb : b.lastRefill.inLeapSecond = false)
    (hcalls : ∀ call ∈ calls, call.time.inLeapSecond = false) : (b.after calls).lastRefill.inLeapSecond = false := by
  induction calls generalizing b with
  | nil => exact hb
  | cons call more ih =>
    obtain ⟨hcall, hmore⟩ := List.forall_mem_cons.1 hcalls
    exact ih (inLeapSecond_make hb hcall) hmore

/-- The advances of a block add up to one from its beginning to its end. -/
theorem nanos_advance (hb : b.lastRefill.inLeapSecond = false)
    (hcalls : ∀ call ∈ calls, call.time.inLeapSecond = false) :
    (b.advance calls).nanos = ((b.after calls).lastRefill - b.lastRefill).nanos := by
  rw [Instant.nanos_sub_eq (inLeapSecond_after hb hcalls) hb]
  induction calls generalizing b with
  | nil => exact (Int.sub_self _).symm
  | cons call more ih =>
    obtain ⟨hcall, hmore⟩ := List.forall_mem_cons.1 hcalls
    have hmake := inLeapSecond_make hb hcall
    have hend : b.after (call :: more) = (b.make call).after more := rfl
    have hsum : (b.advance (call :: more)).nanos =
        ((b.make call).lastRefill - b.lastRefill).nanos + ((b.make call).advance more).nanos := rfl
    rw [hsum, ih hmake hmore, Instant.nanos_sub_eq hmake hb, hend]
    omega

end Plain

/-- There is never less than nothing in a bucket and never more than its
capacity, and a block of calls takes no more tokens than the capacity and what
comes in, at the capacity a minute, in the time by which the last refill
advances from refill to refill, whatever the times of the calls. If none of them
is in a leap second, that is the time from the last refill before the block to
the last one in it, and a call at or before the last refill brings nothing in. -/
theorem tokens_taken_bounded (messages : Nat) (start : Instant) (before block : List Call) :
    let c : ℚ := (max messages 1 : Nat)
    let b : TokenBucket ℚ := (perMinute messages start).after before
    (0 ≤ b.tokens ∧ b.tokens ≤ c) ∧
    b.taken block ≤ c + c / 60 * (b.advance block).inSeconds ∧
    ((∀ t ∈ start :: (before ++ block).map Call.time, t.inLeapSecond = false) →
      b.taken block ≤ c + c / 60 * ((b.after block).lastRefill - b.lastRefill).inSeconds ∧
      ∀ call, call.time.inLeapSecond = false → call.time ≤ b.lastRefill →
        b.takes call + (b.make call).tokens = b.tokens) := by
  intro c b
  have hc : 0 ≤ c := Nat.cast_nonneg _
  have hb : Sound c b := ((Sound.perMinute messages start).after hc before).1
  obtain ⟨hend, hpaid⟩ := hb.after hc block
  have hbound : b.taken block ≤ c + c / 60 * (b.advance block).inSeconds := by
    have hle := hb.le
    have hnonneg := hend.nonneg
    linarith
  refine ⟨⟨hb.nonneg, hb.le⟩, hbound, ?_⟩
  intro hleap
  obtain ⟨hstart, hcalls⟩ := List.forall_mem_cons.1 hleap
  have hplain : ∀ call ∈ before ++ block, call.time.inLeapSecond = false :=
    fun call hcall => hcalls _ (List.mem_map_of_mem hcall)
  have hlast : b.lastRefill.inLeapSecond = false :=
    inLeapSecond_after hstart fun call hcall => hplain call (List.mem_append_left _ hcall)
  have hadvance : (b.advance block).inSeconds = ((b.after block).lastRefill - b.lastRefill).inSeconds := by
    rw [Span.inSeconds, Span.inSeconds,
      nanos_advance hlast fun call hcall => hplain call (List.mem_append_right _ hcall)]
  refine ⟨hadvance ▸ hbound, ?_⟩
  intro call hcall hle
  rw [tokens_make, refill_of_le hle hcall hlast]

/-- The instant so many seconds from the epoch. -/
def second (n : Int) : Instant :=
  .ofNanos (n * 1000000000)

/-- Five tokens are asked for at once. -/
def fiveAtOnce : List Call :=
  List.replicate 5 (.acquire (second 0))

/-- The clock runs on, back and on again. -/
def backAndForth : List Call :=
  [.acquire (second 13), .acquire (second 3), .available (second 14)]

/-- A bucket of five tokens is emptied at once, and fourteen seconds bring in a
little more than one. A call of before the start brings in nothing. -/
theorem emptied_bucket_bounded :
    let b : TokenBucket ℚ := (perMinute 5 (second 0)).after fiveAtOnce
    let back := Call.acquire (second (-10))
    (∀ t ∈ second 0 :: (fiveAtOnce ++ backAndForth).map Call.time, t.inLeapSecond = false) ∧
      back.time.inLeapSecond = false ∧ back.time ≤ b.lastRefill ∧
      ((b.after backAndForth).lastRefill - b.lastRefill).nanos = 14000000000 ∧
      b.taken backAndForth ≤ 5 + 5 / 60 * ((b.after backAndForth).lastRefill - b.lastRefill).inSeconds ∧
      b.takes back + (b.make back).tokens = b.tokens := by
  have hleap : ∀ t ∈ second 0 :: (fiveAtOnce ++ backAndForth).map Call.time, t.inLeapSecond = false := by decide
  have hback : (Call.acquire (second (-10))).time.inLeapSecond = false := by decide
  have hle : (Call.acquire (second (-10))).time ≤
      ((perMinute 5 (second 0)).after fiveAtOnce : TokenBucket ℚ).lastRefill := by decide +kernel
  obtain ⟨hblock, hcalls⟩ := (tokens_taken_bounded 5 (second 0) fiveAtOnce backAndForth).2.2 hleap
  refine ⟨hleap, hback, hle, ?_, hblock, ?_⟩
  · decide +kernel
  · apply hcalls
    · exact hback
    · exact hle

/-- At midnight a bucket of 120 tokens has one token less. Asked for a time in the
leap second before, it is full again. -/
theorem tokens_from_leap_second :
    ¬ ∀ (messages : Nat) (start : Instant) (before block : List Call),
      let c : ℚ := (max messages 1 : Nat)
      let b : TokenBucket ℚ := (perMinute messages start).after before
      (0 ≤ b.tokens ∧ b.tokens ≤ c) ∧
      b.taken block ≤ c + c / 60 * ((b.after block).lastRefill - b.lastRefill).inSeconds ∧
      ∀ call, call.time ≤ b.lastRefill → (b.make call).tokens ≤ b.tokens := by
  intro h
  have hback := (h 120 .afterLastLeapSecond [.acquire .afterLastLeapSecond] []).2.2
    (.available (.inLastLeapSecond 900)) (by decide +kernel)
  revert hback
  decide +kernel

end TokenBucket

end ValidatorWatch
