import ValidatorWatch.Monitor.Reports
import ValidatorWatch.Proofs.Settings.Validation
import ValidatorWatch.Proofs.Time.Order
import ValidatorWatch.Source.Prober
/-!
# Times that fit

Validation bounds the check interval, and so the cooldown that follows from it,
but no other number of seconds and not the days that the history is kept. Such a
number gives the span it names up to `Span.maxSeconds` and no further: beyond
that the span is out of range, and from half of 64 bits on it is another one,
often negative. The cutoff of the history is a date for every present up to
`Settings.maxRetentionDays`. `times_exact_iff` says both of all settings that
pass, `negativeCooldown_passes` has the least happy ones.
-/

namespace ValidatorWatch

open Time (Date Instant Span)

namespace Time.Span

/-- The most whole seconds that a signed number of milliseconds of 64 bits has. -/
def maxSeconds : Nat := 9223372036854775

/-- Spans of a signed number of milliseconds of 64 bits, the least one aside. -/
def InRange (s : Span) : Prop :=
  s.nanos.natAbs ≤ (2 ^ 63 - 1) * 1000000

/-- A span is just so many seconds, and one that can be. -/
structure IsSeconds (s : Span) (seconds : Nat) : Prop where
  eq : s = ofSeconds seconds
  nonneg : ofSeconds 0 ≤ s
  inRange : s.InRange

theorem inRange_ofSeconds_iff (n : Nat) : (ofSeconds n).InRange ↔ n ≤ maxSeconds := by
  have hnanos : (ofSeconds n).nanos.natAbs = n * 1000000000 := by
    rw [ofSeconds]
    dsimp only
    omega
  have hlimit : (2 ^ 63 - 1) * 1000000 = 9223372036854775807000000 := by norm_num
  rw [InRange, hnanos, hlimit, maxSeconds]
  omega

end Time.Span

namespace Settings

/-- A count keeps its value with a sign if it has at most 63 bits. -/
theorem signedSeconds_eq_iff (n : Nat) : signedSeconds n = n ↔ n < 2 ^ 63 := by
  unfold signedSeconds
  rw [Nat.pow_eq, Int.bmod_def]
  push_cast
  split <;> omega

/-- A count is the span that it names if that is in range. -/
theorem isSeconds_signedSeconds_iff (n : Nat) :
    (Span.ofSeconds (signedSeconds n)).IsSeconds n ↔ n ≤ Span.maxSeconds := by
  constructor
  · intro h
    have hrange := h.inRange
    rwa [h.eq, Span.inRange_ofSeconds_iff] at hrange
  · intro h
    have heq : signedSeconds n = n := by
      rw [Span.maxSeconds] at h
      rw [signedSeconds_eq_iff]
      omega
    refine ⟨by rw [heq], ?_, ?_⟩
    · rw [heq, Span.le_def, Span.ofSeconds, Span.ofSeconds]
      dsimp only
      omega
    · rwa [heq, Span.inRange_ofSeconds_iff]

end Settings

/-! ## Dates before now -/

namespace Time.Date

/-- A year is over when the next one has begun. -/
theorem year_ofDay_lt_iff {day year : Int} : (ofDay day).year < year ↔ day < toDay ⟨year, 1, 1⟩ := by
  have hfirst : Date.Valid ⟨year, 1, 1⟩ := by
    simp [Valid, daysInMonth]
  have hday : (ofDay day).Valid := valid_ofDay day
  have hmonth := hday.1
  have hdayOfMonth := hday.2.2.1
  have horder : ofDay day < ⟨year, 1, 1⟩ ↔ (ofDay day).year < year := by
    rw [lt_def]
    dsimp only
    omega
  rw [← horder, ← toDay_lt_toDay_iff hday hfirst, toDay_ofDay]

end Time.Date

namespace Time.Instant

/-- Days are taken off as so many seconds. A leap second may count as the one
after it. -/
theorem second_sub_ofDays (t : Instant) (days : Nat) :
    t.second - 86400 * days ≤ (t - Span.ofDays days).second ∧
      (t - Span.ofDays days).second ≤ t.second - 86400 * days + 1 := by
  have hnanos := t.nanos_lt
  have hlength : (Span.ofDays days).nanos = 86400000000000 * days := by
    simp only [Span.ofDays, Span.ofSeconds]
    omega
  have hsub : t - Span.ofDays days =
      if t.inLeapSecond && decide (Span.ofDays days < .ofSeconds 1) then
        (ofSecond? t.second (t.nanos - (Span.ofDays days).nanos).toNat).getD
          (ofNanos (t.second * 1000000000 + t.nanos - 1000000000 - (Span.ofDays days).nanos))
      else ofNanos (t.second * 1000000000 + t.nanos - (Span.ofDays days).nanos) := rfl
  rw [hsub, hlength]
  split
  next hleap =>
    -- Only no days at all are less than a second.
    obtain rfl : days = 0 := by
      simp only [Bool.and_eq_true, decide_eq_true_eq, Span.lt_def, hlength, Span.ofSeconds] at hleap
      omega
    have hsame : ofSecond? t.second ((t.nanos : Int) - 86400000000000 * (0 : Nat)).toNat = some t := by
      simpa [ofSecond?, t.nanos_lt] using t.leap_at
    rw [hsame, Option.getD_some]
    omega
  next =>
    rw [ofNanos]
    dsimp only
    omega

end Time.Instant

namespace Settings

/-- The most days before the start of 1970 that have a date. -/
def maxRetentionDays : Nat := 96465292

/-- So many days before now are a date for every present from 1970 to 9999 if they
are for the first one. -/
theorem inYears_sub_ofDays_iff (days : Nat) :
    (∀ now : Instant, 1970 ≤ now.date.year → now.date.year ≤ 9999 →
      Instant.InYears (now - Span.ofDays days).date.year) ↔ days ≤ maxRetentionDays := by
  have hfirst : Date.toDay ⟨-262143, 1, 1⟩ = -96465292 := by decide
  have hlast : Date.toDay ⟨262143, 1, 1⟩ = 95026237 := by decide
  have hepoch : Date.toDay ⟨1970, 1, 1⟩ = 0 := by decide
  have hfive : Date.toDay ⟨10000, 1, 1⟩ = 2932897 := by decide
  have hinYears (t : Instant) : Instant.InYears t.date.year ↔
      -96465292 ≤ t.second / 86400 ∧ t.second / 86400 < 95026237 := by
    have hlow : t.date.year < -262143 ↔ _ := Date.year_ofDay_lt_iff
    have hhigh : t.date.year < 262143 ↔ _ := Date.year_ofDay_lt_iff
    rw [hfirst] at hlow
    rw [hlast] at hhigh
    rw [Instant.InYears]
    omega
  simp only [hinYears, maxRetentionDays]
  constructor
  · intro h
    have hstart := h (.ofNanos 0) (by decide) (by decide)
    have hback := (Instant.ofNanos 0).second_sub_ofDays days
    have hzero : (Instant.ofNanos 0).second = 0 := by decide
    omega
  · intro h now hnow hnow'
    have hback := now.second_sub_ofDays days
    have hlow : now.date.year < 1970 ↔ _ := Date.year_ofDay_lt_iff
    have hhigh : now.date.year < 10000 ↔ _ := Date.year_ofDay_lt_iff
    rw [hepoch] at hlow
    rw [hfive] at hhigh
    omega

/-! ## What validation leaves open -/

variable {s : Settings}

/-- Of settings that pass, the cooldown that is not given is five check intervals.
Every number of seconds that is given, for a cooldown or for the lifetime of what
a service told, is the span it names exactly if it is at most
`Span.maxSeconds`. What the history is cut off at has a date for every present
from 1970 to 9999 exactly if the days are at most `maxRetentionDays`. -/
theorem times_exact_iff (h : s.validate = .ok ()) :
    (s.alertCooldownSeconds = none → s.cooldown.IsSeconds (5 * s.checkIntervalSeconds)) ∧
      (∀ n, s.alertCooldownSeconds = some n → (s.cooldown.IsSeconds n ↔ n ≤ Span.maxSeconds)) ∧
      (s.emergencyCooldown.IsSeconds s.emergencyCooldownSeconds ↔ s.emergencyCooldownSeconds ≤ Span.maxSeconds) ∧
      (∀ g, Prober.huginnOf s = some g →
        (g.lifetime.IsSeconds s.huginn.lifetimeSeconds ↔ s.huginn.lifetimeSeconds ≤ Span.maxSeconds)) ∧
      (∀ g, Prober.gmonadsOf s = some g →
        (g.lifetime.IsSeconds s.gmonads.lifetimeSeconds ↔ s.gmonads.lifetimeSeconds ≤ Span.maxSeconds)) ∧
      ∀ m : Monitor, m.settings = s →
        ((∀ now : Instant, 1970 ≤ now.date.year → now.date.year ≤ 9999 →
          Instant.InYears (m.historyCutoff now).date.year) ↔ s.retentionDays ≤ maxRetentionDays) := by
  have hinterval := checkInterval_le h
  refine ⟨fun hnone => ?_, fun n hn => ?_, isSeconds_signedSeconds_iff _, fun g hg => ?_, fun g hg => ?_, ?_⟩
  · have hshort : 5 * s.checkIntervalSeconds ≤ Span.maxSeconds := by
      rw [maxCheckInterval] at hinterval
      rw [Span.maxSeconds]
      omega
    have hspan := (isSeconds_signedSeconds_iff _).2 hshort
    rwa [cooldown, hnone, Option.getD_none, cooldownIntervals, Nat.mul_comm]
  · rw [cooldown, hn, Option.getD_some]
    exact isSeconds_signedSeconds_iff n
  · rw [Prober.huginnOf] at hg
    split at hg <;> cases hg
    exact isSeconds_signedSeconds_iff _
  · rw [Prober.gmonadsOf] at hg
    split at hg <;> cases hg
    exact isSeconds_signedSeconds_iff _
  · rintro m rfl
    exact inYears_sub_ofDays_iff _

/-- One validator and no channel, the rest as it is by default. -/
def oneValidator : Settings where
  telegram := { enabled := false }
  validators := .ofList [("north",
    { host := "10.0.0.11", publicKey := "02a1b2c3d4e5f60718293a4b5c6d7e8f90a1b2c3d4e5f60718293a4b5c6d7e8f90" })]

theorem oneValidator_times_exact :
    oneValidator.validate = .ok () ∧ oneValidator.cooldown.IsSeconds 300 ∧
      oneValidator.emergencyCooldown.IsSeconds 1800 ∧
      (∃ g, Prober.huginnOf oneValidator = some g ∧ g.lifetime.IsSeconds 3600) ∧
      (∃ g, Prober.gmonadsOf oneValidator = some g ∧ g.lifetime.IsSeconds 120) ∧
      ∀ m : Monitor, m.settings = oneValidator → ∀ now : Instant, 1970 ≤ now.date.year → now.date.year ≤ 9999 →
        Instant.InYears (m.historyCutoff now).date.year := by
  have hok : oneValidator.validate = .ok () := eq_ok_of_isOk (by decide +kernel)
  obtain ⟨hcooldown, -, hemergency, hhuginn, hgmonads, hcutoff⟩ := times_exact_iff hok
  refine ⟨hok, hcooldown rfl, hemergency.2 (by decide), ⟨_, rfl, ?_⟩, ⟨_, rfl, ?_⟩, fun m hm => ?_⟩
  · exact (hhuginn _ rfl).2 (by decide)
  · exact (hgmonads _ rfl).2 (by decide)
  · exact (hcutoff m hm).2 (by decide)

/-- Settings pass with a cooldown of all 64 bits, which makes it a span of one
second before. -/
theorem negativeCooldown_passes :
    let s := { oneValidator with alertCooldownSeconds := some (2 ^ 64 - 1) }
    s.validate = .ok () ∧ s.cooldown = .ofSeconds (-1) ∧ ¬ Span.ofSeconds 0 ≤ s.cooldown := by
  refine ⟨eq_ok_of_isOk (by decide +kernel), by decide +kernel, by decide +kernel⟩

end Settings

end ValidatorWatch
