import ValidatorWatch.Time.Instant
/-!
# Differences outside leap seconds

Outside leap seconds an instant is a number of nanoseconds, and the difference
of two instants is that of their numbers. Differences then add up along a
sequence of instants, and grow with the order of instants. In leap seconds they
do neither: midnight comes after the leap second before it, but counts as less.
-/

namespace ValidatorWatch.Time.Instant

variable {x y z : Instant}

/-- Nanoseconds from the start of 1970 to the instant, if it is in no leap
second. -/
def count (t : Instant) : Int :=
  t.second * 1000000000 + t.nanos

theorem nanos_sub_eq (hx : x.inLeapSecond = false) (hy : y.inLeapSecond = false) :
    (x - y).nanos = x.count - y.count := by
  have hleap : leapSeconds x y = 0 := by simp [leapSeconds, hx, hy]
  rw [nanos_sub, hleap, count, count]
  omega

theorem le_iff_count (hx : x.inLeapSecond = false) (hy : y.inLeapSecond = false) : x ≤ y ↔ x.count ≤ y.count := by
  have hxn := of_decide_eq_false hx
  have hyn := of_decide_eq_false hy
  rw [le_def, count, count]
  omega

/-- An earlier end leaves less time. -/
theorem sub_le_sub_of_le (h : x ≤ y) (hx : x.inLeapSecond = false) (hy : y.inLeapSecond = false)
    (hz : z.inLeapSecond = false) : x - z ≤ y - z := by
  rw [le_iff_count hx hy] at h
  rw [Span.le_def, nanos_sub_eq hx hz, nanos_sub_eq hy hz]
  omega

/-- A later start leaves less time. -/
theorem sub_le_sub (h : x ≤ z) (hx : x.inLeapSecond = false) (hy : y.inLeapSecond = false)
    (hz : z.inLeapSecond = false) : y - z ≤ y - x := by
  rw [le_iff_count hx hz] at h
  rw [Span.le_def, nanos_sub_eq hy hz, nanos_sub_eq hy hx]
  omega

/-- So many milliseconds into the leap second at the end of 2016. -/
def inLastLeapSecond (millis : Fin 1000) : Instant where
  second := 1483228799
  nanos := 1000000000 + millis * 1000000
  nanos_lt := by omega
  leap_at _ := rfl

/-- The midnight after that leap second. -/
def afterLastLeapSecond : Instant :=
  .ofNanos 1483228800000000000

example : inLastLeapSecond 900 < afterLastLeapSecond ∧
    (afterLastLeapSecond - inLastLeapSecond 900).millis = -900 := by decide

end ValidatorWatch.Time.Instant
