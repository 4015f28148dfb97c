import ValidatorWatch.Time.Calendar
/-!
# Instants and spans

An instant is a second of Coordinated Universal Time, counted from the start of 1970, and the
nanoseconds since that second began. A minute may have a leap second at its end. It has no number of
its own: its nanoseconds are counted on from the second before it, so they reach from one to two
thousand millions. Instants are in the order of their seconds and then of their nanoseconds.

A span is the difference of two instants. A leap second counts as time that passed only if the
instant within it has the earlier time of day. Time never flows in this library: whatever needs the
present is given it.
-/

namespace ValidatorWatch.Time

/-- A point in time. Only the last second of a minute may be followed by a leap second. -/
structure Instant where
  second : Int
  nanos : Nat
  nanos_lt : nanos < 2000000000
  leap_at : 1000000000 ≤ nanos → second % 60 = 59
  deriving DecidableEq

/-- A length of time, possibly negative. -/
structure Span where
  nanos : Int
  deriving DecidableEq, Inhabited

namespace Span

instance : LE Span := ⟨fun a b => a.nanos ≤ b.nanos⟩
instance : LT Span := ⟨fun a b => a.nanos < b.nanos⟩
instance (a b : Span) : Decidable (a ≤ b) := inferInstanceAs (Decidable (a.nanos ≤ b.nanos))
instance (a b : Span) : Decidable (a < b) := inferInstanceAs (Decidable (a.nanos < b.nanos))

theorem le_def {a b : Span} : a ≤ b ↔ a.nanos ≤ b.nanos := Iff.rfl
theorem lt_def {a b : Span} : a < b ↔ a.nanos < b.nanos := Iff.rfl

/-- A span of whole seconds. -/
def ofSeconds (n : Int) : Span := ⟨n * 1000000000⟩

/-- A span of whole milliseconds. -/
def ofMillis (n : Int) : Span := ⟨n * 1000000⟩

/-- A span of whole days. -/
def ofDays (n : Int) : Span := ofSeconds (n * 86400)

/-- Whole seconds, cut toward zero. -/
def seconds (s : Span) : Int := s.nanos.tdiv 1000000000

/-- Whole milliseconds, cut toward zero. -/
def millis (s : Span) : Int := s.nanos.tdiv 1000000

/-- The length in words, in its two greatest units. A negative span counts as none. -/
def describe (s : Span) : String :=
  let total := s.seconds.toNat
  let hours := total / 3600
  let minutes := total % 3600 / 60
  let rest := total % 60
  if 0 < hours then s!"{hours}h {minutes}m"
  else if 0 < minutes then s!"{minutes}m {rest}s"
  else s!"{rest}s"

end Span

namespace Instant

/-! ## Order -/

@[ext] theorem ext_parts {a b : Instant} (hs : a.second = b.second) (hn : a.nanos = b.nanos) :
    a = b := by
  cases a; cases b; simp_all

instance : LT Instant :=
  ⟨fun a b => a.second < b.second ∨ a.second = b.second ∧ a.nanos < b.nanos⟩
instance : LE Instant :=
  ⟨fun a b => a.second < b.second ∨ a.second = b.second ∧ a.nanos ≤ b.nanos⟩
instance (a b : Instant) : Decidable (a < b) :=
  inferInstanceAs (Decidable (_ ∨ _ ∧ _))
instance (a b : Instant) : Decidable (a ≤ b) :=
  inferInstanceAs (Decidable (_ ∨ _ ∧ _))

theorem lt_def {a b : Instant} :
    a < b ↔ a.second < b.second ∨ a.second = b.second ∧ a.nanos < b.nanos := Iff.rfl
theorem le_def {a b : Instant} :
    a ≤ b ↔ a.second < b.second ∨ a.second = b.second ∧ a.nanos ≤ b.nanos := Iff.rfl

/-! ## Making instants -/

/-- The instant so many nanoseconds after the start of 1970, in none of the leap seconds. -/
def ofNanos (n : Int) : Instant where
  second := n / 1000000000
  nanos := (n % 1000000000).toNat
  nanos_lt := by omega
  leap_at := by omega

instance : Inhabited Instant := ⟨ofNanos 0⟩

/-- The instant so many nanoseconds after a second began, if there is one. -/
def ofSecond? (second : Int) (nanos : Nat) : Option Instant :=
  if h : nanos < 2000000000 ∧ (1000000000 ≤ nanos → second % 60 = 59) then
    some ⟨second, nanos, h.1, h.2⟩
  else none

/-! ## Parts -/

/-- Whether the instant is in a leap second. -/
def inLeapSecond (t : Instant) : Bool :=
  1000000000 ≤ t.nanos

@[simp] theorem inLeapSecond_ofNanos (n : Int) : (ofNanos n).inLeapSecond = false := by
  have h : (ofNanos n).nanos < 1000000000 := by
    show (n % 1000000000).toNat < 1000000000
    omega
  exact decide_eq_false (by omega)

/-- The calendar day. -/
def date (t : Instant) : Date :=
  Date.ofDay (t.second / 86400)

/-- The second of the day. A leap second counts as the one before it. -/
def secondOfDay (t : Instant) : Nat :=
  (t.second % 86400).toNat

/-! ## Differences -/

/-- Seconds to add to a difference of two instants for a leap second: it has passed if the instant
within it has the earlier time of day. -/
def leapSeconds (a b : Instant) : Int :=
  if b.secondOfDay < a.secondOfDay && b.inLeapSecond then 1
  else if a.secondOfDay < b.secondOfDay && a.inLeapSecond then -1
  else 0

instance : HSub Instant Instant Span :=
  ⟨fun a b => ⟨(a.second - b.second + leapSeconds a b) * 1000000000 + (a.nanos - b.nanos)⟩⟩

theorem nanos_sub (a b : Instant) :
    (a - b).nanos =
      (a.second - b.second + leapSeconds a b) * 1000000000 + (a.nanos - b.nanos) := rfl

/-- Without leap seconds a difference is that of the nanoseconds since 1970. -/
@[simp] theorem nanos_sub_ofNanos (a b : Int) : (ofNanos a - ofNanos b).nanos = a - b := by
  have h : leapSeconds (ofNanos a) (ofNanos b) = 0 := by simp [leapSeconds]
  rw [nanos_sub, h]
  simp only [ofNanos]
  omega

@[simp] theorem nanos_sub_self (a : Instant) : (a - a).nanos = 0 := by
  simp [nanos_sub, leapSeconds]

/-- So long before. From within a leap second that is counted from the second after it, unless it
stays within. -/
instance : HSub Instant Span Instant :=
  ⟨fun t s =>
    if t.inLeapSecond && decide (s < .ofSeconds 1) then
      (ofSecond? t.second (t.nanos - s.nanos).toNat).getD
        (ofNanos (t.second * 1000000000 + t.nanos - 1000000000 - s.nanos))
    else ofNanos (t.second * 1000000000 + t.nanos - s.nanos)⟩

/-! ## Range -/

/-- The years in which instants are kept, the range of the calendar that documents may name. -/
def InYears (year : Int) : Prop :=
  -262143 ≤ year ∧ year ≤ 262142

instance (year : Int) : Decidable (InYears year) :=
  inferInstanceAs (Decidable (_ ∧ _))

end Instant

end ValidatorWatch.Time
