import ValidatorWatch.Decimal.Binary
import ValidatorWatch.Time.Instant
/-!
# Token buckets

A bucket limits how many messages go out in a minute. It starts full, a message takes a token, and a
minute fills it again. Time is counted in whole milliseconds, and a clock that stands still or runs
backward adds nothing.

The bucket is written over any kind of amount. The monitor counts in doubles; exact fractions are
another kind.
-/

namespace ValidatorWatch

open Time (Instant)

/-- Amounts of tokens. -/
class TokenAmount (R : Type) extends Add R, Sub R, Mul R, Div R where
  ofNat : Nat → R
  atMost : R → R → Bool
  wholePart : R → Nat

instance : TokenAmount Float where
  ofNat := Decimal.ofCount
  atMost x y := x ≤ y
  wholePart x := x.toUInt32.toNat

/-- A bucket with what is in it, how fast it fills, and when it was last filled up. -/
structure TokenBucket (R : Type) where
  capacity : R
  tokens : R
  perSecond : R
  lastRefill : Instant
  deriving DecidableEq

namespace TokenBucket

variable {R : Type} [TokenAmount R]

open TokenAmount (ofNat atMost wholePart)

/-- A full bucket for so many messages a minute, at least one. -/
def perMinute (messages : Nat) (now : Instant) : TokenBucket R :=
  let capacity : R := ofNat (max messages 1)
  ⟨capacity, capacity, capacity / ofNat 60, now⟩

/-- The smaller of two amounts. -/
def least (a b : R) : R :=
  if atMost a b then a else b

/-- Adds what has come in since the last time. -/
def refill (b : TokenBucket R) (now : Instant) : TokenBucket R :=
  let elapsed := (now - b.lastRefill).millis
  if elapsed ≤ 0 then b
  else
    { b with
      tokens := least (b.tokens + ofNat elapsed.toNat / ofNat 1000 * b.perSecond) b.capacity
      lastRefill := now }

/-- Takes a token if there is one. -/
def acquire (b : TokenBucket R) (now : Instant) : Bool × TokenBucket R :=
  let b := b.refill now
  if atMost (ofNat 1) b.tokens then (true, { b with tokens := b.tokens - ofNat 1 }) else (false, b)

/-- How many tokens can be taken. -/
def available (b : TokenBucket R) (now : Instant) : Nat × TokenBucket R :=
  let b := b.refill now
  (wholePart b.tokens, b)

end TokenBucket

end ValidatorWatch
