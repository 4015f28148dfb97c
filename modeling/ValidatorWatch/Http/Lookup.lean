import ValidatorWatch.Http.Exchange
/-!
# Lookups against a deadline

A lookup sends requests, waits between them and keeps what it learned. It may have a deadline: a
wait that does not end in time ends the lookup, and what was kept until then stays kept. Time passes
only in waits and while an answer is outstanding.
-/

namespace ValidatorWatch.Http

open Time (Span)

/-- A lookup under way: what is kept, the requests sent so far, and the time left, if it is
limited. -/
structure Visit (σ : Type) where
  kept : σ
  sent : List Request := []
  left : Option Span := none

/-- A lookup that yields a value, or nothing when its deadline passes. -/
def Lookup (σ α : Type) : Type :=
  Wire → Visit σ → Option α × Visit σ

namespace Lookup

variable {σ α β : Type}

/-- Yields a value at once. -/
def pure (a : α) : Lookup σ α :=
  fun _ v => (some a, v)

/-- One lookup after another; nothing follows a deadline that passed. -/
def bind (x : Lookup σ α) (f : α → Lookup σ β) : Lookup σ β :=
  fun wire v =>
    match x wire v with
    | (some a, v) => f a wire v
    | (none, v) => (none, v)

instance : Monad (Lookup σ) where
  pure := Lookup.pure
  bind := Lookup.bind

/-- What is kept. -/
def kept : Lookup σ σ :=
  fun _ v => (some v.kept, v)

/-- Changes what is kept. -/
def keep (f : σ → σ) : Lookup σ Unit :=
  fun _ v => (some (), { v with kept := f v.kept })

/-- Lets time pass. -/
def wait (d : Span) : Lookup σ Unit :=
  fun _ v =>
    match v.left with
    | none => (some (), v)
    | some left =>
      if d ≤ left then (some (), { v with left := some ⟨left.nanos - d.nanos⟩ })
      else (none, { v with left := some ⟨0⟩ })

/-- What came of a request under a limit of its own. -/
inductive Reply where
  | answered (status : Nat) (body : Body)
  | refused (reason : String)
  | timedOut

/-- Puts a request on the wire. -/
def put (r : Request) : Lookup σ Exchange :=
  fun wire v =>
    (some (wire r.endpoint (requestsTo r.endpoint v.sent)), { v with sent := v.sent ++ [r] })

/-- Sends a request and waits for the answer, at most as long as the limit. -/
def send (limit : Span) (r : Request) : Lookup σ Reply := do
  match ← put r with
  | .answered status body => return .answered status body
  | .refused reason => return .refused reason
  | .silent => do
    wait limit
    return .timedOut

/-- Runs a lookup with so much time. The time left is nobody's afterwards. -/
def within (deadline : Span) (x : Lookup σ α) : Lookup σ (Option α) :=
  fun wire v =>
    let (a, w) := x wire { v with left := some deadline }
    (some a, { w with left := v.left })

end Lookup

end ValidatorWatch.Http
