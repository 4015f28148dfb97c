import ValidatorWatch.Proofs.Dispatch.Buckets
/-!
# Channels that do not count

A notifier may go by how many messages it was sent before. One that goes by
the message alone is indifferent, and then nothing that a channel remembers
matters to a dispatch in which no bucket keeps an event from its channel:
`Dispatcher.dispatch_plain` compares it with a dispatch on plain channels, which
have no buckets and have not sent anything. And a dispatch leaves nothing but
such memories behind (`Dispatcher.plain_dispatch`).
-/

namespace ValidatorWatch

open Time (Instant)

/-! ## Channels -/

namespace Line

/-- The channel as if it had sent nothing. -/
def anew (l : Line) : Line :=
  { l with sent := 0 }

/-- The channel without what it remembers. -/
def plain (l : Line) : Line :=
  { l with bucket := none, sent := 0 }

/-- The notifier goes by the message alone. -/
def Indifferent (l : Line) : Prop :=
  ∀ i n, l.notifier i n = l.notifier 0 n

theorem anew_takeToken {l : Line} {now : Instant} :
    l.anew.takeToken now = ((l.takeToken now).1, (l.takeToken now).2.anew) := by
  obtain ⟨notifier, bucket, sent⟩ := l
  cases bucket <;> rfl

theorem plain_takeToken {l : Line} {now : Instant} : (l.takeToken now).2.plain = l.plain := by
  obtain ⟨notifier, bucket, sent⟩ := l
  cases bucket <;> rfl

end Line

/-- The channels as if they had sent nothing. -/
def anewLines (lines : ByChannel (Option Line)) : ByChannel (Option Line) :=
  .ofFn fun k => (lines.get k).map Line.anew

/-- The channels without what they remember. -/
def plainLines (lines : ByChannel (Option Line)) : ByChannel (Option Line) :=
  .ofFn fun k => (lines.get k).map Line.plain

variable {lines : ByChannel (Option Line)} {line : Line} {k : Channel}

@[simp] theorem get_anewLines : (anewLines lines).get k = (lines.get k).map Line.anew :=
  ByChannel.get_ofFn _ k

@[simp] theorem get_plainLines : (plainLines lines).get k = (lines.get k).map Line.plain :=
  ByChannel.get_ofFn _ k

theorem anewLines_anewLines : anewLines (anewLines lines) = anewLines lines := by
  ext1 j
  rw [get_anewLines, get_anewLines, Option.map_map]
  rfl

theorem anewLines_set : anewLines (lines.set k (some line)) = (anewLines lines).set k (some line.anew) := by
  ext1 j
  simp only [get_anewLines, ByChannel.get_set]
  split <;> rfl

/-- A channel that has only other memories is the same plain channel. -/
theorem plainLines_set {line' : Line} (h : lines.get k = some line) (hp : line'.plain = line.plain) :
    plainLines (lines.set k (some line')) = plainLines lines := by
  ext1 j
  rw [get_plainLines, get_plainLines, ByChannel.get_set]
  split
  next hj => rw [hj, h, Option.map_some, Option.map_some, hp]
  next => rfl

theorem anewLines_unlimitedLines : anewLines (unlimitedLines lines) = plainLines lines := by
  ext1 j
  rw [get_anewLines, get_unlimitedLines, get_plainLines, Option.map_map]
  rfl

theorem plainLines_anewLines : plainLines (anewLines lines) = plainLines lines := by
  ext1 j
  rw [get_plainLines, get_anewLines, get_plainLines, Option.map_map]
  rfl

theorem plainLines_unlimitedLines : plainLines (unlimitedLines lines) = plainLines lines := by
  ext1 j
  rw [get_plainLines, get_unlimitedLines, get_plainLines, Option.map_map]
  rfl

/-- All channels go by the message alone. -/
def Indifferent (lines : ByChannel (Option Line)) : Prop :=
  ∀ k line, lines.get k = some line → line.Indifferent

theorem Indifferent.of_plain {lines' : ByChannel (Option Line)} (h : Indifferent lines)
    (hp : plainLines lines' = plainLines lines) : Indifferent lines' := by
  intro k line' hl'
  have hk : (plainLines lines').get k = (plainLines lines).get k := by rw [hp]
  rw [get_plainLines, get_plainLines, hl', Option.map_some] at hk
  obtain ⟨line, hl, hsame⟩ := Option.map_eq_some_iff.1 hk.symm
  have hnotifier : line.plain.notifier = line'.plain.notifier := congrArg Line.notifier hsame
  intro i n
  show line'.plain.notifier i n = line'.plain.notifier 0 n
  rw [← hnotifier]
  exact h k line hl i n

/-! ## What a step leaves of the channels -/

namespace Round

variable {d : Dispatcher} {now : Instant} {recovered : Bool} {r : Round} {p : PendingAlert} {e : AlertEvent}

theorem plain_allows : (allows d now r k line e).2.plain = line.plain := by
  by_cases hk : k = .emergency
  · subst hk
    rfl
  · rw [allows_broadcast line hk]
    split
    · rfl
    split
    · rfl
    · exact Line.plain_takeToken

theorem plain_send {line' : Line} {n : Notification} (h : r.lines.get k = some line)
    (hp : line'.plain = line.plain) : plainLines (r.send k line' n).2.lines = plainLines r.lines :=
  plainLines_set h hp

theorem plain_retry : plainLines (r.retry now recovered p).lines = plainLines r.lines := by
  rcases retry_of now recovered r p with
    ⟨-, -, -, hr⟩ | ⟨line, hl, ⟨u, -, -, hr⟩ | ⟨why, -, -, hr⟩⟩ <;> rw [hr]
  · exact plain_send (n := .ofEvent p.event) hl rfl
  · exact plain_send (n := .ofEvent p.event) hl rfl

theorem plain_offer : plainLines (r.offer d now e k).lines = plainLines r.lines := by
  unfold offer
  cases hl : r.lines.get k with
  | none => rfl
  | some line =>
    dsimp only
    split
    · rfl
    have hp : (allows d now r k line e).2.plain = line.plain := plain_allows
    rcases ha : allows d now r k line e with ⟨_ | _, line'⟩ <;> rw [ha] at hp
    · exact plainLines_set hl hp
    · have hs := plain_send (n := .ofEvent e) hl hp
      dsimp only
      rcases hr : r.send k line' (.ofEvent e) with ⟨_ | _, s⟩ <;> rw [hr] at hs <;> exact hs

theorem plain_handle : plainLines (r.handle d now e).lines = plainLines r.lines := by
  have hafter (r : Round) : (r.afterEvent e).lines = r.lines := by
    unfold afterEvent
    split <;> rfl
  rw [handle, hafter]
  exact plain_offer.trans (plain_offer.trans plain_offer)

theorem plain_retryPending : plainLines (r.retryPending now recovered).lines = plainLines r.lines := by
  unfold retryPending
  refine List.foldlRecOn _ _ (motive := fun s : Round => plainLines s.lines = plainLines r.lines) rfl ?_
  intro s hs p _
  exact plain_retry.trans hs

theorem plain_foldl_handle (events : List AlertEvent) :
    plainLines (events.foldl (handle d now) r).lines = plainLines r.lines := by
  refine List.foldlRecOn events _ (motive := fun s : Round => plainLines s.lines = plainLines r.lines) rfl ?_
  intro s hs e _
  exact plain_handle.trans hs

end Round

/-! ## Steps on channels as if they had sent nothing -/

namespace Round

/-- The round with channels as if they had sent nothing. -/
def anew (r : Round) : Round :=
  { r with lines := anewLines r.lines }

variable {d : Dispatcher} {now : Instant} {recovered : Bool} {r : Round} {p : PendingAlert} {e : AlertEvent}

theorem anew_anew : r.anew.anew = r.anew :=
  congrArg (fun lines => ({ r with lines := lines } : Round)) anewLines_anewLines

/-- An indifferent notifier says the same. -/
theorem anew_send {n : Notification} (h : line.Indifferent) :
    ∃ s, r.anew.send k line.anew n = ((r.send k line n).1, s) ∧ s.anew = (r.send k line n).2.anew := by
  have hanswer : line.notifier 0 n = line.notifier line.sent n := (h line.sent n).symm
  refine ⟨_, Prod.ext hanswer rfl, ?_⟩
  simp only [send, anew, Line.anew, hanswer, anewLines_set, Round.mk.injEq, and_true]
  ext1 j
  simp only [ByChannel.get_set, get_anewLines, Option.map_map]
  split <;> rfl

theorem anew_retry (h : Indifferent r.lines) :
    (r.anew.retry now recovered p).anew = (r.retry now recovered p).anew := by
  unfold retry
  split
  · exact anew_anew
  have hline : r.anew.lines.get p.channel = (r.lines.get p.channel).map Line.anew := get_anewLines
  rw [hline]
  cases hl : r.lines.get p.channel with
  | none => exact anew_anew
  | some line =>
    obtain ⟨s, hs, hanew⟩ := anew_send (r := r) (k := p.channel) (n := .ofEvent p.event) (h _ line hl)
    simp only [Option.map_some, hs]
    generalize r.send p.channel line (.ofEvent p.event) = sent at hanew
    rcases sent with ⟨why | u, s'⟩
    · exact congrArg (fun s : Round => { s with ledger := { s.ledger with
        pending := s.ledger.pending ++ [{ p with attempts := p.attempts + 1 }] } }) hanew
    · exact congrArg (fun s : Round => { s.noteDelivered p.channel p.event with report :=
        { (s.noteDelivered p.channel p.event).report with
          retried := (s.noteDelivered p.channel p.event).report.retried ++ [(p.channel, p.event.category)] } })
        hanew

theorem anew_allows : allows d now r.anew k line.anew e =
    ((allows d now r k line e).1, (allows d now r k line e).2.anew) := by
  by_cases hk : k = .emergency
  · subst hk
    rfl
  · have hcools : cools d e r.anew k = cools d e r k := by cases k <;> rfl
    rw [allows_broadcast _ hk, allows_broadcast _ hk, hcools]
    split
    · rfl
    split
    · rfl
    · exact Line.anew_takeToken

theorem anew_offer (h : Indifferent r.lines) :
    (r.anew.offer d now e k).anew = (r.offer d now e k).anew := by
  unfold offer
  have hline : r.anew.lines.get k = (r.lines.get k).map Line.anew := get_anewLines
  rw [hline]
  cases hl : r.lines.get k with
  | none => exact anew_anew
  | some line =>
    -- A bucket does not ask how much was sent, so both channels decide alike.
    simp only [Option.map_some, anew_allows]
    split
    · exact anew_anew
    have hp : (allows d now r k line e).2.plain = line.plain := plain_allows
    rcases ha : allows d now r k line e with ⟨_ | _, line'⟩ <;> rw [ha] at hp
    · show ({ r with lines := anewLines ((anewLines r.lines).set k (some line'.anew)) } : Round).noteSuppressed k e =
        ({ r with lines := anewLines (r.lines.set k (some line')) } : Round).noteSuppressed k e
      rw [← anewLines_set, anewLines_anewLines]
    · have hind : line'.Indifferent := by
        have hset : (r.lines.set k (some line')).get k = some line' := by rw [ByChannel.get_set, if_pos rfl]
        exact h.of_plain (plainLines_set hl hp) k line' hset
      obtain ⟨s, hs, hanew⟩ := anew_send (r := r) (k := k) (n := .ofEvent e) hind
      simp only [hs]
      generalize r.send k line' (.ofEvent e) = sent at hanew
      rcases sent with ⟨why | u, s'⟩
      · exact congrArg (noteFailed · k e now) hanew
      · exact congrArg (noteDelivered · k e) hanew

theorem anew_afterEvent : (r.afterEvent e).anew = r.anew.afterEvent e := by
  unfold afterEvent
  split <;> rfl

/-! ## Whole dispatches -/

/-- Two rounds on indifferent channels that differ in nothing but how much was
sent. -/
structure Alike (r s : Round) : Prop where
  anew : r.anew = s.anew
  left : Indifferent r.lines
  right : Indifferent s.lines

variable {s : Round}

theorem Alike.retry (h : Alike r s) : Alike (r.retry now recovered p) (s.retry now recovered p) where
  anew := by rw [← anew_retry h.left, ← anew_retry h.right, h.anew]
  left := h.left.of_plain plain_retry
  right := h.right.of_plain plain_retry

theorem Alike.offer (h : Alike r s) (d : Dispatcher) (now : Instant) (e : AlertEvent) (k : Channel) :
    Alike (r.offer d now e k) (s.offer d now e k) where
  anew := by rw [← anew_offer h.left, ← anew_offer h.right, h.anew]
  left := h.left.of_plain plain_offer
  right := h.right.of_plain plain_offer

theorem Alike.handle (h : Alike r s) : Alike (r.handle d now e) (s.handle d now e) where
  anew := by
    have hoffers := ((h.offer d now e .primary).offer d now e .secondary).offer d now e .emergency
    rw [Round.handle, Round.handle, anew_afterEvent, anew_afterEvent]
    exact congrArg (afterEvent e) hoffers.anew
  left := h.left.of_plain plain_handle
  right := h.right.of_plain plain_handle

theorem Alike.foldl_retry (h : Alike r s) (now : Instant) (recovered : Bool) (queue : List PendingAlert) :
    Alike (queue.foldl (Round.retry now recovered) r) (queue.foldl (Round.retry now recovered) s) := by
  induction queue generalizing r s with
  | nil => exact h
  | cons p rest ih => exact ih h.retry

theorem Alike.foldl_handle (h : Alike r s) (d : Dispatcher) (now : Instant) (events : List AlertEvent) :
    Alike (events.foldl (Round.handle d now) r) (events.foldl (Round.handle d now) s) := by
  induction events generalizing r s with
  | nil => exact h
  | cons e rest ih => exact ih h.handle

end Round

namespace Dispatcher

/-- The dispatcher with channels as if they had sent nothing. -/
def anew (d : Dispatcher) : Dispatcher :=
  { d with lines := anewLines d.lines }

/-- The dispatcher without what its channels remember. -/
def plain (d : Dispatcher) : Dispatcher :=
  { d with lines := plainLines d.lines }

/-- All its notifiers go by the message alone. -/
def Indifferent (d : Dispatcher) : Prop :=
  ValidatorWatch.Indifferent d.lines

variable {d : Dispatcher} {now : Instant} {events : List AlertEvent} {l : AlertLedger}

@[simp] theorem plain_plain : d.plain.plain = d.plain := by
  have hlines : plainLines (plainLines d.lines) = plainLines d.lines := by
    ext1 k
    rw [get_plainLines, get_plainLines, Option.map_map]
    rfl
  exact congrArg (fun lines => ({ d with lines := lines } : Dispatcher)) hlines

/-- A dispatch leaves nothing behind on the channels but what they remember. -/
theorem plain_dispatch : (d.dispatch now events l).dispatcher.plain = d.plain := by
  have hlines : plainLines (d.dispatch now events l).dispatcher.lines = plainLines d.lines :=
    (Round.plain_foldl_handle events).trans Round.plain_retryPending
  exact congrArg (fun lines => ({ d with lines := lines } : Dispatcher)) hlines

/-- How much was sent before is of no account. -/
theorem dispatch_anew (h : d.Indifferent) (now : Instant) (events : List AlertEvent) (l : AlertLedger) :
    (d.anew.dispatch now events l).ledger = (d.dispatch now events l).ledger ∧
      (d.anew.dispatch now events l).report = (d.dispatch now events l).report ∧
      (d.anew.dispatch now events l).attempts = (d.dispatch now events l).attempts := by
  have hfirst : Round.Alike { lines := d.anew.lines, ledger := { l with pending := [] } }
      { lines := d.lines, ledger := { l with pending := [] } } :=
    ⟨Round.anew_anew (r := { lines := d.lines, ledger := { l with pending := [] } }),
      h.of_plain plainLines_anewLines, h⟩
  have hend := (hfirst.foldl_retry now (events.any fun e => e.category = .recovery) l.pending).foldl_handle d now events
  have hledger := congrArg Round.ledger hend.anew
  have hreport := congrArg Round.report hend.anew
  have hattempts := congrArg Round.attempts hend.anew
  exact ⟨hledger, hreport, hattempts⟩

/-- A dispatch in which no bucket keeps an event from its channel is the same
on plain channels. -/
theorem dispatch_plain (h : d.Indifferent) (hx : ∀ x ∈ d.journal ⟨now, events⟩ l, x.starved = false) :
    (d.plain.dispatch now events l).ledger = (d.dispatch now events l).ledger ∧
      (d.plain.dispatch now events l).report = (d.dispatch now events l).report ∧
      (d.plain.dispatch now events l).attempts = (d.dispatch now events l).attempts := by
  have hplain : d.plain = d.unlimited.anew :=
    congrArg (fun lines => ({ d with lines := lines } : Dispatcher)) anewLines_unlimitedLines.symm
  have hind : d.unlimited.Indifferent := h.of_plain plainLines_unlimitedLines
  have hanew := dispatch_anew hind now events l
  have hunlimited := dispatch_unlimited hx
  simp only at hunlimited
  rw [hplain, hanew.1, hanew.2.1, hanew.2.2, hunlimited]
  exact ⟨rfl, rfl, rfl⟩

end Dispatcher

end ValidatorWatch
