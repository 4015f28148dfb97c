import ValidatorWatch.Proofs.Dispatch.Accounts
import ValidatorWatch.Proofs.Time.Differences
/-!
# The hour of a failed event

A critical event that a channel refused waits in the queue, and every dispatch
tries it again as long as its place there is not older than an hour
(`retried_within_window`). The hour is that of the place: an event that took the
place of an older one of its category has what is left of the older one's hour
(`PendingAlert.Begun`), so it may be given up sooner than an hour after its own
failure (`older_failure_shortens_window`).

A step leaves a waiting event in the queue unless it is its retry or another
event takes its place (`Trail.Waits.perform`). The runs start from any ledger.
-/

namespace ValidatorWatch

open Time (Instant Span)

/-! ## Where the hour of a place begins -/

/-- The hour of a waiting event begins with the dispatch at `now`, or where that
of an event of its category began that waited in `l` for its channel. -/
def PendingAlert.Begun (now : Instant) (l : AlertLedger) (p : PendingAlert) : Prop :=
  p.firstFailedAt = now ∨
    ∃ q ∈ l.pending, q.channel = p.channel ∧ q.event.category = p.event.category ∧
      q.firstFailedAt = p.firstFailedAt

namespace AlertLedger

variable {l : AlertLedger} {now : Instant} {k : Channel} {e : AlertEvent} {queue : List PendingAlert}

theorem begun_requeue (h : ∀ p ∈ queue, p.Begun now l) : ∀ p ∈ requeue k e now queue, p.Begun now l := by
  induction queue with
  | nil => exact List.forall_mem_singleton.2 (.inl rfl)
  | cons p rest ih =>
    obtain ⟨hp, hrest⟩ := List.forall_mem_cons.1 h
    rw [requeue]
    split
    next hsame =>
      -- The new event has the category of the one before, so the same place is meant.
      refine List.forall_mem_cons.2 ⟨?_, hrest⟩
      rcases hp with hnow | ⟨q, hq, hk, hc, hsince⟩
      · exact .inl hnow
      · exact .inr ⟨q, hq, hk, hc.trans hsame.2, hsince⟩
    next => exact List.forall_mem_cons.2 ⟨hp, ih hrest⟩

end AlertLedger

namespace Round

variable {d : Dispatcher} {now : Instant} {recovered : Bool} {l : AlertLedger} {r : Round} {p : PendingAlert}
  {e : AlertEvent} {k : Channel}

theorem begun_retry (h : ∀ q ∈ r.ledger.pending, q.Begun now l) (hp : p.Begun now l) :
    ∀ q ∈ (retry now recovered r p).ledger.pending, q.Begun now l := by
  rw [pending_retry]
  refine List.forall_mem_append.2 ⟨h, ?_⟩
  intro q hq
  split at hq
  · obtain rfl := List.mem_singleton.1 hq
    exact hp
  · cases hq

theorem begun_offer (h : ∀ q ∈ r.ledger.pending, q.Begun now l) :
    ∀ q ∈ (offer d now e r k).ledger.pending, q.Begun now l := by
  rw [pending_offer]
  split
  · exact AlertLedger.begun_requeue h
  · exact h

theorem begun_handle (h : ∀ q ∈ r.ledger.pending, q.Begun now l) :
    ∀ q ∈ (handle d now r e).ledger.pending, q.Begun now l := by
  rw [handle, pending_afterEvent]
  exact begun_offer (begun_offer (begun_offer h))

theorem begun_retryPending :
    ∀ q ∈ (retryPending now recovered { lines := d.lines, ledger := l }).ledger.pending, q.Begun now l := by
  refine List.foldlRecOn l.pending (retry now recovered)
    (motive := fun r => ∀ q ∈ r.ledger.pending, q.Begun now l) ?_ ?_
  · simp
  · intro r hr p hp
    exact begun_retry hr (.inr ⟨p, hp, rfl, rfl, rfl⟩)

end Round

/-- After a dispatch, the hour of every waiting event begins there or where that
of an event before it in its place began. -/
theorem Dispatcher.begun_dispatch (d : Dispatcher) (now : Instant) (events : List AlertEvent)
    (l : AlertLedger) : ∀ p ∈ (d.dispatch now events l).ledger.pending, p.Begun now l := by
  refine List.foldlRecOn events (Round.handle d now)
    (motive := fun r => ∀ q ∈ r.ledger.pending, q.Begun now l) Round.begun_retryPending ?_
  intro r hr e _
  exact Round.begun_handle hr

/-! ## Runs from any ledger -/

namespace Dispatcher

/-- One dispatch after another. -/
def runFrom (d : Dispatcher) (l : AlertLedger) (calls : List Call) : Outcome :=
  calls.foldl Outcome.call ⟨d, l, {}, []⟩

/-- Such a run with its journal. The events that wait at first have the first
places. -/
def trailFrom (d : Dispatcher) (l : AlertLedger) (calls : List Call) : Trail :=
  calls.foldl (Trail.dispatch d)
    { round := { lines := d.lines, ledger := l }
      queue := l.pending.zipIdx.map fun (p, n) => ⟨n, p⟩
      told := l.pending.map PendingAlert.event }

theorem trailFrom_append (d : Dispatcher) (l : AlertLedger) (calls more : List Call) :
    d.trailFrom l (calls ++ more) = more.foldl (Trail.dispatch d) (d.trailFrom l calls) :=
  List.foldl_append

end Dispatcher

namespace Trail

variable {d : Dispatcher} {l : AlertLedger} {t t' : Trail} {c : Call} {s : Step} {todo : List Step}
  {x : Entry} {since : Instant}

theorem Kept.dispatch (h : t.Kept) : (t.dispatch d c).Kept := by
  refine perform_keeps (P := fun _ t => t.Kept) ?_ [] h.begin
  intro s todo t h
  exact h.perform

/-- The trail is that of the run. -/
theorem keptFrom (d : Dispatcher) (l : AlertLedger) (calls : List Call) :
    (d.trailFrom l calls).Kept ∧ (d.trailFrom l calls).outcome d = d.runFrom l calls := by
  induction calls using List.reverseRecOn with
  | nil =>
    refine ⟨⟨?_, rfl, ?_⟩, ?_⟩
    · simp [Dispatcher.trailFrom, List.map_map, Function.comp_def]
    · simp [Dispatcher.trailFrom, reported]
    · simp [Dispatcher.trailFrom, Dispatcher.runFrom, outcome]
  | append_singleton calls c ih =>
    rw [Dispatcher.trailFrom_append]
    refine ⟨ih.1.dispatch, ?_⟩
    rw [Dispatcher.runFrom, List.foldl_append]
    show (dispatch d _ c).outcome d = (d.runFrom l calls).call c
    rw [outcome_dispatch ih.1, ih.2]

/-- What is done once is done in its order, and no channel comes or goes. -/
structure Sound (d : Dispatcher) (todo : List Step) (t : Trail) : Prop where
  ordered : Ordered todo t
  configured : ∀ k, (t.round.lines.get k).isSome = (d.lines.get k).isSome

theorem Sound.begin (h : Sound d [] t) (c : Call) : Sound d (t.plan c) (t.begin c) :=
  ⟨h.ordered.begin c, h.configured⟩

theorem Sound.perform (h : Sound d (s :: todo) t) : Sound d todo (t.perform d s) :=
  ⟨h.ordered.perform, configured_perform h.configured⟩

theorem Sound.dispatch (h : Sound d [] t) : Sound d [] (t.dispatch d c) := by
  refine perform_keeps (P := Sound d) (fun s todo t h => h.perform) _ ?_
  rw [List.append_nil]
  exact h.begin c

theorem soundFrom (d : Dispatcher) (l : AlertLedger) (calls : List Call) : Sound d [] (d.trailFrom l calls) := by
  refine List.foldlRecOn calls (dispatch d) (motive := Sound d []) ⟨⟨?_, ?_⟩, fun _ => rfl⟩ ?_
  · exact List.Pairwise.nil
  · simp [ranks]
  · intro t h c _
    exact h.dispatch

theorem journal_perform : t.journal <:+ (t.perform d s).journal :=
  List.suffix_append _ _

theorem journal_foldl : t.journal <:+ (todo.foldl (perform d) t).journal := by
  refine perform_keeps (P := fun _ t' => t.journal <:+ t'.journal) ?_ [] (List.suffix_refl _)
  intro s todo t' h
  exact h.trans journal_perform

/-! ## Waiting for another try -/

/-- The event of an entry waits for its channel, in a place that is kept since
then. -/
structure Waits (t : Trail) (x : Entry) (since : Instant) : Prop where
  noted : x ∈ t.journal
  queued : ∃ tries, ⟨x.place, ⟨x.channel, x.event, since, tries⟩⟩ ∈ t.queue

/-- The channel of an entry took its event when it was tried again. -/
def Delivered (t : Trail) (x : Entry) : Prop :=
  ∃ u, ⟨x.place, x.channel, x.event, .resent (.ok u)⟩ ∈ t.journal

/-- Another critical event of its category failed later on the channel of an
entry, and took its place in the queue. -/
def Superseded (t : Trail) (x : Entry) : Prop :=
  ∃ later y why earlier,
    t.journal = later ++ ⟨x.place, x.channel, x.event, .lost (.superseded y.place)⟩ :: y :: earlier ∧
      x ∈ earlier ∧ x.place < y.place ∧ y.fate = .sent (.error why) ∧ y.channel = x.channel ∧
      y.event.category = x.event.category ∧ y.event.severity = .critical

theorem Delivered.mono (h : t.Delivered x) (hj : t.journal <:+ t'.journal) : t'.Delivered x := by
  obtain ⟨u, hu⟩ := h
  exact ⟨u, hj.subset hu⟩

theorem Superseded.mono (h : t.Superseded x) (hj : t.journal <:+ t'.journal) : t'.Superseded x := by
  obtain ⟨later, y, why, earlier, heq, hrest⟩ := h
  obtain ⟨more, hmore⟩ := hj
  exact ⟨more ++ later, y, why, earlier, by rw [← hmore, heq, List.append_assoc], hrest⟩

theorem place_lt_of_rank_lt {m n : Nat} {k : Channel} (h : rank m k < rank n k) : m < n := by
  cases k <;> simp only [rank] at h <;> omega

/-- A refused offer was made and refused. -/
theorem sent_of_refused {now : Instant} {e : AlertEvent} {k : Channel} {fate : Fate}
    (hf : t.round.offerFate d now e k = some fate) (hr : fate.refused = true) :
    ∃ why, fate = .sent (.error why) := by
  rcases (Round.offerFate_of hf).2.2 with ⟨why, rfl, -⟩ | ⟨why | u, rfl, -⟩
  · cases hr
  · exact ⟨why, rfl⟩
  · cases hr

/-- A step leaves a waiting event in its place, or gives that to another. -/
theorem Waits.perform {why : NotifyError} (h : t.Waits x since) (hs : Sound d (s :: todo) t)
    (hx : x.fate = .sent (.error why)) :
    (t.perform d s).Waits x since ∨ (t.perform d s).Superseded x := by
  have hnoted : x ∈ (t.perform d s).journal := journal_perform.subset h.noted
  obtain ⟨tries, hq⟩ := h.queued
  cases s with
  | retry now recovered w => exact .inl ⟨hnoted, tries, List.mem_append_left _ hq⟩
  | close n e => exact .inl ⟨hnoted, tries, hq⟩
  | offer now n e k =>
    rcases offer_of d t now n e k with
      ⟨-, -, hq'⟩ | ⟨fate, hf, ⟨-, -, hq'⟩ | ⟨hr, hc, since', tries',
        ⟨-, hq'⟩ | ⟨before, w, after, hbefore, hk, hcat, hj, hq'⟩⟩⟩
    · exact .inl ⟨hnoted, tries, by rw [hq']; exact hq⟩
    · exact .inl ⟨hnoted, tries, by rw [hq']; exact hq⟩
    · exact .inl ⟨hnoted, tries, by rw [hq']; exact List.mem_append_left _ hq⟩
    · rw [hbefore, List.mem_append, List.mem_cons] at hq
      rcases hq with hq | rfl | hq
      · exact .inl ⟨hnoted, tries, by rw [hq']; exact List.mem_append_left _ hq⟩
      · obtain ⟨why', rfl⟩ := sent_of_refused hf hr
        simp only at hk hcat
        subst hk
        have hrank : x.rank? = some (rank x.place x.channel) := by rw [Entry.rank?, hx]
        have hlt := hs.ordered.rank_lt h.noted hrank rfl
        exact .inr ⟨[], ⟨n, x.channel, e, .sent (.error why')⟩, why', t.journal, hj, h.noted,
          place_lt_of_rank_lt hlt, rfl, rfl, hcat.symm, hc⟩
      · exact .inl ⟨hnoted, tries, by
          rw [hq']; exact List.mem_append_right _ (List.mem_cons_of_mem _ hq)⟩

/-- Any further steps do no more. -/
theorem Waits.foldl {why : NotifyError} (h : t.Waits x since) (hs : Sound d todo t)
    (hx : x.fate = .sent (.error why)) :
    (todo.foldl (Trail.perform d) t).Waits x since ∨ (todo.foldl (Trail.perform d) t).Superseded x := by
  refine (perform_keeps (P := fun todo t => Sound d todo t ∧ (t.Waits x since ∨ t.Superseded x))
    ?_ [] ⟨by rw [List.append_nil]; exact hs, .inl h⟩).2
  intro s todo t ⟨hs, h⟩
  refine ⟨hs.perform, ?_⟩
  rcases h with h | h
  · exact h.perform hs hx
  · exact .inr (h.mono journal_perform)

/-! ## One dispatch -/

/-- `t'` has an entry in its journal that `t` has not. -/
def Notes (t t' : Trail) (x : Entry) : Prop :=
  ∃ news, t'.journal = news ++ t.journal ∧ x ∈ news

theorem notes_iff {news : List Entry} (h : t'.journal = news ++ t.journal) : t.Notes t' x ↔ x ∈ news := by
  constructor
  · rintro ⟨news', hnews', hx⟩
    rw [List.append_cancel_right (h.symm.trans hnews')]
    exact hx
  · exact fun hx => ⟨news, h, hx⟩

/-- A critical event that is refused waits for another try. -/
theorem waits_of_refused {now : Instant} {n : Nat} {e : AlertEvent} {k : Channel} {fate : Fate}
    (hf : t.round.offerFate d now e k = some fate) (hr : fate.refused = true) (hc : e.severity = .critical) :
    ∃ since, (t.perform d (.offer now n e k)).Waits ⟨n, k, e, fate⟩ since := by
  obtain ⟨hopen, hwants, -⟩ := Round.offerFate_of hf
  rcases offer_of d t now n e k with ⟨hnot, -, -⟩ | ⟨fate', hf', hcases⟩
  · rw [hopen, hwants] at hnot
    rcases hnot with h | h <;> cases h
  obtain rfl : fate = fate' := Option.some.inj (hf.symm.trans hf')
  rcases hcases with ⟨hnot, -, -⟩ | ⟨-, -, since, tries, ⟨hj, hq⟩ | ⟨before, w, after, -, -, -, hj, hq⟩⟩
  · exact absurd ⟨hr, hc⟩ hnot
  · exact ⟨since, by rw [hj]; simp, tries, by rw [hq]; simp⟩
  · exact ⟨since, by rw [hj]; simp, tries, by rw [hq]; simp⟩

/-- Every critical event that a channel refused since the journal was `older`
waits, or another one has its place. -/
structure Queues (d : Dispatcher) (older : List Entry) (todo : List Step) (t : Trail) : Prop where
  sound : Sound d todo t
  queues : ∃ news, t.journal = news ++ older ∧ ∀ x ∈ news, ∀ why, x.fate = .sent (.error why) →
    x.event.severity = .critical →
      (d.lines.get x.channel).isSome = true ∧ ((∃ since, t.Waits x since) ∨ t.Superseded x)

theorem Queues.perform {older : List Entry} (h : Queues d older (s :: todo) t) :
    Queues d older todo (t.perform d s) := by
  refine ⟨h.sound.perform, ?_⟩
  obtain ⟨news, hnews, hall⟩ := h.queues
  refine ⟨t.entries d s ++ news, ?_, ?_⟩
  · rw [Trail.perform, hnews, List.append_assoc]
  refine List.forall_mem_append.2 ⟨?_, ?_⟩
  · -- Of the new entries only that of an offer says that an event was sent.
    intro x hx why hfate hcrit
    cases s with
    | retry now recovered w =>
      obtain rfl := List.mem_singleton.1 hx
      rcases Round.retry_of now recovered t.round w.alert with
        ⟨_, -, hf, -⟩ | ⟨_, -, ⟨_, -, hf, -⟩ | ⟨_, -, hf, -⟩⟩ <;> rw [hf] at hfate <;> cases hfate
    | offer now n e k =>
      simp only [entries] at hx
      cases hf : t.round.offerFate d now e k with
      | none => rw [hf] at hx; cases hx
      | some fate =>
        rw [hf] at hx
        rcases List.mem_append.1 hx with hx | hx
        · split at hx
          · obtain ⟨w, -, rfl⟩ := List.mem_map.1 hx
            cases hfate
          · cases hx
        · obtain rfl := List.mem_singleton.1 hx
          obtain rfl : fate = _ := hfate
          exact ⟨(h.sound.configured k).symm.trans (Round.offerFate_of hf).1,
            .inl (waits_of_refused hf rfl hcrit)⟩
    | close n e =>
      simp only [entries] at hx
      split at hx
      · obtain rfl := List.mem_singleton.1 hx
        cases hfate
      · cases hx
  · intro x hx why hfate hcrit
    obtain ⟨hconf, ⟨since, hw⟩ | hsup⟩ := hall x hx why hfate hcrit
    · refine ⟨hconf, ?_⟩
      rcases hw.perform h.sound hfate with hw | hsup
      · exact .inl ⟨since, hw⟩
      · exact .inr hsup
    · exact ⟨hconf, .inr (hsup.mono journal_perform)⟩

/-- A critical event that a channel refused in a dispatch waits after it, or
another one has its place. -/
theorem waits_of_failed {why : NotifyError} (hs : Sound d [] t) (hx : t.Notes (t.dispatch d c) x)
    (hfate : x.fate = .sent (.error why)) (hcrit : x.event.severity = .critical) :
    (d.lines.get x.channel).isSome = true ∧
      ((∃ since, (t.dispatch d c).Waits x since) ∨ (t.dispatch d c).Superseded x) := by
  have hq : Queues d t.journal [] (t.dispatch d c) := by
    refine perform_keeps (P := Queues d t.journal) (fun s todo t h => h.perform) _ ?_
    rw [List.append_nil]
    exact ⟨hs.begin c, [], rfl, by simp⟩
  obtain ⟨news, hnews, hall⟩ := hq.queues
  exact hall x ((notes_iff hnews).1 hx) why hfate hcrit

/-- A retry within the hour is made, and only a refused event waits further. -/
theorem waits_of_retry {now : Instant} (tries : Nat) (hx : x ∈ t.journal)
    (hopen : (t.round.lines.get x.channel).isSome = true) (hold : now - since ≤ retryWindow) :
    let t' := t.perform d (.retry now false ⟨x.place, ⟨x.channel, x.event, since, tries⟩⟩)
    ∃ answer, ⟨x.place, x.channel, x.event, .resent answer⟩ ∈
        t.entries d (.retry now false ⟨x.place, ⟨x.channel, x.event, since, tries⟩⟩) ∧
      (t'.Delivered x ∨ t'.Waits x since) := by
  rcases Round.retry_of now false t.round ⟨x.channel, x.event, since, tries⟩ with
    ⟨why, hwhy, -, -⟩ | ⟨line, -, ⟨u, -, hf, -⟩ | ⟨why, -, hf, -⟩⟩
  · rcases hwhy with ⟨-, h⟩ | ⟨-, h⟩ | ⟨-, h⟩
    · cases h
    · exact absurd h (Int.not_lt.2 hold)
    · rw [h] at hopen
      cases hopen
  · exact ⟨.ok u, by simp [entries, hf], .inl ⟨u, by simp [Trail.perform, entries, hf]⟩⟩
  · refine ⟨.error why, by simp [entries, hf], .inr ⟨journal_perform.subset hx, tries + 1, ?_⟩⟩
    simp [Trail.perform, queueAfter, hf, Fate.refused]

/-- Within its hour a waiting event is tried again, if the validator has not
recovered. Then the channel took it, or it waits further, or another one has its
place. -/
theorem Waits.dispatch {why : NotifyError} (h : t.Waits x since) (hs : Sound d [] t)
    (hfate : x.fate = .sent (.error why)) (hconf : (d.lines.get x.channel).isSome = true)
    (hrec : c.recovered = false) (hold : c.now - since ≤ retryWindow) :
    (∃ answer, t.Notes (t.dispatch d c) ⟨x.place, x.channel, x.event, .resent answer⟩) ∧
      ((t.dispatch d c).Delivered x ∨ (t.dispatch d c).Waits x since ∨ (t.dispatch d c).Superseded x) := by
  obtain ⟨tries, hq⟩ := h.queued
  obtain ⟨before, after, hsplit⟩ := List.append_of_mem hq
  -- The retry of the event, between others, and then the new events.
  let retry := Step.retry c.now false ⟨x.place, ⟨x.channel, x.event, since, tries⟩⟩
  let rest := after.map (Step.retry c.now false) ++ Step.ofEvents c.now t.told.length c.events
  have hplan : t.plan c = before.map (Step.retry c.now false) ++ retry :: rest := by
    simp [plan, hsplit, hrec, retry, rest]
  let t₀ := (before.map (Step.retry c.now false)).foldl (Trail.perform d) (t.begin c)
  have hd : t.dispatch d c = rest.foldl (Trail.perform d) (t₀.perform d retry) := by
    rw [Trail.dispatch, hplan, List.foldl_append, List.foldl_cons]
  have hs₀ : Sound d (retry :: rest) t₀ := by
    refine perform_keeps (P := Sound d) (fun s todo t h => h.perform) _ ?_
    rw [← hplan]
    exact hs.begin c
  obtain ⟨more, hmore⟩ : t.journal <:+ t₀.journal := journal_foldl (t := t.begin c)
  obtain ⟨answer, hmem, hafter⟩ := waits_of_retry (d := d) (t := t₀) tries
    (hmore ▸ List.mem_append_right _ h.noted) ((hs₀.configured x.channel).trans hconf) hold
  obtain ⟨later, hlater⟩ : (t₀.perform d retry).journal <:+ (t.dispatch d c).journal := by
    rw [hd]
    exact journal_foldl
  refine ⟨⟨answer, later ++ (t₀.entries d retry ++ more), ?_, ?_⟩, ?_⟩
  · rw [← hlater, Trail.perform, ← hmore, List.append_assoc, List.append_assoc]
  · exact List.mem_append_right _ (List.mem_append_left _ hmem)
  · rw [hd]
    rcases hafter with hdel | hw
    · exact .inl (hdel.mono journal_foldl)
    · exact .inr (hw.foldl hs₀.perform hfate)

/-! ## Many dispatches -/

theorem Waits.dispatches {why : NotifyError} {calls : List Call} (h : t.Waits x since) (hs : Sound d [] t)
    (hfate : x.fate = .sent (.error why)) (hconf : (d.lines.get x.channel).isSome = true)
    (hcalls : ∀ c ∈ calls, c.recovered = false ∧ c.now - since ≤ retryWindow) :
    let t' := calls.foldl (Trail.dispatch d) t
    t'.Waits x since ∨ t'.Delivered x ∨ t'.Superseded x := by
  refine (List.foldlRecOn calls (Trail.dispatch d)
    (motive := fun t => Sound d [] t ∧ (t.Waits x since ∨ t.Delivered x ∨ t.Superseded x))
    ⟨hs, .inl h⟩ ?_).2
  intro t ⟨hs, h⟩ c hc
  refine ⟨hs.dispatch, ?_⟩
  obtain ⟨hrec, hold⟩ := hcalls c hc
  have hgrown : t.journal <:+ (t.dispatch d c).journal := journal_foldl (t := t.begin c)
  rcases h with h | h | h
  · obtain ⟨-, hdel | hw | hsup⟩ := h.dispatch hs hfate hconf hrec hold
    · exact .inr (.inl hdel)
    · exact .inl hw
    · exact .inr (.inr hsup)
  · exact .inr (.inl (h.mono hgrown))
  · exact .inr (.inr (h.mono hgrown))

end Trail

/-- A critical event that a channel refused in the dispatch `c₀` waits after it,
or another one already has its place. As long as the hour of its place lasts,
every later dispatch tries it again, unless the channel took it before, another
one has its place, or the validator recovered. The hour begins with `c₀`, or
where that of an older event began. -/
theorem retried_within_window (d : Dispatcher) (l : AlertLedger) (before between : List Call) (c₀ c : Call)
    (x : Entry) (why : NotifyError)
    (hfails : (d.trailFrom l before).Notes (d.trailFrom l (before ++ [c₀])) x)
    (hfate : x.fate = .sent (.error why)) (hcrit : x.event.severity = .critical)
    (hclock : ∀ c' ∈ between, c'.now ≤ c.now)
    (hleap : ∀ c' ∈ between ++ [c], c'.now.inLeapSecond = false) :
    let t₀ := d.trailFrom l (before ++ [c₀])
    let t := d.trailFrom l (before ++ [c₀] ++ between)
    let t' := d.trailFrom l (before ++ [c₀] ++ between ++ [c])
    (t'.Kept ∧ t'.outcome d = d.runFrom l (before ++ [c₀] ++ between ++ [c])) ∧
      (t₀.Superseded x ∨ ∃ p : PendingAlert, p.channel = x.channel ∧ p.event = x.event ∧
        ⟨x.place, p⟩ ∈ t₀.queue ∧ p ∈ (d.runFrom l (before ++ [c₀])).ledger.pending ∧
        p.Begun c₀.now (d.runFrom l before).ledger ∧
        (p.firstFailedAt.inLeapSecond = false → c.now - p.firstFailedAt ≤ retryWindow →
          (∃ answer, t.Notes t' ⟨x.place, x.channel, x.event, .resent answer⟩) ∨ t.Delivered x ∨
            t.Superseded x ∨ ∃ c' ∈ between ++ [c], c'.recovered = true)) := by
  intro t₀ t t'
  have ht₀ : t₀ = (d.trailFrom l before).dispatch d c₀ := d.trailFrom_append l before [c₀]
  have ht : t = between.foldl (Trail.dispatch d) t₀ := d.trailFrom_append l (before ++ [c₀]) between
  have ht' : t' = t.dispatch d c := d.trailFrom_append l (before ++ [c₀] ++ between) [c]
  refine ⟨Trail.keptFrom d l _, ?_⟩
  rw [show d.trailFrom l (before ++ [c₀]) = t₀ from rfl, ht₀] at hfails
  obtain ⟨hconf, hafter⟩ := Trail.waits_of_failed (Trail.soundFrom d l before) hfails hfate hcrit
  rw [← ht₀] at hafter
  rcases hafter with ⟨since, hw⟩ | hsup
  case inr => exact .inl hsup
  obtain ⟨tries, hq⟩ := hw.queued
  have hpending : ⟨x.channel, x.event, since, tries⟩ ∈ (d.runFrom l (before ++ [c₀])).ledger.pending := by
    obtain ⟨hkept, hout⟩ := Trail.keptFrom d l (before ++ [c₀])
    rw [← hout]
    exact hkept.pending ▸ List.mem_map_of_mem hq
  have hbegun : PendingAlert.Begun c₀.now (d.runFrom l before).ledger ⟨x.channel, x.event, since, tries⟩ := by
    rw [Dispatcher.runFrom, List.foldl_append] at hpending
    exact Dispatcher.begun_dispatch _ c₀.now c₀.events _ _ hpending
  refine .inr ⟨_, rfl, rfl, hq, hpending, hbegun, ?_⟩
  intro hsince hold
  by_cases hrec : ∃ c' ∈ between ++ [c], c'.recovered = true
  · exact .inr (.inr (.inr hrec))
  simp only [not_exists, not_and, Bool.not_eq_true] at hrec
  have hbetween : ∀ c' ∈ between, c'.recovered = false ∧ c'.now - since ≤ retryWindow := by
    intro c' hc'
    refine ⟨hrec c' (List.mem_append_left _ hc'), ?_⟩
    exact Int.le_trans (Instant.sub_le_sub_of_le (hclock c' hc') (hleap c' (List.mem_append_left _ hc'))
      (hleap c (by simp)) hsince) hold
  have hsound : Trail.Sound d [] t := Trail.soundFrom d l _
  rcases hw.dispatches (Trail.soundFrom d l _) hfate hconf hbetween with hw' | hdel | hsup
  · rw [← ht] at hw'
    rw [ht']
    exact .inl (hw'.dispatch hsound hfate hconf (hrec c (by simp)) hold).1
  · rw [ht]
    exact .inr (.inl hdel)
  · rw [ht]
    exact .inr (.inr (.inl hsup))

/-- Two timeouts of the consensus, 50 minutes apart, and then nothing new. -/
def twoTimeouts : List Call :=
  [.alarm .consensusTimeout 0, .alarm .consensusTimeout 3000]

/-- The failure of the second one. -/
def secondTimeout : Entry :=
  ⟨1, .primary, alarm .consensusTimeout 3000, .sent (.error (.timeout "pager"))⟩

/-- A dispatch without events. -/
def Call.quiet (second : Int) : Call :=
  ⟨.ofNanos (second * 1000000000), []⟩

theorem journal_twoTimeouts : (deaf.trailFrom {} twoTimeouts).journal =
    [⟨0, .primary, alarm .consensusTimeout 0, .lost (.superseded 1)⟩, secondTimeout,
      ⟨0, .primary, alarm .consensusTimeout 0, .resent (.error (.timeout "pager"))⟩] ++
        (deaf.trailFrom {} (twoTimeouts.take 1)).journal := by
  rfl

theorem journal_before_twoTimeouts : (deaf.trailFrom {} (twoTimeouts.take 1)).journal =
    [⟨0, .primary, alarm .consensusTimeout 0, .sent (.error (.timeout "pager"))⟩] := by
  rfl

/-- Nothing else became of the second one. -/
theorem not_gone_twoTimeouts : ¬ (deaf.trailFrom {} twoTimeouts).Delivered secondTimeout ∧
    ¬ (deaf.trailFrom {} twoTimeouts).Superseded secondTimeout := by
  have hj := journal_twoTimeouts
  rw [journal_before_twoTimeouts] at hj
  refine ⟨?_, ?_⟩
  · rintro ⟨u, hu⟩
    rw [hj] at hu
    simp [secondTimeout] at hu
  · rintro ⟨later, y, why, earlier, hy, -⟩
    have hmem : (⟨1, .primary, alarm .consensusTimeout 3000, .lost (.superseded y.place)⟩ : Entry) ∈
        (deaf.trailFrom {} twoTimeouts).journal := by
      rw [hy]
      simp [secondTimeout]
    rw [hj] at hmem
    simp [secondTimeout] at hmem

/-- The second timeout is tried again an hour after the first one. -/
theorem second_timeout_retried :
    (deaf.trailFrom {} (twoTimeouts.take 1)).Notes (deaf.trailFrom {} twoTimeouts) secondTimeout ∧
      ∃ answer, (deaf.trailFrom {} twoTimeouts).Notes
        (deaf.trailFrom {} (twoTimeouts ++ [.quiet 3600]))
        ⟨1, .primary, alarm .consensusTimeout 3000, .resent answer⟩ := by
  have hfails : (deaf.trailFrom {} (twoTimeouts.take 1)).Notes (deaf.trailFrom {} twoTimeouts) secondTimeout :=
    (Trail.notes_iff journal_twoTimeouts).2 (by simp)
  refine ⟨hfails, ?_⟩
  obtain ⟨-, hsup | ⟨p, -, -, hq, -, -, hretry⟩⟩ := retried_within_window deaf {} [.alarm .consensusTimeout 0]
    [] (.alarm .consensusTimeout 3000) (.quiet 3600) secondTimeout (.timeout "pager") hfails rfl rfl
    (by simp) (by decide)
  · exact absurd hsup not_gone_twoTimeouts.2
  · obtain rfl : p = ⟨.primary, alarm .consensusTimeout 3000, .ofNanos 0, 3⟩ := by
      have hqueue : (deaf.trailFrom {} twoTimeouts).queue =
          [⟨1, ⟨.primary, alarm .consensusTimeout 3000, .ofNanos 0, 3⟩⟩] := by rfl
      have hmem : ⟨1, p⟩ ∈ (deaf.trailFrom {} twoTimeouts).queue := hq
      rw [hqueue] at hmem
      simpa using hmem
    rcases hretry (by decide) (by decide) with h | h | h | h
    · exact h
    · exact absurd h not_gone_twoTimeouts.1
    · exact absurd h not_gone_twoTimeouts.2
    · exact absurd h (by decide)

/-- But 100 seconds later it is given up, 700 seconds after its failure. -/
theorem older_failure_shortens_window :
    ¬ ∀ (d : Dispatcher) (before between : List Call) (c₀ c : Call) (x : Entry) (why : NotifyError),
      ((before ++ [c₀] ++ between ++ [c]).Pairwise fun a b => a.now ≤ b.now) →
      (∀ c' ∈ before ++ [c₀] ++ between ++ [c], c'.now.inLeapSecond = false) →
      (d.trailFrom {} before).Notes (d.trailFrom {} (before ++ [c₀])) x →
      x.fate = .sent (.error why) → x.event.severity = .critical → c.now - c₀.now ≤ retryWindow →
        (∃ answer, (d.trailFrom {} (before ++ [c₀] ++ between)).Notes
          (d.trailFrom {} (before ++ [c₀] ++ between ++ [c]))
          ⟨x.place, x.channel, x.event, .resent answer⟩) ∨
        (d.trailFrom {} (before ++ [c₀] ++ between)).Delivered x ∨
        (d.trailFrom {} (before ++ [c₀] ++ between)).Superseded x ∨
        ∃ c' ∈ before ++ [c₀] ++ between ++ [c], c'.recovered = true := by
  intro h
  have hfails : (deaf.trailFrom {} (twoTimeouts.take 1)).Notes (deaf.trailFrom {} twoTimeouts) secondTimeout :=
    (Trail.notes_iff journal_twoTimeouts).2 (by simp)
  have hgiven : (deaf.trailFrom {} (twoTimeouts ++ [.quiet 3700])).journal =
      [⟨1, .primary, alarm .consensusTimeout 3000, .lost (.expired (.ofNanos 0) (Call.quiet 3700).now)⟩] ++
        (deaf.trailFrom {} twoTimeouts).journal := by rfl
  rcases h deaf [.alarm .consensusTimeout 0] [] (.alarm .consensusTimeout 3000) (.quiet 3700) secondTimeout
    (.timeout "pager") (by decide) (by decide) hfails rfl rfl (by decide) with ⟨answer, h⟩ | h | h | h
  · have hmem := (Trail.notes_iff hgiven).1 h
    simp [secondTimeout] at hmem
  · exact not_gone_twoTimeouts.1 h
  · exact not_gone_twoTimeouts.2 h
  · exact absurd h (by decide)

end ValidatorWatch
