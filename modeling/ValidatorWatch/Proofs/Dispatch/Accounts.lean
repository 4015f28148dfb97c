import ValidatorWatch.Proofs.Dispatch.Places
/-!
# Every event is accounted for

An event that a channel is to get has exactly one standing there after every
run: delivered, withheld, failed, waiting or lost. The journal and the queue
give it at most one, and a step to be done stands for one that is still
missing, so that the number of both is one all the time
(`Trail.Accounted.once`). `every_event_accounted` says besides what each
standing is due to.
-/

namespace ValidatorWatch

open Time (Instant)

/-- What has become of an event on a channel. -/
inductive Standing where
  | delivered
  | withheld (why : Hold)
  | failed
  | waiting
  | lost (why : Loss)
  deriving DecidableEq

/-- The standing that an entry settles. A critical event that was refused is
still to be tried again. -/
def Entry.standing? (x : Entry) : Option Standing :=
  match x.fate with
  | .withheld why => some (.withheld why)
  | .sent (.ok _) | .resent (.ok _) => some .delivered
  | .sent (.error _) => if x.event.severity = .critical then none else some .failed
  | .lost why => some (.lost why)
  | .resent (.error _) | .clears => none

theorem Entry.isSome_standing_retry {now : Instant} {recovered : Bool} {r : Round} {p : PendingAlert}
    (n : Nat) (k : Channel) (e : AlertEvent) :
    (⟨n, k, e, r.retryFate now recovered p⟩ : Entry).standing?.isSome =
      !(r.retryFate now recovered p).refused := by
  rcases Round.retry_of now recovered r p with
    ⟨why, -, hf, -⟩ | ⟨line, -, ⟨u, -, hf, -⟩ | ⟨why, -, hf, -⟩⟩ <;> rw [hf] <;> rfl

theorem Entry.isSome_standing_offer {d : Dispatcher} {now : Instant} {r : Round} {e : AlertEvent}
    {k : Channel} {fate : Fate} (hf : r.offerFate d now e k = some fate) (n : Nat) :
    (⟨n, k, e, fate⟩ : Entry).standing?.isSome =
      !decide (fate.refused = true ∧ e.severity = .critical) := by
  rcases (Round.offerFate_of hf).2.2 with ⟨why, rfl, -⟩ | ⟨_ | _, rfl, -⟩
  · rfl
  · by_cases hs : e.severity = .critical <;> simp [Entry.standing?, Fate.refused, hs]
  · rfl

theorem Entry.accepted_iff (x : Entry) :
    x.fate.accepted = true ↔ x.standing? = some .delivered := by
  cases hf : x.fate with
  | sent answer | resent answer => cases answer <;> simp [Entry.standing?, hf, Fate.accepted]
  | withheld | lost | clears => simp [Entry.standing?, hf, Fate.accepted]

/-- Whether an entry settles the standing of an event on a channel. -/
def Entry.settles (n : Nat) (k : Channel) (x : Entry) : Bool :=
  decide (x.place = n ∧ x.channel = k) && x.standing?.isSome

/-- Whether an event waits for a channel. -/
def Waiting.waits (n : Nat) (k : Channel) (w : Waiting) : Bool :=
  w.place = n ∧ w.alert.channel = k

/-- Whether a step is about an event on a channel. -/
def Step.concerns (n : Nat) (k : Channel) : Step → Bool
  | .retry _ _ w => w.waits n k
  | .offer _ m _ j => m = n ∧ j = k
  | .close _ _ => false

/-- Each new event has one step for each channel. -/
theorem Step.countP_ofEvents (now : Instant) (m : Nat) (events : List AlertEvent) (n : Nat) (k : Channel) :
    (ofEvents now m events).countP (concerns n k) = if m ≤ n ∧ n < m + events.length then 1 else 0 := by
  induction events generalizing m with
  | nil => rw [if_neg (by simp)]; rfl
  | cons e rest ih =>
    simp only [ofEvents, List.countP_cons, ih, concerns, List.length_cons]
    by_cases hm : m = n
    · subst hm
      rw [if_neg (by omega), if_pos (by omega)]
      cases k <;> simp
    · simp only [hm, false_and, decide_false, Bool.false_eq_true, if_false, Nat.add_zero]
      congr 1
      exact propext (by omega)

/-- Whether an event is meant for a channel that is configured. -/
def Dispatcher.Owes (d : Dispatcher) (k : Channel) (e : AlertEvent) : Prop :=
  (d.lines.get k).isSome = true ∧ Round.wants k e = true

namespace Trail

variable {d : Dispatcher} {t t' : Trail} {c : Call} {s : Step} {todo : List Step} {n : Nat} {k : Channel}
  {e : AlertEvent}

/-- The standings of an event on a channel. -/
def standings (t : Trail) (n : Nat) (k : Channel) : List Standing :=
  (t.journal.filterMap fun x => if x.place = n ∧ x.channel = k then x.standing? else none) ++
    (t.queue.filter (Waiting.waits n k)).map fun _ => .waiting

theorem length_standings : (t.standings n k).length =
    t.journal.countP (Entry.settles n k) + t.queue.countP (Waiting.waits n k) := by
  rw [standings, List.length_append, List.length_map, List.length_filterMap_eq_countP,
    List.countP_eq_length_filter (l := t.queue)]
  congr 2
  funext x
  by_cases hx : x.place = n ∧ x.channel = k <;> simp [Entry.settles, hx]

/-- A step settles the standing that it is about, or leaves the event waiting. -/
theorem length_standings_perform
    (hs : ∀ now e, s = .offer now n e k →
      (t.round.lines.get k).isSome = true ∧ Round.wants k e = true) :
    ((t.perform d s).standings n k).length =
      (t.standings n k).length + if s.concerns n k then 1 else 0 := by
  rw [length_standings, length_standings]
  cases s with
  | retry now recovered w =>
    simp only [perform, entries, queueAfter, Step.concerns, List.countP_append, List.countP_singleton,
      Entry.settles, Entry.isSome_standing_retry]
    cases (t.round.retryFate now recovered w.alert).refused <;>
      simp [Waiting.waits, List.countP_singleton] <;> omega
  | offer now m e j =>
    have hcon : (Step.offer now m e j).concerns n k = decide (m = n ∧ j = k) := rfl
    rw [hcon]
    rcases offer_of d t now m e j with
      ⟨hnot, hj, hq⟩ | ⟨fate, hf, ⟨hr, hj, hq⟩ | ⟨hr, hc, since, tries,
        ⟨hj, hq⟩ | ⟨before, w, after, hbefore, hk, -, hj, hq⟩⟩⟩ <;> rw [hj, hq]
    · rw [if_neg, Nat.add_zero]
      intro hmj
      obtain ⟨rfl, rfl⟩ := of_decide_eq_true hmj
      obtain ⟨hopen, hwants⟩ := hs now e rfl
      rcases hnot with hnot | hnot
      · rw [hnot] at hopen; cases hopen
      · rw [hnot] at hwants; cases hwants
    · rw [List.countP_cons, Entry.settles, Entry.isSome_standing_offer hf]
      simp [hr]
      omega
    · rw [List.countP_cons, Entry.settles, Entry.isSome_standing_offer hf, List.countP_append,
        List.countP_singleton]
      simp [hr, hc, Waiting.waits]
      omega
    · rw [List.countP_cons, List.countP_cons, Entry.settles, Entry.settles,
        Entry.isSome_standing_offer hf, hbefore, List.countP_append, List.countP_append,
        List.countP_cons, List.countP_cons]
      simp [hr, hc, Waiting.waits, Entry.standing?, hk]
      omega
  | close m e =>
    simp only [perform, entries, queueAfter, Step.concerns]
    split <;> simp [Entry.settles, Entry.standing?]

/-! ## What a standing is due to -/

/-- The channel refused the event when it was new. -/
def Failed (t : Trail) (n : Nat) (k : Channel) : Prop :=
  ∃ x ∈ t.journal, x.place = n ∧ x.channel = k ∧ ∃ why, x.fate = .sent (.error why)

/-- What a waiting event was given up for. -/
def Excused (t : Trail) (n : Nat) (k : Channel) (e : AlertEvent) : Loss → Prop
  -- A recovery was told later.
  | .recovered => ∃ m e', n < m ∧ t.told[m]? = some e' ∧ e'.category = .recovery
  -- Its place in the queue was too old.
  | .expired firstFailedAt now => retryWindow < now - firstFailedAt
  -- A later critical event of its category failed on the channel too.
  | .superseded m => ∃ e', n < m ∧ t.told[m]? = some e' ∧ e'.severity = .critical ∧
      e'.category = e.category ∧ t.Failed m k
  | .closed => False

/-- What a standing is due to. -/
def Justified (t : Trail) (n : Nat) (k : Channel) (e : AlertEvent) : Standing → Prop
  | .delivered => True
  | .withheld why =>
    (e.severity = .critical → why = .cooldown) ∧ (e.category = .extendedReport → k = .emergency)
  | .failed => e.severity ≠ .critical ∧ t.Failed n k
  | .waiting => e.severity = .critical ∧ t.Failed n k
  | .lost why => e.severity = .critical ∧ t.Failed n k ∧ t.Excused n k e why

/-- `t'` continues `t`: no event and no entry is taken back. -/
structure Continues (t t' : Trail) : Prop where
  told : ∀ (n : Nat) (e : AlertEvent), t.told[n]? = some e → t'.told[n]? = some e
  journal : ∀ x ∈ t.journal, x ∈ t'.journal

theorem Failed.mono (h : t.Failed n k) (ht : Continues t t') : t'.Failed n k := by
  obtain ⟨x, hx, hrest⟩ := h
  exact ⟨x, ht.journal x hx, hrest⟩

theorem Justified.mono {s : Standing} (h : t.Justified n k e s) (ht : Continues t t') :
    t'.Justified n k e s := by
  match s with
  | .delivered | .withheld _ => exact h
  | .failed | .waiting => exact ⟨h.1, h.2.mono ht⟩
  | .lost why =>
    refine ⟨h.1, h.2.1.mono ht, ?_⟩
    have hx := h.2.2
    match why with
    | .recovered =>
      obtain ⟨m, e', hm, he', hrec⟩ := hx
      exact ⟨m, e', hm, ht.told m e' he', hrec⟩
    | .expired _ _ | .closed => exact hx
    | .superseded m =>
      obtain ⟨e', hm, he', hs, hc, hf⟩ := hx
      exact ⟨e', hm, ht.told m e' he', hs, hc, hf.mono ht⟩

theorem continues_begin : Continues t (t.begin c) :=
  ⟨fun _ _ h => told_begin h, fun _ h => h⟩

theorem continues_perform : Continues t (t.perform d s) :=
  ⟨fun _ _ h => h, fun _ h => List.mem_append_right _ h⟩

/-- What a waiting event is like. -/
def Stuck (d : Dispatcher) (t : Trail) (w : Waiting) : Prop :=
  (d.lines.get w.alert.channel).isSome = true ∧ w.alert.event.severity = .critical ∧
    t.Failed w.place w.alert.channel

theorem Stuck.mono {w : Waiting} (h : t.Stuck d w) (ht : Continues t t') : t'.Stuck d w :=
  ⟨h.1, h.2.1, h.2.2.mono ht⟩

/-- Every settled standing has its reason, and so has every waiting event. -/
structure Reasoned (d : Dispatcher) (t : Trail) : Prop where
  journal : ∀ x ∈ t.journal, ∀ s, x.standing? = some s → t.Justified x.place x.channel x.event s
  queue : ∀ w ∈ t.queue, t.Stuck d w

/-- An event that is meant for a channel has one standing there or is still to
be dealt with. -/
structure Accounted (d : Dispatcher) (todo : List Step) (t : Trail) : Prop where
  ordered : Ordered todo t
  placed : Placed todo t
  configured : ∀ k, (t.round.lines.get k).isSome = (d.lines.get k).isSome
  once : ∀ (n : Nat) (k : Channel) (e : AlertEvent), t.told[n]? = some e → d.Owes k e →
    (t.standings n k).length + todo.countP (Step.concerns n k) = 1
  reasoned : Reasoned d t
  steps : ∀ now recovered w, .retry now recovered w ∈ todo → t.Stuck d w ∧
    (recovered = true → ∃ m e, w.place < m ∧ t.told[m]? = some e ∧ e.category = .recovery)

theorem Accounted.begin (h : Accounted d [] t) (c : Call) : Accounted d (t.plan c) (t.begin c) where
  ordered := h.ordered.begin c
  placed := h.placed.begin c
  configured := h.configured
  once := by
    intro n k e hn howes
    have hplan : (t.plan c).countP (Step.concerns n k) = t.queue.countP (Waiting.waits n k) +
        if t.told.length ≤ n ∧ n < t.told.length + c.events.length then 1 else 0 := by
      rw [plan, List.countP_append, List.countP_map, Step.countP_ofEvents]
      rfl
    rw [hplan, length_standings]
    by_cases hold : n < t.told.length
    · have honce := h.once n k e (by simpa [Trail.begin, List.getElem?_append_left hold] using hn) howes
      rw [length_standings] at honce
      rw [if_neg (by omega)]
      exact honce
    · -- Nothing is known of a new event yet.
      have hj : t.journal.countP (Entry.settles n k) = 0 := by
        rw [List.countP_eq_zero]
        intro x hx hset
        obtain ⟨hlt, -⟩ := List.getElem?_eq_some_iff.1 (h.placed.entries x hx)
        simp [Entry.settles] at hset
        omega
      have hq : t.queue.countP (Waiting.waits n k) = 0 := by
        rw [List.countP_eq_zero]
        intro w hw hwaits
        obtain ⟨hlt, -⟩ := List.getElem?_eq_some_iff.1 (h.placed.queue w hw)
        simp [Waiting.waits] at hwaits
        omega
      obtain ⟨hlt, -⟩ := List.getElem?_eq_some_iff.1 hn
      rw [Trail.begin, List.length_append] at hlt
      rw [if_pos (by omega), hq]
      simp [Trail.begin, hj]
  reasoned :=
    ⟨fun x hx s hs => (h.reasoned.journal x hx s hs).mono continues_begin, by simp [Trail.begin]⟩
  steps := by
    intro now recovered w hw
    rcases List.mem_append.1 hw with hw | hw
    · obtain ⟨v, hv, heq⟩ := List.mem_map.1 hw
      cases heq
      refine ⟨(h.reasoned.queue w hv).mono continues_begin, ?_⟩
      intro hrec
      obtain ⟨e, he, hcat⟩ := List.any_eq_true.1 hrec
      obtain ⟨i, hi⟩ := List.getElem?_of_mem he
      obtain ⟨hlt, -⟩ := List.getElem?_eq_some_iff.1 (h.placed.queue w hv)
      refine ⟨t.told.length + i, e, by omega, ?_, of_decide_eq_true hcat⟩
      rw [Trail.begin, List.getElem?_append_right (by omega), Nat.add_sub_cancel_left, hi]
    · exact absurd rfl ((Step.mem_ofEvents hw).2 now recovered w)

theorem configured_perform
    (h : ∀ k, (t.round.lines.get k).isSome = (d.lines.get k).isSome) (k : Channel) :
    ((t.perform d s).round.lines.get k).isSome = (d.lines.get k).isSome := by
  refine noted_perform (R := fun _ r => (r.lines.get k).isSome = (d.lines.get k).isSome) ?_ (h k)
  intro journal r x r' hr hn
  rw [hn.configured, hr]

theorem Accounted.once_perform (h : Accounted d (s :: todo) t) (hn : t.told[n]? = some e)
    (howes : d.Owes k e) :
    ((t.perform d s).standings n k).length + todo.countP (Step.concerns n k) = 1 := by
  have honce := h.once n k e hn howes
  rw [List.countP_cons] at honce
  rw [length_standings_perform]
  · omega
  · intro now e' hs
    have hplace := h.placed.steps s List.mem_cons_self
    rw [hs] at hplace
    obtain rfl : e' = e := Option.some.inj (hplace.symm.trans hn)
    exact ⟨(h.configured k).trans howes.1, howes.2⟩

/-- What a retry settles, it settles for a reason. -/
theorem Accounted.retry_justified {now : Instant} {recovered : Bool} {w : Waiting}
    (h : Accounted d (.retry now recovered w :: todo) t) {st : Standing}
    (hst : (⟨w.place, w.alert.channel, w.alert.event, t.round.retryFate now recovered w.alert⟩ :
      Entry).standing? = some st) :
    t.Justified w.place w.alert.channel w.alert.event st := by
  obtain ⟨⟨hconf, hcrit, hfailed⟩, hrec⟩ := h.steps now recovered w List.mem_cons_self
  rcases Round.retry_of now recovered t.round w.alert with
    ⟨why, hwhy, hf, -⟩ | ⟨line, -, ⟨u, -, hf, -⟩ | ⟨why, -, hf, -⟩⟩ <;> rw [hf] at hst
  · cases hst
    refine ⟨hcrit, hfailed, ?_⟩
    rcases hwhy with ⟨rfl, hr⟩ | ⟨rfl, hold⟩ | ⟨rfl, hnone⟩
    · exact hrec hr
    · exact hold
    · rw [← h.configured, hnone] at hconf
      cases hconf
  · cases hst
    trivial
  · cases hst

/-- What an offer settles for its own event, it settles for a reason. -/
theorem offer_justified {now : Instant} {fate : Fate} {st : Standing}
    (hf : t.round.offerFate d now e k = some fate) (hx : (⟨n, k, e, fate⟩ : Entry) ∈ t'.journal)
    (hst : (⟨n, k, e, fate⟩ : Entry).standing? = some st) : t'.Justified n k e st := by
  rcases (Round.offerFate_of hf).2.2 with ⟨why, rfl, hcool, hreport⟩ | ⟨why | u, rfl, -⟩
  · cases hst
    exact ⟨hcool, hreport⟩
  · by_cases hcrit : e.severity = .critical
    · simp [Entry.standing?, hcrit] at hst
    · simp only [Entry.standing?, hcrit, if_false, Option.some.injEq] at hst
      subst hst
      exact ⟨hcrit, _, hx, rfl, rfl, why, rfl⟩
  · cases hst
    trivial

theorem failed_of_refused {now : Instant} {fate : Fate}
    (hf : t.round.offerFate d now e k = some fate) (hr : fate.refused = true)
    (hx : (⟨n, k, e, fate⟩ : Entry) ∈ t'.journal) : t'.Failed n k := by
  rcases (Round.offerFate_of hf).2.2 with ⟨why, rfl, -⟩ | ⟨why | u, rfl, -⟩
  · cases hr
  · exact ⟨_, hx, rfl, rfl, why, rfl⟩
  · cases hr

/-- A waiting event is older than the one on its channel that is offered. -/
theorem Accounted.place_lt {now : Instant} {w : Waiting}
    (h : Accounted d (.offer now n e k :: todo) t) (hw : w ∈ t.queue) (hk : w.alert.channel = k) :
    w.place < n := by
  obtain ⟨-, -, x, hx, hplace, hchannel, why, hfate⟩ := h.reasoned.queue w hw
  have hrank : x.rank? = some (rank w.place k) := by
    rw [Entry.rank?, hfate, hplace, hchannel, hk]
  have hlt := h.ordered.rank_lt hx hrank rfl
  cases k <;> simp only [rank] at hlt <;> omega

theorem Reasoned.continue (h : Reasoned d t) (ht : Continues t t') :
    (∀ x ∈ t.journal, ∀ st, x.standing? = some st → t'.Justified x.place x.channel x.event st) ∧
      ∀ w ∈ t.queue, t'.Stuck d w :=
  ⟨fun x hx st hst => (h.journal x hx st hst).mono ht, fun w hw => (h.queue w hw).mono ht⟩

theorem Accounted.reasoned_retry {now : Instant} {recovered : Bool} {w : Waiting}
    (h : Accounted d (.retry now recovered w :: todo) t) :
    Reasoned d (t.perform d (.retry now recovered w)) := by
  have hcont : Continues t (t.perform d (.retry now recovered w)) := continues_perform
  obtain ⟨hjournal, hqueue⟩ := h.reasoned.continue hcont
  refine ⟨?_, ?_⟩
  · exact List.forall_mem_cons.2 ⟨fun st hst => (h.retry_justified hst).mono hcont, hjournal⟩
  · refine List.forall_mem_append.2 ⟨hqueue, ?_⟩
    intro v hv
    split at hv
    · obtain rfl := List.mem_singleton.1 hv
      exact (h.steps now recovered w List.mem_cons_self).1.mono hcont
    · cases hv

theorem Accounted.reasoned_offer {now : Instant} (h : Accounted d (.offer now n e k :: todo) t) :
    Reasoned d (t.perform d (.offer now n e k)) := by
  have hcont : Continues t (t.perform d (.offer now n e k)) := continues_perform
  obtain ⟨hjournal, hqueue⟩ := h.reasoned.continue hcont
  rcases offer_of d t now n e k with ⟨-, hj, hq⟩ | ⟨fate, hf, hcases⟩
  · exact ⟨by rw [hj]; exact hjournal, by rw [hq]; exact hqueue⟩
  -- In all other cases the journal has the new entry, and the event may be in the queue.
  have hx : (⟨n, k, e, fate⟩ : Entry) ∈ (t.perform d (.offer now n e k)).journal := by
    rcases hcases with ⟨-, hj, -⟩ | ⟨-, -, since, tries, ⟨hj, -⟩ | ⟨_, w, _, -, -, -, hj, -⟩⟩ <;>
      rw [hj] <;> simp
  have hown := List.forall_mem_cons.2 ⟨fun st hst => offer_justified hf hx hst, hjournal⟩
  have hopen : (d.lines.get k).isSome = true := (h.configured k).symm.trans (Round.offerFate_of hf).1
  rcases hcases with ⟨-, hj, hq⟩ | ⟨hr, hc, since, tries,
    ⟨hj, hq⟩ | ⟨before, w, after, hbefore, hk, hcat, hj, hq⟩⟩
  · exact ⟨by rw [hj]; exact hown, by rw [hq]; exact hqueue⟩
  · refine ⟨by rw [hj]; exact hown, ?_⟩
    rw [hq]
    refine List.forall_mem_append.2 ⟨hqueue, List.forall_mem_singleton.2 ?_⟩
    exact ⟨hopen, hc, failed_of_refused hf hr hx⟩
  · have hw : w ∈ t.queue := by rw [hbefore]; simp
    obtain ⟨-, hwcrit, hwfailed⟩ := hqueue w hw
    rw [hk] at hwfailed
    have hfailed := failed_of_refused hf hr hx
    refine ⟨?_, ?_⟩
    · rw [hj]
      refine List.forall_mem_cons.2 ⟨?_, hown⟩
      intro st hst
      cases hst
      have hn : t.told[n]? = some e := h.placed.steps _ List.mem_cons_self
      exact ⟨hwcrit, hwfailed, e, h.place_lt hw hk, hn, hc, hcat.symm, hfailed⟩
    · rw [hbefore, List.forall_mem_append, List.forall_mem_cons] at hqueue
      rw [hq]
      exact List.forall_mem_append.2 ⟨hqueue.1, List.forall_mem_cons.2
        ⟨⟨hopen, hc, hfailed⟩, hqueue.2.2⟩⟩

theorem Accounted.reasoned_close (h : Accounted d (.close n e :: todo) t) :
    Reasoned d (t.perform d (.close n e)) := by
  obtain ⟨hjournal, hqueue⟩ := h.reasoned.continue (continues_perform (d := d) (s := .close n e))
  refine ⟨List.forall_mem_append.2 ⟨?_, hjournal⟩, hqueue⟩
  intro x hx st hst
  simp only [entries] at hx
  split at hx
  · obtain rfl := List.mem_singleton.1 hx
    cases hst
  · cases hx

theorem Accounted.perform (h : Accounted d (s :: todo) t) : Accounted d todo (t.perform d s) := by
  refine ⟨h.ordered.perform, h.placed.perform, configured_perform h.configured,
    fun n k e hn howes => h.once_perform hn howes, ?_, ?_⟩
  · cases s with
    | retry now recovered w => exact h.reasoned_retry
    | offer now n e k => exact h.reasoned_offer
    | close n e => exact h.reasoned_close
  · intro now recovered w hw
    obtain ⟨hstuck, hrec⟩ := h.steps now recovered w (List.mem_cons_of_mem _ hw)
    exact ⟨hstuck.mono continues_perform, hrec⟩

theorem accounted (d : Dispatcher) (calls : List Call) : Accounted d [] (d.trail calls) := by
  refine Dispatcher.trail_keeps (P := Accounted d) ?_ ?_ ?_ calls
  · refine ⟨Ordered.first, Placed.first, fun _ => rfl, ?_, ⟨?_, ?_⟩, ?_⟩ <;> simp
  · intro t c h
    exact h.begin c
  · intro s todo t h
    exact h.perform

/-! ## The accounts -/

/-- How often a channel took an event. -/
def deliveries (t : Trail) (n : Nat) (k : Channel) : Nat :=
  t.journal.countP fun x => decide (x.place = n ∧ x.channel = k) && x.fate.accepted

theorem deliveries_eq : t.deliveries n k = (t.standings n k).count .delivered := by
  have hwait : ((t.queue.filter (Waiting.waits n k)).map fun _ => Standing.waiting).count
      .delivered = 0 := by
    rw [List.count_eq_zero]
    simp
  rw [deliveries, standings, List.count_append, hwait, Nat.add_zero, List.count, List.countP_filterMap]
  congr 1
  funext x
  by_cases hx : x.place = n ∧ x.channel = k
  · have hacc := x.accepted_iff
    cases hst : x.standing? with
    | none => simpa [hx, hst] using hacc
    | some st =>
      rw [hst, Option.some.injEq] at hacc
      have hst' : x.fate.accepted = (st == .delivered) := by
        rw [Bool.eq_iff_iff, hacc, beq_iff_eq]
      simp [hx, hst']
  · simp [hx]

end Trail

/-- After every run, an event that a channel is to get has exactly one standing
there, for its reason, and the channel took it once if that is `delivered` and
never otherwise. -/
theorem every_event_accounted (d : Dispatcher) (calls : List Call) :
    Trail.Faithful d calls (d.trail calls) ∧
      ∀ n k e, (d.trail calls).told[n]? = some e → d.Owes k e →
        ∃ s, (d.trail calls).standings n k = [s] ∧ (d.trail calls).Justified n k e s ∧
          (d.trail calls).deliveries n k = if s = .delivered then 1 else 0 := by
  have h := Trail.accounted d calls
  refine ⟨Trail.faithful d calls, ?_⟩
  intro n k e hn howes
  obtain ⟨s, hs⟩ := List.length_eq_one_iff.1 (h.once n k e hn howes)
  refine ⟨s, hs, ?_, ?_⟩
  · have hmem : s ∈ (d.trail calls).standings n k := by rw [hs]; exact List.mem_singleton_self s
    rcases List.mem_append.1 hmem with hmem | hmem
    · obtain ⟨x, hx, hst⟩ := List.mem_filterMap.1 hmem
      split at hst
      next hnk =>
        obtain ⟨rfl, rfl⟩ := hnk
        obtain rfl := Option.some.inj ((h.placed.entries x hx).symm.trans hn)
        exact h.reasoned.journal x hx s hst
      next => cases hst
    · obtain ⟨w, hfilter, rfl⟩ := List.mem_map.1 hmem
      obtain ⟨hw, hwaits⟩ := List.mem_filter.1 hfilter
      obtain ⟨rfl, rfl⟩ := of_decide_eq_true hwaits
      obtain rfl := Option.some.inj ((h.placed.queue w hw).symm.trans hn)
      exact (h.reasoned.queue w hw).2
  · rw [Trail.deliveries_eq, hs, List.count_singleton]
    simp only [beq_iff_eq]

/-- One primary channel that takes nothing. -/
def deaf : Dispatcher where
  lines := ⟨some { notifier := fun _ _ => .error (.timeout "pager"), bucket := none }, none, none⟩
  cooldown := .ofSeconds 300
  emergencyCooldown := .ofSeconds 1800

/-- Two outages, a minute apart. -/
def twoOutages : List Call :=
  [.alarm .down 0, .alarm .down 60]

/-- The second of two outages waits for a channel that took none of them. -/
theorem second_outage_waits :
    (deaf.trail twoOutages).told[1]? = some (alarm .down 60) ∧ deaf.Owes .primary (alarm .down 60) ∧
      (deaf.trail twoOutages).standings 1 .primary = [.waiting] ∧
      (deaf.trail twoOutages).Justified 1 .primary (alarm .down 60) .waiting := by
  have hwait : (deaf.trail twoOutages).standings 1 .primary = [.waiting] := by decide +kernel
  obtain ⟨s, hs, hjust, -⟩ :=
    (every_event_accounted deaf twoOutages).2 1 .primary (alarm .down 60) rfl ⟨rfl, rfl⟩
  rw [hwait] at hs
  obtain rfl := (List.cons.inj hs).1
  exact ⟨rfl, ⟨rfl, rfl⟩, hwait, hjust⟩

/-- The first one is lost to the second. No recovery was told, and it was not
yet too old. -/
theorem first_outage_superseded :
    ¬ ∀ (d : Dispatcher) (calls : List Call) (n : Nat) (k : Channel) (e : AlertEvent),
      (d.trail calls).told[n]? = some e → d.Owes k e →
        ∃ s, (d.trail calls).standings n k = [s] ∧ ∀ m, s ≠ .lost (.superseded m) := by
  intro h
  obtain ⟨s, hs, hne⟩ := h deaf twoOutages 0 .primary (alarm .down 0) rfl ⟨rfl, rfl⟩
  have hlost : (deaf.trail twoOutages).standings 0 .primary = [.lost (.superseded 1)] := by decide +kernel
  rw [hlost] at hs
  exact hne 1 (List.cons.inj hs).1.symm

end ValidatorWatch
