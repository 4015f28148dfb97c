import ValidatorWatch.Proofs.Dispatch.Journal
/-!
# Places

The place of an event is its number among all that were told. Whatever a trail
has about an event has it at the place of that event, in the journal, in the
queue and in the steps to be done: `Trail.Placed`. What is done once for each
event and channel is done in the order of places and channels:
`Trail.Ordered`. Retries and losses come in any order.
-/

namespace ValidatorWatch

open Time (Instant)

namespace Trail

variable {d : Dispatcher} {t : Trail} {c : Call} {s : Step} {todo : List Step}

/-! ## What an offer does to the queue -/

/-- What an offer does with the journal and the queue, in four cases. -/
theorem offer_of (d : Dispatcher) (t : Trail) (now : Instant) (n : Nat) (e : AlertEvent) (k : Channel) :
    let t' := t.perform d (.offer now n e k)
    -- Not for this channel: nothing changes.
    (((t.round.lines.get k).isSome = false ∨ Round.wants k e = false) ∧
      t'.journal = t.journal ∧ t'.queue = t.queue) ∨
    ∃ fate, t.round.offerFate d now e k = some fate ∧
      -- Nothing is to be tried again.
      ((¬ (fate.refused = true ∧ e.severity = .critical) ∧
        t'.journal = ⟨n, k, e, fate⟩ :: t.journal ∧ t'.queue = t.queue) ∨
      fate.refused = true ∧ e.severity = .critical ∧ ∃ since tries,
      -- A new place in the queue.
      ((t'.journal = ⟨n, k, e, fate⟩ :: t.journal ∧ t'.queue = t.queue ++ [⟨n, ⟨k, e, since, tries⟩⟩]) ∨
      -- The place of an older event.
      ∃ before w after, t.queue = before ++ w :: after ∧ w.alert.channel = k ∧
        w.alert.event.category = e.category ∧
        t'.journal = ⟨w.place, k, w.alert.event, .lost (.superseded n)⟩ :: ⟨n, k, e, fate⟩ :: t.journal ∧
        t'.queue = before ++ ⟨n, ⟨k, e, since, tries⟩⟩ :: after)) := by
  simp only [perform, entries, queueAfter]
  cases hf : t.round.offerFate d now e k with
  | none => exact .inl ⟨(Round.not_for_of_offerFate hf).1, by simp⟩
  | some fate =>
    refine .inr ⟨fate, rfl, ?_⟩
    by_cases hr : fate.refused = true ∧ e.severity = .critical
    · rcases Waiting.requeue_of n k e now t.queue with
        ⟨hnone, hq⟩ | ⟨before, w, after, since, tries, hq, hk, hc, hsome, hnew⟩
      · exact .inr ⟨hr.1, hr.2, now, 1, .inl ⟨by simp [hnone], by simp [hr, hq]⟩⟩
      · refine .inr ⟨hr.1, hr.2, since, tries, .inr ⟨before, w, after, hq, hk, hc, ?_, ?_⟩⟩
        · simp [hr, hsome]
        · simp [hr, hnew]
    · exact .inl ⟨hr, by simp [hr], by simp [hr]⟩

/-! ## The order of the entries -/

/-- The number of a step among all steps for new events, four for each. -/
def rank (place : Nat) : Channel → Nat
  | .primary => 4 * place
  | .secondary => 4 * place + 1
  | .emergency => 4 * place + 2

end Trail

/-- The rank of an entry about a new event. Retries and losses have none. -/
def Entry.rank? (x : Entry) : Option Nat :=
  match x.fate with
  | .withheld _ | .sent _ => some (Trail.rank x.place x.channel)
  | .clears => some (4 * x.place + 3)
  | _ => none

/-- The rank of a step for a new event. -/
def Step.rank? : Step → Option Nat
  | .retry _ _ _ => none
  | .offer _ n _ k => some (Trail.rank n k)
  | .close n _ => some (4 * n + 3)

theorem Step.ranks_ofEvents (now : Instant) (n : Nat) (events : List AlertEvent) :
    (ofEvents now n events).filterMap rank? = List.range' (4 * n) (4 * events.length) := by
  induction events generalizing n with
  | nil => rfl
  | cons e rest ih =>
    have hlen : 4 * (e :: rest).length = 4 * rest.length + 4 := by rw [List.length_cons]; omega
    rw [hlen]
    simp only [ofEvents, List.filterMap_cons, rank?, Trail.rank, ih, List.range'_succ]
    congr 4

namespace Trail

variable {d : Dispatcher} {t : Trail} {c : Call} {s : Step} {todo : List Step}

/-- The ranks of what was done and then of what is to be done. -/
def ranks (todo : List Step) (t : Trail) : List Nat :=
  (t.journal.filterMap Entry.rank?).reverse ++ todo.filterMap Step.rank?

/-- What is done once is done in the order of the places and channels. -/
structure Ordered (todo : List Step) (t : Trail) : Prop where
  ascending : (ranks todo t).Pairwise (· < ·)
  told : ∀ r ∈ ranks todo t, r < 4 * t.told.length

theorem ranks_entries : (t.entries d s).filterMap Entry.rank? = [] ∨
    (t.entries d s).filterMap Entry.rank? = s.rank?.toList := by
  cases s with
  | retry now recovered w =>
    left
    simp only [entries]
    rcases Round.retry_of now recovered t.round w.alert with
      ⟨why, -, hf, -⟩ | ⟨line, -, ⟨u, -, hf, -⟩ | ⟨why, -, hf, -⟩⟩ <;> rw [hf] <;> rfl
  | offer now n e k =>
    simp only [entries]
    cases hf : t.round.offerFate d now e k with
    | none => exact .inl rfl
    | some fate =>
      right
      rw [List.filterMap_append]
      have hlost : ((if fate.refused = true ∧ e.severity = .critical then
          (Waiting.replaced? k e t.queue).toList.map fun w =>
            (⟨w.place, k, w.alert.event, .lost (.superseded n)⟩ : Entry)
          else []).filterMap Entry.rank?) = [] := by
        split
        · cases Waiting.replaced? k e t.queue <;> rfl
        · rfl
      rw [hlost]
      rcases (Round.offerFate_of hf).2.2 with ⟨why, rfl, -⟩ | ⟨answer, rfl, -⟩ <;> rfl
  | close n e =>
    simp only [entries]
    split
    · exact .inr rfl
    · exact .inl rfl

theorem ranks_perform : (ranks todo (t.perform d s)).Sublist (ranks (s :: todo) t) := by
  have hs : (s :: todo).filterMap Step.rank? = s.rank?.toList ++ todo.filterMap Step.rank? := by
    cases h : s.rank? <;> simp [h]
  simp only [ranks, perform, hs, List.filterMap_append, List.reverse_append, List.append_assoc]
  refine List.Sublist.append_left ?_ _
  rcases ranks_entries (d := d) (t := t) (s := s) with h | h <;> rw [h]
  · exact List.sublist_append_right _ _
  · cases s.rank? <;> exact List.Sublist.refl _

theorem Ordered.first {r : Round} : Ordered [] { round := r } :=
  ⟨List.Pairwise.nil, by simp [ranks]⟩

theorem Ordered.perform (h : Ordered (s :: todo) t) : Ordered todo (t.perform d s) :=
  ⟨h.ascending.sublist ranks_perform, fun r hr => h.told r (ranks_perform.subset hr)⟩

theorem Ordered.begin (h : Ordered [] t) (c : Call) : Ordered (t.plan c) (t.begin c) := by
  have hr : ranks (t.plan c) (t.begin c) =
      ranks [] t ++ List.range' (4 * t.told.length) (4 * c.events.length) := by
    have hnone : (t.queue.map (Step.retry c.now c.recovered)).filterMap Step.rank? = [] := by
      rw [List.filterMap_map]
      exact List.filterMap_eq_nil_iff.2 (fun w _ => rfl)
    simp [ranks, plan, Trail.begin, hnone, Step.ranks_ofEvents]
  refine ⟨?_, ?_⟩
  · rw [hr, List.pairwise_append]
    refine ⟨h.ascending, List.pairwise_lt_range', ?_⟩
    intro r hrank r' hr'
    have := h.told r hrank
    have := (List.mem_range'_1.1 hr').1
    omega
  · rw [hr]
    intro r hrank
    rw [Trail.begin, List.length_append]
    rcases List.mem_append.1 hrank with hrank | hrank
    · have := h.told r hrank
      omega
    · have := (List.mem_range'_1.1 hrank).2
      omega

/-- A step for a new event ranks above all that was noted before. -/
theorem Ordered.rank_lt {x : Entry} {r r' : Nat} (h : Ordered (s :: todo) t) (hx : x ∈ t.journal)
    (hr : x.rank? = some r) (hs : s.rank? = some r') : r < r' := by
  refine (List.pairwise_append.1 h.ascending).2.2 r ?_ r' ?_
  · exact List.mem_reverse.2 (List.mem_filterMap.2 ⟨x, hx, hr⟩)
  · exact List.mem_filterMap.2 ⟨s, List.mem_cons_self, hs⟩

/-- A later entry ranks above an earlier one. -/
theorem Ordered.rank_lt_of_later {later earlier : List Entry} {x y : Entry} {r r' : Nat}
    (h : Ordered todo t) (hj : t.journal = later ++ y :: earlier) (hx : x ∈ earlier)
    (hr : x.rank? = some r) (hr' : y.rank? = some r') : r < r' := by
  have hasc := List.pairwise_reverse.1 (List.pairwise_append.1 h.ascending).1
  rw [hj, List.filterMap_append, List.filterMap_cons, hr'] at hasc
  have hy := List.pairwise_cons.1 (List.pairwise_append.1 hasc).2.1
  exact hy.1 r (List.mem_filterMap.2 ⟨x, hx, hr⟩)

/-! ## Places -/

/-- Every place is that of its event. -/
structure Placed (todo : List Step) (t : Trail) : Prop where
  entries : ∀ x ∈ t.journal, t.told[x.place]? = some x.event
  queue : ∀ w ∈ t.queue, t.told[w.place]? = some w.alert.event
  steps : ∀ s ∈ todo, t.told[s.place]? = some s.event

theorem Placed.first {r : Round} : Placed [] { round := r } :=
  ⟨by simp, by simp, by simp⟩

theorem told_begin {n : Nat} {e : AlertEvent} (h : t.told[n]? = some e) :
    (t.begin c).told[n]? = some e := by
  obtain ⟨hn, -⟩ := List.getElem?_eq_some_iff.1 h
  rw [Trail.begin, List.getElem?_append_left hn, h]

theorem Placed.begin (h : Placed [] t) (c : Call) : Placed (t.plan c) (t.begin c) := by
  refine ⟨fun x hx => told_begin (h.entries x hx), by simp [Trail.begin], ?_⟩
  intro s hs
  rcases List.mem_append.1 hs with hs | hs
  · obtain ⟨w, hw, rfl⟩ := List.mem_map.1 hs
    exact told_begin (h.queue w hw)
  · obtain ⟨⟨i, hp, he⟩, -⟩ := Step.mem_ofEvents hs
    rw [hp, Trail.begin, List.getElem?_append_right (by omega), Nat.add_sub_cancel_left, he]

theorem Placed.perform (h : Placed (s :: todo) t) : Placed todo (t.perform d s) := by
  have hs := h.steps s List.mem_cons_self
  have hsteps : ∀ s ∈ todo, t.told[s.place]? = some s.event :=
    fun s hs => h.steps s (List.mem_cons_of_mem _ hs)
  cases s with
  | retry now recovered w =>
    refine ⟨?_, ?_, hsteps⟩
    · intro x hx
      rcases List.mem_cons.1 hx with rfl | hx
      · exact hs
      · exact h.entries x hx
    · intro v hv
      rcases List.mem_append.1 hv with hv | hv
      · exact h.queue v hv
      · split at hv
        · obtain rfl := List.mem_singleton.1 hv
          exact hs
        · cases hv
  | offer now n e k =>
    rcases offer_of d t now n e k with
      ⟨-, hj, hq⟩ | ⟨fate, -, ⟨-, hj, hq⟩ | ⟨-, -, since, tries,
        ⟨hj, hq⟩ | ⟨before, w, after, hbefore, -, -, hj, hq⟩⟩⟩
    · exact ⟨by rw [hj]; exact h.entries, by rw [hq]; exact h.queue, hsteps⟩
    · refine ⟨?_, by rw [hq]; exact h.queue, hsteps⟩
      rw [hj]
      exact List.forall_mem_cons.2 ⟨hs, h.entries⟩
    · refine ⟨?_, ?_, hsteps⟩
      · rw [hj]
        exact List.forall_mem_cons.2 ⟨hs, h.entries⟩
      · rw [hq]
        exact List.forall_mem_append.2 ⟨h.queue, List.forall_mem_singleton.2 hs⟩
    · have hqueue := h.queue
      rw [hbefore, List.forall_mem_append, List.forall_mem_cons] at hqueue
      refine ⟨?_, ?_, hsteps⟩
      · rw [hj]
        exact List.forall_mem_cons.2 ⟨hqueue.2.1, List.forall_mem_cons.2 ⟨hs, h.entries⟩⟩
      · rw [hq]
        exact List.forall_mem_append.2 ⟨hqueue.1, List.forall_mem_cons.2 ⟨hs, hqueue.2.2⟩⟩
  | close n e =>
    refine ⟨?_, h.queue, hsteps⟩
    intro x hx
    rcases List.mem_append.1 hx with hx | hx
    · simp only [Trail.entries] at hx
      split at hx
      · obtain rfl := List.mem_singleton.1 hx
        exact hs
      · cases hx
    · exact h.entries x hx

/-! ## After every run -/

theorem ordered (d : Dispatcher) (calls : List Call) : Ordered [] (d.trail calls) := by
  refine Dispatcher.trail_keeps (P := Ordered) Ordered.first ?_ ?_ calls
  · intro t c h
    exact h.begin c
  · intro s todo t h
    exact h.perform

theorem placed (d : Dispatcher) (calls : List Call) : Placed [] (d.trail calls) := by
  refine Dispatcher.trail_keeps (P := Placed) Placed.first ?_ ?_ calls
  · intro t c h
    exact h.begin c
  · intro s todo t h
    exact h.perform

/-- The trail is that of the run: it ends with the same result, its journal
and its queue say what was attempted and reported and what waits, its places
are the numbers of the events, and new events have their entries in this order. -/
structure Faithful (d : Dispatcher) (calls : List Call) (t : Trail) : Prop where
  outcome : t.outcome d = d.run calls
  kept : t.Kept
  told : t.told = calls.flatMap Call.events
  placed : Placed [] t
  ordered : Ordered [] t

theorem faithful (d : Dispatcher) (calls : List Call) : Faithful d calls (d.trail calls) :=
  ⟨outcome_trail d calls, kept d calls, told_trail d calls, placed d calls, ordered d calls⟩

end Trail

end ValidatorWatch
