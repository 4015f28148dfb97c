import ValidatorWatch.Proofs.Dispatch.Places
import ValidatorWatch.Proofs.Time.Differences
/-!
# Cooldowns

What the ledger keeps for the cooldowns is the time of the latest delivery in
the journal, on the emergency channel of the latest since the last recovery
(`Trail.Spaced`). So a new event goes out only when a cooldown has passed since
the event of the delivery before it. Were these events told in order, all
deliveries would be that far apart. But a retry delivers an older event, and
then the cooldown counts from that one again: `cooldown_between_deliveries`
has the exact bound, and `retry_cuts_cooldown` a run in which the second of two
new events comes too early.
-/

namespace ValidatorWatch

open Time (Instant Span)

namespace Fate

/-- A new event was delivered. -/
def ordinary : Fate → Bool
  | .sent (.ok _) => true
  | _ => false

/-- A waiting event was delivered. -/
def retried : Fate → Bool
  | .resent (.ok _) => true
  | _ => false

def isClears : Fate → Bool
  | .clears => true
  | _ => false

theorem accepted_of_ordinary {f : Fate} (h : f.ordinary = true) : f.accepted = true := by
  cases f with
  | sent answer => cases answer with
    | ok u => rfl
    | error why => cases h
  | withheld | resent | lost | clears => cases h

theorem ordinary_or_retried {f : Fate} (h : f.accepted = true) : f.ordinary = true ∨ f.retried = true := by
  cases f with
  | sent answer => cases answer with
    | ok u => exact .inl rfl
    | error why => cases h
  | resent answer => cases answer with
    | ok u => exact .inr rfl
    | error why => cases h
  | withheld | lost | clears => cases h

end Fate

theorem Entry.rank?_of_ordinary {x : Entry} (h : x.fate.ordinary = true) :
    x.rank? = some (Trail.rank x.place x.channel) := by
  cases hf : x.fate with
  | sent answer => rw [Entry.rank?, hf]
  | withheld | resent | lost | clears => rw [hf] at h; cases h

theorem Entry.rank?_of_isClears {x : Entry} (h : x.fate.isClears = true) :
    x.rank? = some (4 * x.place + 3) := by
  cases hf : x.fate with
  | clears => rw [Entry.rank?, hf]
  | withheld | sent | resent | lost => rw [hf] at h; cases h

/-- The cooldown of a channel. -/
def Dispatcher.cooldownOf (d : Dispatcher) : Channel → Span
  | .emergency => d.emergencyCooldown
  | _ => d.cooldown

namespace Entry

/-- The latest delivery in a journal of which the cooldown of this event
counts. A recovery ends the cooldown of the emergency channel. -/
def previous? (k : Channel) (c : Category) (journal : List Entry) : Option Entry :=
  match k with
  | .emergency =>
    (journal.takeWhile fun x => !x.fate.isClears).find? fun x =>
      x.fate.accepted && x.channel = .emergency
  | k => journal.find? (tells · k c)

theorem previous?_broadcast {k : Channel} (hk : k ≠ .emergency) (c : Category) (journal : List Entry) :
    previous? k c journal = journal.find? (tells · k c) := by
  cases k with
  | emergency => exact absurd rfl hk
  | primary | secondary => rfl

theorem previous?_emergency_cons (c : Category) (x : Entry) (journal : List Entry) :
    previous? .emergency c (x :: journal) =
      if x.fate.isClears then none
      else if x.fate.accepted = true ∧ x.channel = .emergency then some x
      else previous? .emergency c journal := by
  unfold previous?
  cases hc : x.fate.isClears with
  | true => simp [hc]
  | false =>
    by_cases hx : x.fate.accepted = true ∧ x.channel = .emergency
    · simp [hc, hx]
    · rw [List.takeWhile_cons_of_pos (by simp [hc]), List.find?_cons_of_neg (by simpa using hx)]
      simp [hx]

end Entry

/-- Every new event of a journal came after the cooldown. -/
def Dispatcher.Spaces (d : Dispatcher) (journal : List Entry) : Prop :=
  ∀ y earlier, y :: earlier <:+ journal → y.fate.ordinary = true →
    (y.channel = .emergency ∨ y.event.category ≠ .extendedReport) →
      ∀ z, Entry.previous? y.channel y.event.category earlier = some z →
        d.cooldownOf y.channel ≤ y.event.time - z.event.time

theorem Dispatcher.Spaces.cons {d : Dispatcher} {journal : List Entry} {x : Entry} (h : d.Spaces journal)
    (hx : x.fate.ordinary = true → (x.channel = .emergency ∨ x.event.category ≠ .extendedReport) →
      ∀ z, Entry.previous? x.channel x.event.category journal = some z →
        d.cooldownOf x.channel ≤ x.event.time - z.event.time) : d.Spaces (x :: journal) := by
  intro y earlier hs
  rcases List.suffix_cons_iff.1 hs with heq | hs
  · obtain ⟨rfl, rfl⟩ := List.cons.inj heq
    exact hx
  · exact h y earlier hs

theorem Dispatcher.Spaces.cons_of_not {d : Dispatcher} {journal : List Entry} {x : Entry}
    (h : d.Spaces journal) (hx : x.fate.ordinary = false) : d.Spaces (x :: journal) :=
  h.cons fun hord => by rw [hx] at hord; cases hord

namespace Trail

variable {d : Dispatcher} {t : Trail} {c : Call} {s : Step} {todo : List Step} {k : Channel}
  {e : AlertEvent} {z : Entry}

/-- The ledger has the times that the cooldowns count from. -/
structure Timed (t : Trail) : Prop where
  lastSentAt : ∀ k c, t.round.ledger.lastSentAt k c =
    (t.journal.find? (Entry.tells · k c)).map (·.event.time)
  lastEmergency : ∀ c, t.round.ledger.lastEmergency =
    (Entry.previous? .emergency c t.journal).map (·.event.time)

/-- What is in no cooldown comes after the cooldown. -/
theorem Timed.cooldown_le (h : t.Timed) (hc : Round.cools d e t.round k = false)
    (hx : k = .emergency ∨ e.category ≠ .extendedReport)
    (hz : Entry.previous? k e.category t.journal = some z) :
    d.cooldownOf k ≤ e.time - z.event.time := by
  by_cases hk : k = .emergency
  · subst hk
    have hlast := h.lastEmergency e.category
    rw [hz, Option.map_some] at hlast
    rw [Round.cools, Round.inEmergencyCooldown, hlast] at hc
    exact Int.not_lt.1 (of_decide_eq_false hc)
  · have hcool : d.cooldownOf k = d.cooldown := by
      cases k with
      | emergency => exact absurd rfl hk
      | primary | secondary => rfl
    have hlast := h.lastSentAt k e.category
    rw [← Entry.previous?_broadcast hk, hz, Option.map_some] at hlast
    have hcat : e.category ≠ .extendedReport := hx.resolve_left hk
    rw [Round.cools_broadcast hk, Round.inCooldown, hlast] at hc
    simp only [hcat, ne_eq, not_false_eq_true, decide_true, Bool.true_and] at hc
    rw [hcool]
    exact Int.not_lt.1 (of_decide_eq_false hc)

theorem Timed.begin (h : t.Timed) : (t.begin c).Timed :=
  ⟨h.lastSentAt, h.lastEmergency⟩

theorem Timed.perform (h : t.Timed) : (t.perform d s).Timed := by
  refine ⟨fun k c => ?_, fun c => ?_⟩
  · refine noted_perform (R := fun journal r =>
      r.ledger.lastSentAt k c = (journal.find? (Entry.tells · k c)).map (·.event.time)) ?_
      (h.lastSentAt k c)
    intro journal r x r' hr hn
    rw [hn.lastSentAt, List.find?_cons]
    cases x.tells k c with
    | true => rfl
    | false => exact hr
  · refine noted_perform (R := fun journal r =>
      r.ledger.lastEmergency = (Entry.previous? .emergency c journal).map (·.event.time)) ?_
      (h.lastEmergency c)
    intro journal r x r' hr hn
    rw [hn.lastEmergency, hr, Entry.previous?_emergency_cons]
    cases hf : x.fate with
    | clears => rfl
    | withheld | sent | resent | lost =>
      simp only [Fate.isClears, Bool.false_eq_true, if_false]
      split <;> rfl

/-- New events are delivered after the cooldown, and only recoveries end that
of the emergency channel. -/
structure Spaced (d : Dispatcher) (t : Trail) : Prop where
  timed : t.Timed
  clears : ∀ x ∈ t.journal, x.fate.isClears = true → x.event.category = .recovery
  spaces : d.Spaces t.journal

theorem Spaced.begin (h : Spaced d t) : Spaced d (t.begin c) :=
  ⟨h.timed.begin, h.clears, h.spaces⟩

theorem Spaced.retry {now : Instant} {recovered : Bool} {w : Waiting} (h : Spaced d t) :
    Spaced d (t.perform d (.retry now recovered w)) := by
  have hfate : (t.round.retryFate now recovered w.alert).isClears = false ∧
      (t.round.retryFate now recovered w.alert).ordinary = false := by
    rcases Round.retry_of now recovered t.round w.alert with
      ⟨why, -, hf, -⟩ | ⟨line, -, ⟨u, -, hf, -⟩ | ⟨why, -, hf, -⟩⟩ <;> rw [hf] <;> exact ⟨rfl, rfl⟩
  refine ⟨h.timed.perform, ?_, h.spaces.cons_of_not hfate.2⟩
  refine List.forall_mem_cons.2 ⟨?_, h.clears⟩
  intro hc
  rw [hfate.1] at hc
  cases hc

theorem Spaced.offer {now : Instant} {n : Nat} (h : Spaced d t) :
    Spaced d (t.perform d (.offer now n e k)) := by
  rcases offer_of d t now n e k with ⟨-, hj, -⟩ | ⟨fate, hf, hcases⟩
  · exact ⟨h.timed.perform, by rw [hj]; exact h.clears, by rw [hj]; exact h.spaces⟩
  obtain ⟨-, -, hfate⟩ := Round.offerFate_of hf
  have hown : d.Spaces (⟨n, k, e, fate⟩ :: t.journal) := by
    rcases hfate with ⟨why, rfl, -⟩ | ⟨answer, rfl, hcools⟩
    · exact h.spaces.cons_of_not rfl
    · exact h.spaces.cons fun _ hx z hz => h.timed.cooldown_le hcools hx hz
  have hclears : ∀ x ∈ ⟨n, k, e, fate⟩ :: t.journal, x.fate.isClears = true →
      x.event.category = .recovery := by
    refine List.forall_mem_cons.2 ⟨?_, h.clears⟩
    rcases hfate with ⟨why, rfl, -⟩ | ⟨answer, rfl, -⟩ <;> intro hc <;> cases hc
  rcases hcases with ⟨-, hj, -⟩ | ⟨-, -, _, _, ⟨hj, -⟩ | ⟨_, w, _, -, -, -, hj, -⟩⟩
  · exact ⟨h.timed.perform, by rw [hj]; exact hclears, by rw [hj]; exact hown⟩
  · exact ⟨h.timed.perform, by rw [hj]; exact hclears, by rw [hj]; exact hown⟩
  · refine ⟨h.timed.perform, ?_, by rw [hj]; exact hown.cons_of_not rfl⟩
    rw [hj]
    refine List.forall_mem_cons.2 ⟨?_, hclears⟩
    intro hc
    cases hc

theorem Spaced.close {n : Nat} (h : Spaced d t) : Spaced d (t.perform d (.close n e)) := by
  have hj : (t.perform d (.close n e)).journal =
      (if e.category = .recovery then [⟨n, .emergency, e, .clears⟩] else []) ++ t.journal := rfl
  by_cases he : e.category = .recovery
  · rw [if_pos he] at hj
    refine ⟨h.timed.perform, ?_, by rw [hj]; exact h.spaces.cons_of_not rfl⟩
    rw [hj]
    exact List.forall_mem_cons.2 ⟨fun _ => he, h.clears⟩
  · rw [if_neg he] at hj
    exact ⟨h.timed.perform, by rw [hj]; exact h.clears, by rw [hj]; exact h.spaces⟩

theorem spaced (d : Dispatcher) (calls : List Call) : Spaced d (d.trail calls) := by
  refine Dispatcher.trail_keeps (P := fun _ t => Spaced d t) ?_ ?_ ?_ calls
  · refine ⟨⟨?_, ?_⟩, by simp, ?_⟩
    · intro k c
      cases k <;> rfl
    · intro c
      rfl
    · intro y earlier hs
      exact absurd (List.suffix_nil.1 hs) (List.cons_ne_nil y earlier)
  · intro t c h
    exact h.begin
  · intro s todo t h
    cases s with
    | retry now recovered w => exact h.retry
    | offer now n e k => exact h.offer
    | close n e => exact h.close

/-! ## Two deliveries -/

/-- A cooldown is to keep these two apart, `x` the earlier one. -/
def Rivals (t : Trail) (x y : Entry) : Prop :=
  x.channel = y.channel ∧
    (y.channel ≠ .emergency ∧ x.event.category = y.event.category ∧
        y.event.category ≠ .extendedReport ∨
      y.channel = .emergency ∧ ∀ m e, x.place ≤ m → m < y.place → t.told[m]? = some e →
        e.category ≠ .recovery)

theorem find?_of_pos {p : Entry → Bool} {x : Entry} (hx : p x = true) (mid earlier : List Entry) :
    (mid ++ x :: earlier).find? p = some x ∨
      ∃ z ∈ mid, p z = true ∧ (mid ++ x :: earlier).find? p = some z := by
  rw [List.find?_append, List.find?_cons_of_pos hx]
  cases hm : mid.find? p with
  | none => exact .inl rfl
  | some z => exact .inr ⟨z, List.mem_of_find?_eq_some hm, List.find?_some hm, rfl⟩

theorem Ordered.rank_lt_of_mid {later mid earlier : List Entry} {x y z : Entry} {r r' : Nat}
    (h : Ordered todo t) (hj : t.journal = later ++ y :: (mid ++ x :: earlier)) (hz : z ∈ mid)
    (hr : x.rank? = some r) (hr' : z.rank? = some r') : r < r' := by
  obtain ⟨newer, older, rfl⟩ := List.append_of_mem hz
  have hj' : t.journal = (later ++ y :: newer) ++ z :: (older ++ x :: earlier) := by
    rw [hj]
    simp
  exact h.rank_lt_of_later hj' (by simp) hr hr'

/-- Between rivals on the emergency channel no recovery ends the cooldown. -/
theorem not_clears_of_rivals {later mid earlier : List Entry} {x y r : Entry}
    (hs : Spaced d t) (ho : Ordered [] t) (hp : Placed [] t)
    (hj : t.journal = later ++ y :: (mid ++ x :: earlier)) (hx : x.fate.ordinary = true)
    (hy : y.fate.ordinary = true) (hk : x.channel = .emergency) (hk' : y.channel = .emergency)
    (hnone : ∀ m e, x.place ≤ m → m < y.place → t.told[m]? = some e → e.category ≠ .recovery)
    (hr : r ∈ mid) : r.fate.isClears = false := by
  cases hc : r.fate.isClears with
  | false => rfl
  | true =>
    have hmem : r ∈ t.journal := by rw [hj]; simp [hr]
    have hry : 4 * r.place + 3 < rank y.place y.channel :=
      ho.rank_lt_of_later hj (List.mem_append_left _ hr) (Entry.rank?_of_isClears hc)
        (Entry.rank?_of_ordinary hy)
    have hxr : rank x.place x.channel < 4 * r.place + 3 :=
      ho.rank_lt_of_mid hj hr (Entry.rank?_of_ordinary hx) (Entry.rank?_of_isClears hc)
    rw [hk', rank] at hry
    rw [hk, rank] at hxr
    exact absurd (hs.clears r hmem hc)
      (hnone r.place r.event (by omega) (by omega) (hp.entries r hmem))

/-- The later of two rivals counts its cooldown from the earlier one or from a
delivery between them. -/
theorem previous?_of_rivals {later mid earlier : List Entry} {x y : Entry}
    (hs : Spaced d t) (ho : Ordered [] t) (hp : Placed [] t)
    (hj : t.journal = later ++ y :: (mid ++ x :: earlier)) (hx : x.fate.ordinary = true)
    (hy : y.fate.ordinary = true) (hr : t.Rivals x y) :
    Entry.previous? y.channel y.event.category (mid ++ x :: earlier) = some x ∨
      ∃ z ∈ mid, z.fate.accepted = true ∧
        Entry.previous? y.channel y.event.category (mid ++ x :: earlier) = some z := by
  have hacc := Fate.accepted_of_ordinary hx
  obtain ⟨hchannel, ⟨hk, hcat, -⟩ | ⟨hk, hnone⟩⟩ := hr
  · rw [Entry.previous?_broadcast hk]
    have hpx : x.tells y.channel y.event.category = true := by
      simp [Entry.tells, hacc, hchannel, hcat]
    rcases find?_of_pos (p := (Entry.tells · y.channel y.event.category)) hpx mid earlier with
      h | ⟨z, hz, hpz, h⟩
    · exact .inl h
    · simp only [Entry.tells, Bool.and_eq_true] at hpz
      exact .inr ⟨z, hz, hpz.1.1, h⟩
  · have hmid : ∀ r ∈ mid, (!r.fate.isClears) = true := by
      intro r hr
      rw [not_clears_of_rivals hs ho hp hj hx hy (hchannel.trans hk) hk hnone hr]
      rfl
    have hxc : (!x.fate.isClears) = true := by
      cases hf : x.fate with
      | clears => rw [hf] at hx; cases hx
      | withheld | sent | resent | lost => rfl
    rw [hk, Entry.previous?, List.takeWhile_append_of_pos hmid,
      List.takeWhile_cons_of_pos (p := fun r : Entry => !r.fate.isClears) hxc]
    have hpx : (x.fate.accepted && x.channel = .emergency) = true := by
      simp [hacc, hchannel, hk]
    rcases find?_of_pos (p := fun x => x.fate.accepted && x.channel = .emergency) hpx mid
      (earlier.takeWhile fun x => !x.fate.isClears) with h | ⟨z, hz, hpz, h⟩
    · exact .inl h
    · exact .inr ⟨z, hz, (Bool.and_eq_true_iff.1 hpz).1, h⟩

/-- Of two new events the one delivered later was told later. -/
theorem time_le_of_ordinary {later mid earlier : List Entry} {x y z : Entry} (ho : Ordered [] t)
    (hp : Placed [] t) (hsorted : t.told.Pairwise fun a b => a.time ≤ b.time)
    (hj : t.journal = later ++ y :: (mid ++ x :: earlier)) (hx : x.fate.ordinary = true) (hz : z ∈ mid)
    (hord : z.fate.ordinary = true) : x.event.time ≤ z.event.time := by
  have hrank : rank x.place x.channel < rank z.place z.channel :=
    ho.rank_lt_of_mid hj hz (Entry.rank?_of_ordinary hx) (Entry.rank?_of_ordinary hord)
  have hle : x.place ≤ z.place := by
    cases hk : x.channel <;> cases hk' : z.channel <;> simp only [hk, hk', rank] at hrank <;> omega
  obtain ⟨hxlt, hxe⟩ := List.getElem?_eq_some_iff.1 (hp.entries x (by rw [hj]; simp))
  obtain ⟨hzlt, hze⟩ := List.getElem?_eq_some_iff.1 (hp.entries z (by rw [hj]; simp [hz]))
  rcases Nat.lt_or_eq_of_le hle with hlt | heq
  · rw [← hxe, ← hze]
    exact List.pairwise_iff_getElem.1 hsorted _ _ hxlt hzlt hlt
  · have : x.event = z.event := by rw [← hxe, ← hze]; simp [heq]
    rw [this]
    exact .inr ⟨rfl, Nat.le_refl _⟩

end Trail

/-- A new event that is delivered within the cooldown of another one comes
after a retry of a still older event, and a cooldown after that one. Only in
leap seconds it may be otherwise. -/
theorem cooldown_between_deliveries (d : Dispatcher) (calls : List Call)
    (hsorted : (calls.flatMap Call.events).Pairwise fun a b => a.time ≤ b.time) :
    Trail.Faithful d calls (d.trail calls) ∧
      ∀ later y mid x earlier, (d.trail calls).journal = later ++ y :: (mid ++ x :: earlier) →
        x.fate.ordinary = true → y.fate.ordinary = true → (d.trail calls).Rivals x y →
          d.cooldownOf y.channel ≤ y.event.time - x.event.time ∨
          ∃ z ∈ mid, Entry.previous? y.channel y.event.category (mid ++ x :: earlier) = some z ∧
            d.cooldownOf y.channel ≤ y.event.time - z.event.time ∧
            (z.fate.retried = true ∧ z.event.time < x.event.time ∨
              x.event.time.inLeapSecond = true ∨ y.event.time.inLeapSecond = true ∨
              z.event.time.inLeapSecond = true) := by
  have hs := Trail.spaced d calls
  have hf := Trail.faithful d calls
  have ho := hf.ordered
  have hp := hf.placed
  refine ⟨hf, ?_⟩
  intro later y mid x earlier hj hx hy hr
  have hplain : y.channel = .emergency ∨ y.event.category ≠ .extendedReport := by
    rcases hr.2 with ⟨-, -, hcat⟩ | ⟨hk, -⟩
    · exact .inr hcat
    · exact .inl hk
  have hspaced := hs.spaces y (mid ++ x :: earlier) (by rw [hj]; exact List.suffix_append _ _) hy hplain
  rcases Trail.previous?_of_rivals hs ho hp hj hx hy hr with hprev | ⟨z, hz, hacc, hprev⟩
  · exact .inl (hspaced x hprev)
  have hyz := hspaced z hprev
  by_cases hyx : d.cooldownOf y.channel ≤ y.event.time - x.event.time
  · exact .inl hyx
  refine .inr ⟨z, hz, hprev, hyz, ?_⟩
  by_cases hleap : x.event.time.inLeapSecond = true ∨ y.event.time.inLeapSecond = true ∨
      z.event.time.inLeapSecond = true
  · exact .inr hleap
  simp only [not_or, Bool.not_eq_true] at hleap
  -- From an event that is no older the cooldown would be over for `x` too.
  have hzx : ¬ x.event.time ≤ z.event.time := by
    intro hxz
    have hle := Instant.sub_le_sub hxz hleap.1 hleap.2.1 hleap.2.2
    exact hyx (Int.le_trans hyz hle)
  rcases Fate.ordinary_or_retried hacc with hord | hret
  · rw [← hf.told] at hsorted
    exact absurd (Trail.time_le_of_ordinary ho hp hsorted hj hx hz hord) hzx
  · refine .inl ⟨hret, ?_⟩
    rw [Instant.le_def] at hzx
    rw [Instant.lt_def]
    omega

/-- One primary channel that does not take its first two messages. -/
def moody : Dispatcher where
  lines :=
    ⟨some { notifier := fun sent _ => if sent < 2 then .error (.timeout "pager") else .ok ()
            bucket := none }, none, none⟩
  cooldown := .ofSeconds 300
  emergencyCooldown := .ofSeconds 1800

/-- Three breaches within six minutes. The first is delivered last but one. -/
def threeBreaches : List Call :=
  [.alarm .resource 0, .alarm .resource 100, .alarm .resource 350]

/-- What `moody` makes of them. -/
theorem journal_threeBreaches : (moody.trail threeBreaches).journal =
    [] ++ ⟨2, .primary, alarm .resource 350, .sent (.ok ())⟩ ::
      ([⟨0, .primary, alarm .resource 0, .resent (.ok ())⟩] ++
        ⟨1, .primary, alarm .resource 100, .sent (.ok ())⟩ ::
          [⟨0, .primary, alarm .resource 0, .resent (.error (.timeout "pager"))⟩,
            ⟨0, .primary, alarm .resource 0, .sent (.error (.timeout "pager"))⟩]) := by
  rfl

/-- The third breach is delivered 250 seconds after the second. Between them is
the retry of the first. -/
theorem retry_between_breaches :
    ((threeBreaches.flatMap Call.events).Pairwise fun a b => a.time ≤ b.time) ∧
      ∃ z ∈ [(⟨0, .primary, alarm .resource 0, .resent (.ok ())⟩ : Entry)],
        z.fate.retried = true ∧ z.event.time < (alarm .resource 100).time := by
  have hsorted : (threeBreaches.flatMap Call.events).Pairwise fun a b => a.time ≤ b.time := by decide
  refine ⟨hsorted, ?_⟩
  have hlaw := (cooldown_between_deliveries moody threeBreaches hsorted).2 _ _ _ _ _
    journal_threeBreaches rfl rfl ⟨rfl, .inl ⟨by decide, rfl, by decide⟩⟩
  rcases hlaw with h | ⟨z, hz, -, -, h | h⟩
  · exact absurd h (by decide)
  · exact ⟨z, hz, h⟩
  · obtain rfl := List.mem_singleton.1 hz
    exact absurd h (by decide)

/-- A retry of an older event moves the cooldown back, so that two new events
are delivered within it. -/
theorem retry_cuts_cooldown :
    ¬ ∀ (d : Dispatcher) (calls : List Call), (∀ k, Span.ofSeconds 0 ≤ d.cooldownOf k) →
      (calls.Pairwise fun a b => a.now ≤ b.now) →
      ((calls.flatMap Call.events).Pairwise fun a b => a.time ≤ b.time) →
      ∀ later y mid x earlier, (d.trail calls).journal = later ++ y :: (mid ++ x :: earlier) →
        x.fate.ordinary = true → y.fate.ordinary = true → (d.trail calls).Rivals x y →
          d.cooldownOf y.channel ≤ y.event.time - x.event.time := by
  intro h
  have hlaw := h moody threeBreaches (by intro k; cases k <;> decide) (by decide) (by decide) _ _ _ _ _
    journal_threeBreaches rfl rfl ⟨rfl, .inl ⟨by decide, rfl, by decide⟩⟩
  exact absurd hlaw (by decide)

end ValidatorWatch
