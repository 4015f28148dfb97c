import Mathlib.Tactic.MkIffOfInductiveProp
import ValidatorWatch.Proofs.Document.Json
import ValidatorWatch.Proofs.Time.Stamp
import ValidatorWatch.Validator.Encoding
/-!
# States are read back from documents

For each type with a document form: what is written for a value can be put into
a text, and is read as that value. `Kept` joins the two. `Storable` says of
each type which values that holds for: those with finite figures, counters of
32 or 64 bits, and instants in the years of the calendar.
-/

namespace ValidatorWatch

open Document Document.Json
open Time (Instant)

/-- A value's document can be written, with so many levels, and is read back. -/
structure Kept {α : Type} (write : α → Value) (read : Value → Option α) (levels : Nat) (a : α) : Prop where
  writable : Writable levels (write a)
  read_eq : read (write a) = some a

namespace Document

theorem Json.Writable.mono {v : Value} {levels more : Nat} (h : Writable levels v) (hle : levels ≤ more) :
    Writable more v := by
  induction levels generalizing more v with
  | zero =>
    have hleaf : IsLeaf v := by cases v <;> exact h
    cases v <;> first | exact hleaf.elim | (cases more <;> exact hleaf)
  | succ levels ih =>
    obtain ⟨more, rfl⟩ : ∃ n, more = n + 1 := ⟨more - 1, by omega⟩
    cases v with
    | arr vs => exact fun v hv => ih (h v hv) (by omega)
    | obj ms => exact fun m hm => ih (h m hm) (by omega)
    | _ => exact h

/-- The members of a record that was written with names. -/
def Fields.named (members : List (String × Value)) : Fields :=
  ⟨fun n => members.lookup n, false⟩

/-- A record in which no name occurs twice is looked up by name. -/
theorem Value.fields?_obj {names : List String} {members : List (String × Value)}
    (h : (members.map Prod.fst).Nodup) :
    Value.fields? names (.obj members) = some (.named members) := by
  have hcount (n : String) : members.countP (fun m => m.1 = n) ≤ 1 := by
    have hc := List.nodup_iff_count_le_one.1 h n
    rw [List.count, List.countP_map] at hc
    exact hc
  have hany : (names.any fun n => decide (2 ≤ members.countP fun m => decide (m.1 = n))) = false := by
    rw [List.any_eq_false]
    intro n _
    have := hcount n
    simp only [decide_eq_true_eq]
    omega
  rw [Value.fields?, Value.fieldsIn?, hany]
  simp [Format.passesOver, Fields.named]

theorem Value.bind_fields?_obj {names : List String} {members : List (String × Value)} {β : Type}
    {rest : Fields → Option β} {b : β} (h : (members.map Prod.fst).Nodup)
    (hrest : rest (.named members) = some b) : (Value.fields? names (.obj members) >>= rest) = some b := by
  rw [fields?_obj h]
  exact hrest

namespace Fields

variable {α : Type} {members : List (String × Value)} {name : String} {read : Value → Option α}

theorem required?_named :
    (named members).required? name read = (members.lookup name).bind read := rfl

theorem optional?_named : (named members).optional? name read =
    ((members.lookup name).map (Value.optional? read)).getD (some none) := by
  simp only [optional?, named]
  cases members.lookup name <;> rfl

theorem withDefault?_named {default : α} : (named members).withDefault? name default read =
    ((members.lookup name).map read).getD (some default) := by
  simp only [withDefault?, named]
  cases members.lookup name <;> rfl

end Fields

end Document

/-! ## Values without parts -/

theorem kept_nat {bits n : Nat} (hbits : bits ≤ 64) (h : n < 2 ^ bits) :
    Kept .nat (Value.nat? bits) 0 n := by
  have h64 : 2 ^ bits ≤ 2 ^ 64 := Nat.pow_le_pow_right (by decide) hbits
  refine ⟨⟨?_, ?_⟩, ?_⟩
  · omega
  · omega
  · have hrange : (0 : Int) ≤ n ∧ (n : Int) < (Nat.pow 2 bits : Nat) := by
      simp only [Nat.pow_eq]
      omega
    rw [Value.nat, Value.nat?, if_pos hrange, Int.toNat_natCast]

theorem kept_float {x : Float} (h : x.isFinite = true) : Kept .float Value.real? 0 x :=
  ⟨h, rfl⟩

theorem kept_bool (b : Bool) : Kept .bool Value.bool? 0 b :=
  ⟨trivial, rfl⟩

theorem kept_text (s : String) : Kept .str Value.text? 0 s :=
  ⟨trivial, rfl⟩

theorem kept_instant {t : Instant} (h : Instant.InYears t.date.year) :
    Kept .ofInstant Value.instant? 0 t :=
  ⟨trivial, Instant.ofStamp?_stamp t h⟩

theorem kept_word {α : Type} {name : α → String} {ofName? : String → Option α} {a : α}
    (h : ofName? (name a) = some a) : Kept (fun a => .str (name a)) (Value.word? ofName?) 0 a :=
  ⟨trivial, h⟩

namespace Kept

variable {α : Type} {write : α → Value} {read : Value → Option α} {levels more : Nat} {a : α}

theorem mono (h : Kept write read levels a) (hle : levels ≤ more) : Kept write read more a :=
  ⟨h.writable.mono hle, h.read_eq⟩

theorem ofOption {x : Option α} (hnull : read .null = none) (h : ∀ a ∈ x, Kept write read levels a) :
    Kept (.ofOption write) (Value.optional? read) levels x := by
  cases x with
  | none =>
    have hleaf : Writable 0 .null := trivial
    exact ⟨hleaf.mono (Nat.zero_le _), rfl⟩
  | some a =>
    have ha := h a rfl
    refine ⟨ha.writable, ?_⟩
    rw [Value.ofOption, Value.optional?.eq_def]
    split
    next heq => rw [← ha.read_eq, heq, hnull]
    next => rw [ha.read_eq]; rfl

theorem ofList {xs : List α} (h : ∀ a ∈ xs, Kept write read levels a) :
    Kept (.ofList write) (Value.listOf? read) (levels + 1) xs := by
  refine ⟨?_, ?_⟩
  · intro v hv
    obtain ⟨a, ha, rfl⟩ := List.mem_map.1 hv
    exact (h a ha).writable
  · show (xs.map write).mapM read = some xs
    induction xs with
    | nil => rfl
    | cons a xs ih =>
      rw [List.map_cons, List.mapM_cons, (h a (by simp)).read_eq, ih fun a ha => h a (by simp [ha])]
      rfl

end Kept

/-! ## Members

A record is read member by member. Each of these lemmas reads one and leaves the others. -/

namespace Kept

variable {α β : Type} {write : α → Value} {read : Value → Option α} {levels : Nat} {a : α} {b : β}
  {members : List (String × Value)} {name : String} {others : α → Option β}

theorem required (h : Kept write read levels a) (hfind : members.lookup name = some (write a))
    (hothers : others a = some b) : ((Fields.named members).required? name read >>= others) = some b := by
  rw [Fields.required?_named, hfind, Option.bind_some, h.read_eq]
  exact hothers

theorem optional {write : Option α → Value} {x : Option α} {others : Option α → Option β}
    (h : Kept write (Value.optional? read) levels x)
    (hfind : members.lookup name = some (write x)) (hothers : others x = some b) :
    ((Fields.named members).optional? name read >>= others) = some b := by
  rw [Fields.optional?_named, hfind, Option.map_some, Option.getD_some, h.read_eq]
  exact hothers

theorem withDefault {default : α} (h : Kept write read levels a)
    (hfind : members.lookup name = some (write a)) (hothers : others a = some b) :
    ((Fields.named members).withDefault? name default read >>= others) = some b := by
  rw [Fields.withDefault?_named, hfind, Option.map_some, Option.getD_some, h.read_eq]
  exact hothers

end Kept

/-! ## Maps from categories and channels -/

/-- What is written for the keys of a list is read into a map, over what the
map had for the others. -/
theorem foldlM_members {K M α : Type} [DecidableEq K] {get : M → K → Option α} {set : M → K → Option α → M}
    {name : K → String} {ofName? : String → Option K} {write : α → Value} {read : Value → Option α} {m : M}
    (hname : ∀ k, ofName? (name k) = some k)
    (hget : ∀ m k a j, get (set m k a) j = if j = k then a else get m j)
    (h : ∀ k, ∀ a ∈ get m k, read (write a) = some a) (ks : List K) (base : M) :
    ∃ n, (ks.filterMap fun k => (get m k).map fun a => (name k, write a)).foldlM (fun m e => do
        let k ← ofName? e.1
        let a ← read e.2
        return set m k (some a)) base = some n ∧
      ∀ k, get n k = if k ∈ ks then (get m k).or (get base k) else get base k := by
  induction ks generalizing base with
  | nil => exact ⟨base, rfl, fun k => by simp⟩
  | cons k ks ih =>
    cases hk : get m k with
    | none =>
      obtain ⟨n, hn, hn'⟩ := ih base
      refine ⟨n, by rw [List.filterMap_cons_none (by simp [hk]), hn], fun j => ?_⟩
      rw [hn' j]
      by_cases hj : j = k
      · subst hj; simp [hk]
      · simp [hj]
    | some a =>
      obtain ⟨n, hn, hn'⟩ := ih (set base k (some a))
      refine ⟨n, ?_, fun j => ?_⟩
      · rw [List.filterMap_cons_some (b := (name k, write a)) (by simp [hk]), List.foldlM_cons]
        simp only [hname, h k a hk, Option.bind_eq_bind, Option.bind_some, Option.pure_def]
        exact hn
      · rw [hn' j, hget]
        by_cases hj : j = k
        · subst hj; simp [hk]
        · simp [hj]

namespace Kept

variable {α : Type} {write : α → Value} {read : Value → Option α} {levels : Nat}

theorem byCategory {m : ByCategory (Option α)} (h : ∀ c, ∀ a ∈ m.get c, Kept write read levels a) :
    Kept (ByCategory.toValue write) (ByCategory.ofValue? read) (levels + 1) m := by
  refine ⟨?_, ?_⟩
  · intro e he
    obtain ⟨c, -, hc⟩ := List.mem_filterMap.1 he
    obtain ⟨a, ha, rfl⟩ := Option.map_eq_some_iff.1 hc
    exact (h c a ha).writable
  · obtain ⟨n, hn, hn'⟩ := foldlM_members (m := m) Category.ofName?_name
      (fun m k a j => ByCategory.get_set m k a j) (fun c a ha => (h c a ha).read_eq) Category.all
      (.ofFn fun _ => none)
    have hm : n = m := by
      ext1 c
      rw [hn' c, if_pos (by cases c <;> decide), ByCategory.get_ofFn, Option.or_none]
    rw [← hm]
    exact hm ▸ hn

theorem byChannel {m : ByChannel (Option α)} (h : ∀ c, ∀ a ∈ m.get c, Kept write read levels a) :
    Kept (ByChannel.toValue write) (ByChannel.ofValue? read) (levels + 1) m := by
  refine ⟨?_, ?_⟩
  · intro e he
    obtain ⟨c, -, hc⟩ := List.mem_filterMap.1 he
    obtain ⟨a, ha, rfl⟩ := Option.map_eq_some_iff.1 hc
    exact (h c a ha).writable
  · obtain ⟨n, hn, hn'⟩ := foldlM_members (m := m) Channel.ofName?_name
      (fun m k a j => ByChannel.get_set m k a j) (fun c a ha => (h c a ha).read_eq) Channel.all
      (.ofFn fun _ => none)
    have hm : n = m := by
      ext1 c
      rw [hn' c, if_pos (by cases c <;> decide), ByChannel.get_ofFn, Option.or_none]
    rw [← hm]
    exact hm ▸ hn

end Kept

/-! ## Records -/

theorem kept_figure {x : Option Float} (h : ∀ y ∈ x, y.isFinite = true) :
    Kept figureValue (Value.optional? Value.real?) 0 x :=
  Kept.ofOption rfl fun y hy => kept_float (h y hy)

theorem kept_count {n : Option Nat} (h : ∀ k ∈ n, k < 2 ^ 64) :
    Kept countValue (Value.optional? (Value.nat? 64)) 0 n :=
  Kept.ofOption rfl fun k hk => kept_nat (Nat.le_refl _) (h k hk)

theorem kept_flag (b : Option Bool) : Kept flagValue (Value.optional? Value.bool?) 0 b :=
  Kept.ofOption rfl fun b _ => kept_bool b

theorem kept_moment {t : Option Instant} (h : ∀ u ∈ t, Instant.InYears u.date.year) :
    Kept instantValue (Value.optional? Value.instant?) 0 t :=
  Kept.ofOption rfl fun u hu => kept_instant (h u hu)

/-- The figures are finite. -/
@[mk_iff]
structure ResourceUsage.Storable (u : ResourceUsage) : Prop where
  cpu : ∀ x ∈ u.cpu, x.isFinite = true
  memory : ∀ x ∈ u.memory, x.isFinite = true
  disk : ∀ x ∈ u.disk, x.isFinite = true

theorem ResourceUsage.kept {u : ResourceUsage} (h : u.Storable) : Kept toValue ofValue? 1 u := by
  have hcpu := kept_figure h.cpu
  have hmemory := kept_figure h.memory
  have hdisk := kept_figure h.disk
  refine ⟨?_, ?_⟩
  · simp only [toValue, Writable, List.forall_mem_cons]
    exact ⟨hcpu.writable, hmemory.writable, hdisk.writable, by simp⟩
  · rw [ofValue?, toValue]
    refine Value.bind_fields?_obj (by simp) ?_
    exact hcpu.optional rfl <| hmemory.optional rfl <| hdisk.optional rfl rfl

/-- The figure is finite and the counters have 64 bits. -/
@[mk_iff]
structure UptimeData.Storable (u : UptimeData) : Prop where
  percent : ∀ x ∈ u.percent, x.isFinite = true
  finalized : ∀ n ∈ u.finalized, n < 2 ^ 64
  timeouts : ∀ n ∈ u.timeouts, n < 2 ^ 64

theorem UptimeData.kept {u : UptimeData} (h : u.Storable) : Kept toValue ofValue? 1 u := by
  have hpercent := kept_figure h.percent
  have hfinalized := kept_count h.finalized
  have htimeouts := kept_count h.timeouts
  have hsource := kept_word (UptimeSource.ofName?_name u.source)
  refine ⟨?_, ?_⟩
  · simp only [toValue, Writable, List.forall_mem_cons]
    exact ⟨hpercent.writable, hfinalized.writable, htimeouts.writable, hsource.writable, by simp⟩
  · rw [ofValue?, toValue]
    refine Value.bind_fields?_obj (by simp) ?_
    exact hpercent.optional rfl <| hfinalized.optional rfl <| htimeouts.optional rfl <|
      hsource.required rfl rfl

/-- The counters, the figures and the instants of a report can be stored. -/
@[mk_iff]
structure ExtendedReport.Storable (r : ExtendedReport) : Prop where
  windowStarted : Instant.InYears r.windowStarted.date.year
  windowEnded : Instant.InYears r.windowEnded.date.year
  checks : r.checks < 2 ^ 64
  healthyChecks : r.healthyChecks < 2 ^ 64
  failedChecks : r.failedChecks < 2 ^ 64
  downEpisodes : r.downEpisodes < 2 ^ 64
  availability : ∀ x ∈ r.availability, x.isFinite = true
  consecutiveFailures : r.consecutiveFailures < 2 ^ 32
  uptime : ∀ u ∈ r.uptime, u.Storable
  resources : r.resources.Storable

theorem ExtendedReport.kept {r : ExtendedReport} (h : r.Storable) : Kept toValue ofValue? 2 r := by
  have hstarted := kept_instant h.windowStarted
  have hended := kept_instant h.windowEnded
  have hchecks := kept_nat (Nat.le_refl _) h.checks
  have hhealthy := kept_nat (Nat.le_refl _) h.healthyChecks
  have hfailed := kept_nat (Nat.le_refl _) h.failedChecks
  have hdown := kept_nat (Nat.le_refl _) h.downEpisodes
  have havailability := kept_figure h.availability
  have hverdict := kept_word (Verdict.ofName?_name r.verdict)
  have hstreak := kept_nat (by decide) h.consecutiveFailures
  have hmember := kept_flag r.inActiveSet
  have huptime : Kept (.ofOption UptimeData.toValue) (Value.optional? UptimeData.ofValue?) 1 r.uptime :=
    Kept.ofOption rfl fun u hu => UptimeData.kept (h.uptime u hu)
  have hresources := ResourceUsage.kept h.resources
  refine ⟨?_, ?_⟩
  · simp only [toValue, Writable, List.forall_mem_cons]
    exact ⟨hstarted.writable, hended.writable, hchecks.writable, hhealthy.writable, hfailed.writable,
      hdown.writable, (havailability.mono (by decide)).writable, hverdict.writable, hstreak.writable,
      (hmember.mono (by decide)).writable, huptime.writable, hresources.writable, by simp⟩
  · rw [ofValue?, toValue]
    refine Value.bind_fields?_obj (by simp) ?_
    exact hstarted.required rfl <| hended.required rfl <| hchecks.required rfl <|
      hhealthy.required rfl <| hfailed.required rfl <| hdown.required rfl <|
      havailability.optional rfl <| hverdict.required rfl <| hstreak.required rfl <|
      hmember.optional rfl <| huptime.optional rfl <| hresources.required rfl rfl

/-- The figures, the time and the report of an event can be stored. -/
@[mk_iff]
structure AlertEvent.Storable (e : AlertEvent) : Prop where
  height : ∀ n ∈ e.height, n < 2 ^ 64
  peers : ∀ n ∈ e.peers, n < 2 ^ 64
  uptimePercent : ∀ x ∈ e.uptimePercent, x.isFinite = true
  report : ∀ r ∈ e.report, r.Storable
  time : Instant.InYears e.time.date.year

theorem AlertEvent.kept {e : AlertEvent} (h : e.Storable) : Kept toValue ofValue? 3 e := by
  have hvalidator := kept_text e.validator
  have hseverity := kept_word (Severity.ofName?_name e.severity)
  have hcategory := kept_word (Category.ofName?_name e.category)
  have hsummary := kept_text e.summary
  have hheight := kept_count h.height
  have hpeers := kept_count h.peers
  have hpercent := kept_figure h.uptimePercent
  have hcrossed : Kept (.ofOption .str) (Value.optional? Value.text?) 0 e.thresholdCrossed :=
    Kept.ofOption rfl fun s _ => kept_text s
  have hreport : Kept (.ofOption ExtendedReport.toValue) (Value.optional? ExtendedReport.ofValue?) 2 e.report :=
    Kept.ofOption rfl fun r hr => ExtendedReport.kept (h.report r hr)
  have htime := kept_instant h.time
  refine ⟨?_, ?_⟩
  · simp only [toValue, Writable, List.forall_mem_cons]
    exact ⟨hvalidator.writable, hseverity.writable, hcategory.writable, hsummary.writable,
      (hheight.mono (by decide)).writable, (hpeers.mono (by decide)).writable,
      (hpercent.mono (by decide)).writable, (hcrossed.mono (by decide)).writable, hreport.writable,
      htime.writable, by simp⟩
  · rw [ofValue?, toValue]
    refine Value.bind_fields?_obj (by simp) ?_
    exact hvalidator.required rfl <| hseverity.required rfl <| hcategory.required rfl <|
      hsummary.required rfl <| hheight.optional rfl <| hpeers.optional rfl <|
      hpercent.optional rfl <| hcrossed.optional rfl <| hreport.optional rfl <|
      htime.required rfl rfl

/-- The event and the time of a waiting alert can be stored, and its tries
have 32 bits. -/
@[mk_iff]
structure PendingAlert.Storable (p : PendingAlert) : Prop where
  event : p.event.Storable
  firstFailedAt : Instant.InYears p.firstFailedAt.date.year
  attempts : p.attempts < 2 ^ 32

theorem PendingAlert.kept {p : PendingAlert} (h : p.Storable) : Kept toValue ofValue? 4 p := by
  have hchannel := kept_word (Channel.ofName?_name p.channel)
  have hevent := AlertEvent.kept h.event
  have hfailed := kept_instant h.firstFailedAt
  have hattempts := kept_nat (by decide) h.attempts
  refine ⟨?_, ?_⟩
  · simp only [toValue, Writable, List.forall_mem_cons]
    exact ⟨hchannel.writable, hevent.writable, hfailed.writable, hattempts.writable, by simp⟩
  · rw [ofValue?, toValue]
    refine Value.bind_fields?_obj (by simp) ?_
    exact hchannel.required rfl <| hevent.required rfl <| hfailed.required rfl <|
      hattempts.required rfl rfl

/-- The times and the waiting alerts of a ledger can be stored. -/
@[mk_iff]
structure AlertLedger.Storable (l : AlertLedger) : Prop where
  lastSent : ∀ k c, ∀ t ∈ l.lastSentAt k c, Instant.InYears t.date.year
  lastEmergency : ∀ t ∈ l.lastEmergency, Instant.InYears t.date.year
  pending : ∀ p ∈ l.pending, p.Storable

theorem AlertLedger.kept {l : AlertLedger} (h : l.Storable) : Kept toValue ofValue? 6 l := by
  have hsent : Kept (ByChannel.toValue (ByCategory.toValue Value.ofInstant))
      (ByChannel.ofValue? (ByCategory.ofValue? Value.instant?)) 2 l.lastSent := by
    refine Kept.byChannel fun k times htimes => Kept.byCategory fun c t ht => kept_instant (h.lastSent k c t ?_)
    have htimes' : l.lastSent.get k = some times := htimes
    rw [lastSentAt, htimes']
    exact ht
  have hemergency := kept_moment h.lastEmergency
  have hpending : Kept (.ofList PendingAlert.toValue) (Value.listOf? PendingAlert.ofValue?) 5 l.pending :=
    Kept.ofList fun p hp => PendingAlert.kept (h.pending p hp)
  refine ⟨?_, ?_⟩
  · simp only [toValue, Writable, List.forall_mem_cons]
    exact ⟨(hsent.mono (by decide)).writable, (hemergency.mono (by decide)).writable, hpending.writable, by simp⟩
  · rw [ofValue?, toValue]
    refine Value.bind_fields?_obj (by simp) ?_
    exact hsent.withDefault rfl <| hemergency.withDefault rfl <| hpending.withDefault rfl rfl

/-- The start of a window can be stored and its counters have 64 bits. -/
@[mk_iff]
structure UptimeWindow.Storable (w : UptimeWindow) : Prop where
  startedAt : Instant.InYears w.startedAt.date.year
  checks : w.checks < 2 ^ 64
  healthyChecks : w.healthyChecks < 2 ^ 64
  failedChecks : w.failedChecks < 2 ^ 64
  downEpisodes : w.downEpisodes < 2 ^ 64

theorem UptimeWindow.kept {w : UptimeWindow} (h : w.Storable) : Kept toValue ofValue? 1 w := by
  have hstarted := kept_instant h.startedAt
  have hchecks := kept_nat (Nat.le_refl _) h.checks
  have hhealthy := kept_nat (Nat.le_refl _) h.healthyChecks
  have hfailed := kept_nat (Nat.le_refl _) h.failedChecks
  have hdown := kept_nat (Nat.le_refl _) h.downEpisodes
  refine ⟨?_, ?_⟩
  · simp only [toValue, Writable, List.forall_mem_cons]
    exact ⟨hstarted.writable, hchecks.writable, hhealthy.writable, hfailed.writable, hdown.writable, by simp⟩
  · rw [ofValue?, toValue]
    refine Value.bind_fields?_obj (by simp) ?_
    exact hstarted.required rfl <| hchecks.required rfl <| hhealthy.required rfl <|
      hfailed.required rfl <| hdown.required rfl rfl

/-- A state whose figures are finite, whose instants are in the years of the
calendar and whose counters have their 32 or 64 bits. -/
@[mk_iff]
structure State.Storable (s : State) : Prop where
  consecutiveFailures : s.consecutiveFailures < 2 ^ 32
  lastHeight : ∀ n ∈ s.lastHeight, n < 2 ^ 64
  lastHeightChange : ∀ t ∈ s.lastHeightChange, Instant.InYears t.date.year
  lastPeers : ∀ n ∈ s.lastPeers, n < 2 ^ 64
  lastObservation : ∀ t ∈ s.lastObservation, Instant.InYears t.date.year
  lastResources : s.lastResources.Storable
  lastTimeouts : ∀ n ∈ s.lastTimeouts, n < 2 ^ 64
  lastUptime : ∀ u ∈ s.lastUptime, u.Storable
  downSince : ∀ t ∈ s.downSince, Instant.InYears t.date.year
  lastExecutionLagging : ∀ n ∈ s.lastExecutionLagging, n < 2 ^ 64
  lastTimestampFailures : ∀ n ∈ s.lastTimestampFailures, n < 2 ^ 64
  resourceUnknownTicks : s.resourceUnknownTicks < 2 ^ 32
  ledger : s.ledger.Storable
  window : s.window.Storable

theorem State.kept {s : State} (h : s.Storable) : Kept toValue ofValue? 7 s := by
  have hverdict := kept_word (Verdict.ofName?_name s.verdict)
  have hstreak := kept_nat (by decide) h.consecutiveFailures
  have hheight := kept_count h.lastHeight
  have hchange := kept_moment h.lastHeightChange
  have hpeers := kept_count h.lastPeers
  have hmember := kept_flag s.inActiveSet
  have hobservation := kept_moment h.lastObservation
  have hreachable := kept_bool s.lastReachable
  have hlevel := kept_word (ResourceLevel.ofName?_name s.resourceLevel)
  have hresources := ResourceUsage.kept h.lastResources
  have htimeouts := kept_count h.lastTimeouts
  have huptime : Kept (.ofOption UptimeData.toValue) (Value.optional? UptimeData.ofValue?) 1 s.lastUptime :=
    Kept.ofOption rfl fun u hu => UptimeData.kept (h.lastUptime u hu)
  have hunverified := kept_bool s.unverified
  have hconfidence := kept_word (Confidence.ofName?_name s.confidence)
  have hrpc := kept_flag s.rpcHealthy
  have hsince := kept_moment h.downSince
  have hlagging := kept_count h.lastExecutionLagging
  have hrefused := kept_count h.lastTimestampFailures
  have hunknown := kept_nat (by decide) h.resourceUnknownTicks
  have hnotes : Kept (.ofList .str) (Value.listOf? Value.text?) 1 s.notes :=
    Kept.ofList fun n _ => kept_text n
  have hledger := AlertLedger.kept h.ledger
  have hwindow := UptimeWindow.kept h.window
  refine ⟨?_, ?_⟩
  · simp only [toValue, Writable, List.forall_mem_cons]
    exact ⟨hverdict.writable, hstreak.writable, (hheight.mono (by decide)).writable,
      (hchange.mono (by decide)).writable, (hpeers.mono (by decide)).writable,
      (hmember.mono (by decide)).writable, (hobservation.mono (by decide)).writable, hreachable.writable,
      hlevel.writable, (hresources.mono (by decide)).writable, (htimeouts.mono (by decide)).writable,
      (huptime.mono (by decide)).writable, hunverified.writable, hconfidence.writable,
      (hrpc.mono (by decide)).writable, (hsince.mono (by decide)).writable,
      (hlagging.mono (by decide)).writable, (hrefused.mono (by decide)).writable, hunknown.writable,
      (hnotes.mono (by decide)).writable, hledger.writable, (hwindow.mono (by decide)).writable, by simp⟩
  · rw [ofValue?, toValue]
    refine Value.bind_fields?_obj (by simp) ?_
    exact hverdict.required rfl <| hstreak.required rfl <| hheight.optional rfl <|
      hchange.optional rfl <| hpeers.withDefault rfl <| hmember.withDefault rfl <|
      hobservation.optional rfl <| hreachable.withDefault rfl <| hlevel.withDefault rfl <|
      hresources.withDefault rfl <| htimeouts.withDefault rfl <| huptime.withDefault rfl <|
      hunverified.withDefault rfl <| hconfidence.withDefault rfl <| hrpc.withDefault rfl <|
      hsince.withDefault rfl <| hlagging.withDefault rfl <| hrefused.withDefault rfl <|
      hunknown.withDefault rfl <| hnotes.withDefault rfl <| hledger.withDefault rfl <|
      hwindow.required rfl rfl

/-! ## Which states can be stored -/

instance (u : ResourceUsage) : Decidable u.Storable :=
  decidable_of_iff' _ (ResourceUsage.storable_iff u)

instance (u : UptimeData) : Decidable u.Storable :=
  decidable_of_iff' _ (UptimeData.storable_iff u)

instance (r : ExtendedReport) : Decidable r.Storable :=
  decidable_of_iff' _ (ExtendedReport.storable_iff r)

instance (e : AlertEvent) : Decidable e.Storable :=
  decidable_of_iff' _ (AlertEvent.storable_iff e)

instance (p : PendingAlert) : Decidable p.Storable :=
  decidable_of_iff' _ (PendingAlert.storable_iff p)

instance (l : AlertLedger) : Decidable l.Storable :=
  decidable_of_iff' _ (AlertLedger.storable_iff l)

instance (w : UptimeWindow) : Decidable w.Storable :=
  decidable_of_iff' _ (UptimeWindow.storable_iff w)

instance (s : State) : Decidable s.Storable :=
  decidable_of_iff' _ (State.storable_iff s)

theorem UptimeWindow.storable_fresh {t : Instant} (h : Instant.InYears t.date.year) : (fresh t).Storable := by
  constructor <;> simp [fresh, h]

theorem AlertLedger.storable_empty : AlertLedger.Storable {} := by
  constructor <;> simp [lastSentAt]
  intro k c
  cases k <;> simp [ByChannel.get]

/-- Before the first check there is nothing to be lost. -/
theorem State.storable_fresh {t : Instant} (h : Instant.InYears t.date.year) : (fresh t).Storable where
  consecutiveFailures := by simp [fresh]
  lastHeight := by simp [fresh]
  lastHeightChange := by simp [fresh]
  lastPeers := by simp [fresh]
  lastObservation := by simp [fresh]
  lastResources := ⟨by simp [fresh], by simp [fresh], by simp [fresh]⟩
  lastTimeouts := by simp [fresh]
  lastUptime := by simp [fresh]
  downSince := by simp [fresh]
  lastExecutionLagging := by simp [fresh]
  lastTimestampFailures := by simp [fresh]
  resourceUnknownTicks := by simp [fresh]
  ledger := AlertLedger.storable_empty
  window := UptimeWindow.storable_fresh h

end ValidatorWatch
