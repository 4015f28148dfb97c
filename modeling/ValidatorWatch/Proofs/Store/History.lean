import ValidatorWatch.Document.Json
import ValidatorWatch.Proofs.Decimal.Nearest
import ValidatorWatch.Proofs.Time.StampOrder
import ValidatorWatch.Store.History
/-!
# The history as a log

The calls so far say which records there are: the one that call number `n` stored
is left if no later call removed it (`Survives`). Records are older by their
instants, as stamps are in the order of instants, and of equal instants the sort
keeps the later arrival in front. `recent_and_prune_follow_calls` puts both
together for any calls in any order.
-/

namespace ValidatorWatch

open Document
open Time (Instant)

/-! ## Sorting -/

open List in
/-- A stable sort leaves elements that it does not tell apart as they were. -/
theorem pairwise_mergeSort_stable {α : Type} {le : α → α → Bool} {before : α → α → Prop} {xs : List α}
    (trans : ∀ a b c, le a b = true → le b c = true → le a c = true)
    (total : ∀ a b, (le a b || le b a) = true) (h : xs.Pairwise before) :
    (xs.mergeSort le).Pairwise fun a b => le a b = true ∧ (le b a = true → before a b) := by
  induction xs with
  | nil => simp
  | cons x xs ih =>
    obtain ⟨hx, hxs⟩ := pairwise_cons.1 h
    obtain ⟨front, back, hsort, hrest, hfront⟩ := mergeSort_cons trans total x xs
    have hsorted := pairwise_mergeSort trans total (x :: xs)
    have hih := ih hxs
    rw [hsort] at hsorted ⊢
    rw [hrest] at hih
    obtain ⟨-, hback, hbetween⟩ := pairwise_append.1 hsorted
    obtain ⟨hfrontIh, hbackIh, hacross⟩ := pairwise_append.1 hih
    have hafter (b : α) (hb : b ∈ back) : le x b = true ∧ (le b x = true → before x b) := by
      have hmem : b ∈ xs := mem_mergeSort.1 (hrest ▸ mem_append_right front hb)
      exact ⟨(pairwise_cons.1 hback).1 b hb, fun _ => hx b hmem⟩
    -- What is sorted in front of `x` is told apart from it, so nothing is to show there.
    refine pairwise_append.2 ⟨hfrontIh, pairwise_cons.2 ⟨hafter, hbackIh⟩, fun a ha b hb => ?_⟩
    rcases mem_cons.1 hb with rfl | hb
    · have hnot : le b a = false := by simpa using hfront a ha
      exact ⟨hbetween a ha b mem_cons_self, fun hle => absurd (hnot.symm.trans hle) Bool.false_ne_true⟩
    · exact hacross a ha b hb

/-! ## Figures -/

namespace CheckRecord

theorem keptFigure_eq {x : Option Float} (h : ∀ y, x = some y → y.isNaN = false ∧ y ≠ -0.0) : keptFigure x = x := by
  cases x with
  | none => rfl
  | some y =>
    obtain ⟨hnumber, hsign⟩ := h y rfl
    rw [keptFigure, Option.filter_some, hnumber]
    exact congrArg some (if_neg hsign)

/-- What is not a number has no text, as if it were left out. -/
theorem renderAt_keptFigure (style : Json.Style) (depth : Nat) {x : Option Float} (h : x ≠ some (-0.0)) :
    Json.renderAt style depth (figureValue (keptFigure x)) = Json.renderAt style depth (figureValue x) := by
  cases x with
  | none => rfl
  | some y =>
    cases hy : y.isNaN with
    | false => rw [keptFigure_eq fun z hz => Option.some.inj hz ▸ ⟨hy, fun hzero => h (congrArg some hzero)⟩]
    | true =>
      have hnan : y = Float.nan := by simpa using hy
      have hmarked : Decimal.marked? Float.nan = none := by decide +kernel
      have hkept : keptFigure (some y) = none := by
        simp only [keptFigure, Option.filter_some, hy]
        rfl
      rw [hkept, hnan]
      simp [figureValue, Value.ofOption, Json.renderAt, Json.renderFloat, hmarked]

/-- A number is one of the figures of a record. -/
def HasFigure (r : CheckRecord) (x : Float) : Prop :=
  r.cpu = some x ∨ r.memory = some x ∨ r.disk = some x

/-- A record without negative zeros is written the same after it was kept. -/
theorem render_kept (style : Json.Style) {r : CheckRecord} (h : ¬ r.HasFigure (-0.0)) :
    Json.render style r.kept.toValue = Json.render style r.toValue := by
  rw [HasFigure, not_or, not_or] at h
  obtain ⟨hcpu, hmemory, hdisk⟩ := h
  simp [Json.render, toValue, Json.renderAt, Json.renderMembers, kept, renderAt_keptFigure, hcpu, hmemory, hdisk]

theorem kept_eq {r : CheckRecord} (h : ∀ x, r.HasFigure x → x.isNaN = false ∧ x ≠ -0.0) : r.kept = r := by
  rw [kept, keptFigure_eq fun x hx => h x (.inl hx), keptFigure_eq fun x hx => h x (.inr (.inl hx)),
    keptFigure_eq fun x hx => h x (.inr (.inr hx))]

end CheckRecord

/-! ## Calls -/

/-- A call that changes the history. -/
inductive HistoryCall where
  | store (r : CheckRecord)
  | prune (cutoff : Instant)

/-- The instant whose stamp a call brings. -/
def HistoryCall.time : HistoryCall → Instant
  | .store r => r.time
  | .prune cutoff => cutoff

namespace History

variable {calls : List HistoryCall} {log : List (Nat × CheckRecord)} {n : Nat} {r a b : CheckRecord} {cutoff : Instant}

/-- The history after a call. -/
def make (h : History) : HistoryCall → History
  | .store r => h.store r
  | .prune cutoff => (h.prune cutoff).1

/-- The history after calls, from none. -/
def after (calls : List HistoryCall) : History :=
  calls.foldl make {}

/-- Call number `n` stored the record and no later call removed it. -/
def Survives (calls : List HistoryCall) (n : Nat) (r : CheckRecord) : Prop :=
  calls[n]? = some (.store r) ∧ ∀ m cutoff, n < m → calls[m]? = some (.prune cutoff) → ¬ r.time < cutoff

theorem after_concat (calls : List HistoryCall) (call : HistoryCall) :
    after (calls ++ [call]) = (after calls).make call := by
  simp [after]

/-! ## Age -/

theorem olderThan_iff (hr : r.time.InFourDigits) (hc : cutoff.InFourDigits) :
    olderThan cutoff r = true ↔ r.time < cutoff := by
  rw [olderThan, decide_eq_true_iff, ageKey, Instant.offsetStamp_lt_iff hr hc]

theorem olderThan_kept (r : CheckRecord) : olderThan cutoff r.kept = olderThan cutoff r := rfl

theorem newerFirst_kept (a b : CheckRecord) : newerFirst a.kept b.kept = newerFirst a b := rfl

theorem newerFirst_iff (ha : a.time.InFourDigits) (hb : b.time.InFourDigits) :
    newerFirst a b = true ↔ ¬ a.time < b.time := by
  rw [newerFirst, decide_eq_true_iff, ageKey, ageKey, ← String.not_lt, Instant.offsetStamp_lt_iff ha hb]

theorem newerFirst_trans (a b c : CheckRecord) (hab : newerFirst a b = true) (hbc : newerFirst b c = true) :
    newerFirst a c = true := by
  rw [newerFirst, decide_eq_true_iff] at *
  exact String.le_trans hbc hab

theorem newerFirst_total (a b : CheckRecord) : (newerFirst a b || newerFirst b a) = true := by
  rw [Bool.or_eq_true, newerFirst, newerFirst, decide_eq_true_iff, decide_eq_true_iff]
  exact String.le_total _ _

/-! ## What is left -/

theorem getElem?_concat_iff {call c : HistoryCall} :
    (calls ++ [call])[n]? = some c ↔ calls[n]? = some c ∨ n = calls.length ∧ call = c := by
  grind

/-- A record that is stored survives, and a store removes none. -/
theorem survives_store {s : CheckRecord} :
    Survives (calls ++ [.store s]) n r ↔ Survives calls n r ∨ n = calls.length ∧ s = r := by
  have hprune (m : Nat) (cutoff : Instant) :
      (calls ++ [.store s])[m]? = some (.prune cutoff) ↔ calls[m]? = some (.prune cutoff) := by
    simp [getElem?_concat_iff]
  have hlater (m : Nat) (cutoff : Instant) (h : calls.length < m) : calls[m]? ≠ some (.prune cutoff) := by
    simp [List.getElem?_eq_none (Nat.le_of_lt h)]
  simp only [Survives, hprune, getElem?_concat_iff, HistoryCall.store.injEq]
  constructor
  · rintro ⟨h | h, hleft⟩
    · exact .inl ⟨h, hleft⟩
    · exact .inr h
  · rintro (⟨h, hleft⟩ | ⟨rfl, rfl⟩)
    · exact ⟨.inl h, hleft⟩
    · exact ⟨.inr ⟨rfl, rfl⟩, fun m cutoff hm h => absurd h (hlater m cutoff hm)⟩

/-- A removal takes away just what is older. -/
theorem survives_prune :
    Survives (calls ++ [.prune cutoff]) n r ↔ Survives calls n r ∧ ¬ r.time < cutoff := by
  simp only [Survives, getElem?_concat_iff, HistoryCall.prune.injEq, reduceCtorEq, and_false, or_false]
  constructor
  · rintro ⟨h, hleft⟩
    have hn : n < calls.length := (List.getElem?_eq_some_iff.1 h).1
    exact ⟨⟨h, fun m c hm hc => hleft m c hm (.inl hc)⟩, hleft calls.length cutoff hn (.inr ⟨rfl, rfl⟩)⟩
  · rintro ⟨⟨h, hleft⟩, hnew⟩
    refine ⟨h, fun m c hm hc => ?_⟩
    rcases hc with hc | ⟨-, rfl⟩
    · exact hleft m c hm hc
    · exact hnew

theorem Survives.store_mem (h : Survives calls n r) : .store r ∈ calls :=
  List.mem_of_getElem? h.1

/-- The records that are left, each with the number of its call, in the order of
the calls. -/
structure IsLog (calls : List HistoryCall) (log : List (Nat × CheckRecord)) : Prop where
  mem_iff : ∀ n r, (n, r) ∈ log ↔ Survives calls n r
  numbered : log.Pairwise fun a b => a.1 < b.1
  rows : (after calls).rows = log.map (·.2.kept)

namespace IsLog

theorem time_inFourDigits (hlog : IsLog calls log) (h : ∀ call ∈ calls, call.time.InFourDigits) :
    ∀ entry ∈ log, entry.2.time.InFourDigits := by
  intro entry hentry
  have hleft : Survives calls entry.1 entry.2 := (hlog.mem_iff _ _).1 hentry
  exact h (.store entry.2) hleft.store_mem

theorem lt_length (hlog : IsLog calls log) : ∀ entry ∈ log, entry.1 < calls.length := by
  intro entry hentry
  have hleft : Survives calls entry.1 entry.2 := (hlog.mem_iff _ _).1 hentry
  exact (List.getElem?_eq_some_iff.1 hleft.1).1

theorem nil : IsLog [] [] where
  mem_iff := by simp [Survives]
  numbered := .nil
  rows := rfl

theorem store (hlog : IsLog calls log) (r : CheckRecord) :
    IsLog (calls ++ [.store r]) (log ++ [(calls.length, r)]) where
  mem_iff := by
    intro n s
    rw [List.mem_append, List.mem_singleton, Prod.mk.injEq, hlog.mem_iff, survives_store, eq_comm (a := s)]
  numbered := by
    refine List.pairwise_append.2 ⟨hlog.numbered, List.pairwise_singleton _ _, ?_⟩
    simpa using fun n s hmem => hlog.lt_length (n, s) hmem
  rows := by
    rw [after_concat]
    simp [make, History.store, hlog.rows]

theorem olderThan_eq (hlog : IsLog calls log) (h : ∀ call ∈ calls, call.time.InFourDigits)
    (hc : cutoff.InFourDigits) : ∀ entry ∈ log, olderThan cutoff entry.2.kept = decide (entry.2.time < cutoff) := by
  intro entry hentry
  have htime := hlog.time_inFourDigits h entry hentry
  rw [olderThan_kept, Bool.eq_iff_iff, decide_eq_true_iff, olderThan_iff htime hc]

theorem prune (hlog : IsLog calls log) (h : ∀ call ∈ calls, call.time.InFourDigits) (hc : cutoff.InFourDigits) :
    IsLog (calls ++ [.prune cutoff]) (log.filter fun entry => ¬ entry.2.time < cutoff) where
  mem_iff := by
    intro n r
    rw [List.mem_filter, hlog.mem_iff, survives_prune, decide_eq_true_iff]
  numbered := hlog.numbered.filter _
  rows := by
    have hold (entry : Nat × CheckRecord) (hentry : entry ∈ log) :
        (!olderThan cutoff entry.2.kept) = decide (¬ entry.2.time < cutoff) := by
      rw [decide_not, hlog.olderThan_eq h hc entry hentry]
    rw [after_concat, ← List.filter_congr hold]
    simp [make, History.prune, hlog.rows, List.filter_map, Function.comp_def]

/-- There is such a log after any calls. -/
theorem exists_of (calls : List HistoryCall) (h : ∀ call ∈ calls, call.time.InFourDigits) : ∃ log, IsLog calls log := by
  -- The latest call is the last of the list, so the induction goes by its end.
  induction calls using List.reverseRecOn with
  | nil => exact ⟨[], nil⟩
  | append_singleton calls call ih =>
    have hcalls (c : HistoryCall) (hc : c ∈ calls) : c.time.InFourDigits := h c (List.mem_append_left _ hc)
    obtain ⟨log, hlog⟩ := ih hcalls
    cases call with
    | store r => exact ⟨_, hlog.store r⟩
    | prune cutoff => exact ⟨_, hlog.prune hcalls (h (.prune cutoff) (by simp))⟩

end IsLog

/-! ## What is listed -/

/-- Of two entries the one with the later instant comes first, and of equal
instants the one that was stored later. -/
def Before (a b : Nat × CheckRecord) : Prop :=
  b.2.time < a.2.time ∨ a.2.time = b.2.time ∧ b.1 < a.1

/-- The entries of a validator as they are listed. -/
def listed (validator : String) (log : List (Nat × CheckRecord)) : List (Nat × CheckRecord) :=
  (log.filter fun entry => entry.2.validator = validator).reverse.mergeSort fun a b => newerFirst a.2 b.2

theorem mem_listed {validator : String} {entry : Nat × CheckRecord} :
    entry ∈ listed validator log ↔ entry ∈ log ∧ entry.2.validator = validator := by
  simp [listed]

/-- What is listed is in order, as the sort keeps later arrivals in front. -/
theorem pairwise_listed (validator : String) (hnumbered : log.Pairwise fun a b => a.1 < b.1)
    (h : ∀ entry ∈ log, entry.2.time.InFourDigits) : (listed validator log).Pairwise Before := by
  have hlatest : (log.filter fun entry => entry.2.validator = validator).reverse.Pairwise fun a b => b.1 < a.1 :=
    List.pairwise_reverse.2 (hnumbered.filter _)
  have hsorted : (listed validator log).Pairwise fun a b =>
      newerFirst a.2 b.2 = true ∧ (newerFirst b.2 a.2 = true → b.1 < a.1) :=
    pairwise_mergeSort_stable (fun a b c => newerFirst_trans a.2 b.2 c.2) (fun a b => newerFirst_total a.2 b.2)
      hlatest
  have hmem : ∀ entry ∈ listed validator log, entry.2.time.InFourDigits :=
    fun entry hentry => h entry (mem_listed.1 hentry).1
  refine hsorted.imp_of_mem fun {a b} ha hb hab => ?_
  have hta := hmem a ha
  have htb := hmem b hb
  obtain ⟨hnewer, harrived⟩ := hab
  rw [newerFirst_iff hta htb] at hnewer
  rw [newerFirst_iff htb hta] at harrived
  by_cases hlt : b.2.time < a.2.time
  · exact .inl hlt
  · exact .inr ⟨Instant.eq_of_not_lt hnewer hlt, harrived hlt⟩

theorem IsLog.recent_eq (hlog : IsLog calls log) (validator : String) (limit : Nat) :
    (after calls).recent validator limit = ((listed validator log).take limit).map (·.2.kept) := by
  have hvalidator : (fun r : CheckRecord => decide (r.validator = validator)) ∘
      (fun entry : Nat × CheckRecord => entry.2.kept) = fun entry => decide (entry.2.validator = validator) := rfl
  have hkey (a b : Nat × CheckRecord) : newerFirst a.2 b.2 = newerFirst a.2.kept b.2.kept := by
    rw [newerFirst_kept]
  have hsort (entries : List (Nat × CheckRecord)) :
      (entries.mergeSort fun a b => newerFirst a.2 b.2).map (·.2.kept) =
        (entries.map (·.2.kept)).mergeSort newerFirst :=
    List.map_mergeSort fun a _ b _ => hkey a b
  rw [recent, hlog.rows, List.filter_map, ← List.map_reverse, ← hsort, ← List.map_take, hvalidator, listed]

theorem IsLog.removed_eq (hlog : IsLog calls log) (h : ∀ call ∈ calls, call.time.InFourDigits)
    (hc : cutoff.InFourDigits) :
    ((after calls).prune cutoff).2 = (log.filter fun entry => entry.2.time < cutoff).length := by
  have hold (entry : Nat × CheckRecord) (hentry : entry ∈ log) :
      (olderThan cutoff ∘ fun entry : Nat × CheckRecord => entry.2.kept) entry = true ↔
        decide (entry.2.time < cutoff) = true := by
    rw [Function.comp_apply, hlog.olderThan_eq h hc entry hentry]
  rw [History.prune, hlog.rows, ← List.countP_eq_length_filter, List.countP_map, List.countP_congr hold]

theorem IsLog.nodup (hlog : IsLog calls log) : log.Nodup := by
  refine hlog.numbered.imp fun {a b} hlt heq => ?_
  rw [heq] at hlt
  exact Nat.lt_irrefl _ hlt

/-- After any calls, in any order, the records listed for a validator are those
that were stored for it and not removed since, the latest instant first and of
equal instants the latest call, cut off at the limit. A removal takes away just
what is left from before its cutoff and says how many that are. A record is kept
as it is, but for a figure that is not a number, which is never written, and for
the sign of a zero. -/
theorem recent_and_prune_follow_calls (calls : List HistoryCall) (h : ∀ call ∈ calls, call.time.InFourDigits) :
    (∀ validator, ∃ entries : List (Nat × CheckRecord),
      (∀ n r, (n, r) ∈ entries ↔ Survives calls n r ∧ r.validator = validator) ∧ entries.Pairwise Before ∧
        ∀ limit, (after calls).recent validator limit = (entries.take limit).map (·.2.kept)) ∧
      (∀ cutoff : Instant, cutoff.InFourDigits → ∃ removed : List (Nat × CheckRecord), removed.Nodup ∧
        (∀ n r, (n, r) ∈ removed ↔ Survives calls n r ∧ r.time < cutoff) ∧
        (∀ n r, Survives (calls ++ [.prune cutoff]) n r ↔ Survives calls n r ∧ (n, r) ∉ removed) ∧
          ((after calls).prune cutoff).2 = removed.length) ∧
      ∀ r : CheckRecord,
        ((∀ x, r.HasFigure x → x.isNaN = false ∧ x ≠ -0.0) → r.kept = r) ∧
          (¬ r.HasFigure (-0.0) → ∀ style, Json.render style r.kept.toValue = Json.render style r.toValue) := by
  obtain ⟨log, hlog⟩ := IsLog.exists_of calls h
  refine ⟨fun validator => ?_, fun cutoff hc => ?_,
    fun r => ⟨CheckRecord.kept_eq, fun hsign style => CheckRecord.render_kept style hsign⟩⟩
  · refine ⟨listed validator log, fun n r => ?_, ?_, hlog.recent_eq validator⟩
    · rw [mem_listed, hlog.mem_iff]
    · exact pairwise_listed validator hlog.numbered (hlog.time_inFourDigits h)
  · have hremoved (n : Nat) (r : CheckRecord) :
        (n, r) ∈ log.filter (fun entry => entry.2.time < cutoff) ↔ Survives calls n r ∧ r.time < cutoff := by
      rw [List.mem_filter, hlog.mem_iff, decide_eq_true_iff]
    refine ⟨log.filter fun entry => entry.2.time < cutoff, hlog.nodup.filter _, hremoved, fun n r => ?_,
      hlog.removed_eq h hc⟩
    rw [survives_prune, hremoved, not_and, and_congr_right_iff]
    exact fun hleft => ⟨fun hnew _ => hnew, fun hnew => hnew hleft⟩

/-- A check at so many nanoseconds of the first second of 1970. -/
def checkAt (nanos : Nat) (verdict : String) : CheckRecord where
  validator := "north"
  verdict := verdict
  consecutiveFailures := 0
  height := none
  peers := none
  cpu := none
  memory := none
  disk := none
  inActiveSet := none
  time := .ofNanos nanos

/-- Stamps with nine, three, no and six digits behind the second, one of them
twice, and a removal between them. -/
def outOfOrder : List HistoryCall :=
  [.store (checkAt 123456789 "healthy"), .store (checkAt 500000000 "down"), .store (checkAt 0 "unknown"),
    .prune (.ofNanos 123456789), .store (checkAt 123456000 "degraded"), .store (checkAt 500000000 "healthy")]

theorem newerFirst_checkAt {m n : Nat} (hm : m < 1000000000) (hn : n < 1000000000) (v w : String) :
    newerFirst (checkAt m v) (checkAt n w) = decide (n ≤ m) := by
  have hsecond {k : Nat} (hk : k < 1000000000) : ((k : Int) / 1000000000 = 0) := by omega
  have hdigits {k : Nat} (hk : k < 1000000000) (v : String) : (checkAt k v).time.InFourDigits := by
    simp only [Instant.InFourDigits, Instant.date, checkAt, Instant.ofNanos, hsecond hk]
    decide
  have hlt : (checkAt m v).time < (checkAt n w).time ↔ m < n := by
    rw [Instant.lt_def]
    simp only [checkAt, Instant.ofNanos]
    omega
  rw [Bool.eq_iff_iff, newerFirst_iff (hdigits hm v) (hdigits hn w), hlt, decide_eq_true_iff, Nat.not_lt]

theorem recent_outOfOrder :
    (∀ call ∈ outOfOrder, call.time.InFourDigits) ∧ ∃ entries : List (Nat × CheckRecord),
      (∀ n r, (n, r) ∈ entries ↔ Survives outOfOrder n r ∧ r.validator = "north") ∧ entries.Pairwise Before ∧
        (entries.take 3).map (·.2.kept) =
          [checkAt 500000000 "healthy", checkAt 500000000 "down", checkAt 123456789 "healthy"] := by
  have hdigits : ∀ call ∈ outOfOrder, call.time.InFourDigits := by
    simp only [outOfOrder, List.forall_mem_cons, Instant.InFourDigits]
    decide
  obtain ⟨entries, hmem, horder, hrecent⟩ := (recent_and_prune_follow_calls outOfOrder hdigits).1 "north"
  refine ⟨hdigits, entries, hmem, horder, ?_⟩
  have hrows : ((after outOfOrder).rows.filter fun r => r.validator = "north").reverse =
      [checkAt 500000000 "healthy", checkAt 123456000 "degraded", checkAt 500000000 "down",
        checkAt 123456789 "healthy"] := by
    decide +kernel
  rw [← hrecent, recent, hrows]
  simp [List.mergeSort, List.MergeSort.Internal.splitInTwo, newerFirst_checkAt]

end History

end ValidatorWatch
