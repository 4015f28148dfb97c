import ValidatorWatch.Proofs.Source.Exposition
import ValidatorWatch.Proofs.Validator.Encoding
/-!
# Metric pages are read back

A registry shows one snapshot after another, and each page tells of the last
one alone: whatever the gauges showed before, `GaugeRegistry.Kept` holds, and
with it a refresh leaves the series of the snapshot and no others
(`GaugeRegistry.Kept.gauge_refresh`). The gauges of validators differ in their
labels and figures only, so they are named by a `Kind`, and what is said of a
gauge is said once.

A page lists its samples gauge by gauge, and `Snapshot.samples` validator by
validator; these are the same samples.
-/

namespace ValidatorWatch

open Decimal (ofCount)
open Snapshot (flag wholeValue)

/-! ## Several series at once -/

namespace Gauge

variable {g : Gauge} {labels : List (String × String)} {ss ts : List Series}

/-- Sets series one after another. -/
def setAll (g : Gauge) (ss : List Series) : Gauge :=
  ss.foldl (fun g s => g.set s.labels s.value) g

theorem setAll_append : g.setAll (ss ++ ts) = (g.setAll ss).setAll ts :=
  List.foldl_append

/-- The series of a figure: one if it is known. -/
def known (labels : List (String × String)) (x : Option Float) : List Series :=
  x.toList.map fun x => ⟨labels, x⟩

theorem setKnown_eq (x : Option Float) : g.setKnown labels x = g.setAll (known labels x) := by
  cases x <;> rfl

/-- Series are told apart by their labels. -/
def Distinct (ss : List Series) : Prop :=
  ss.Pairwise fun s t => s.labels ≠ t.labels

theorem setSeries_of_forall_ne {x : Float} (h : ∀ s ∈ ss, s.labels ≠ labels) :
    setSeries labels x ss = ss ++ [⟨labels, x⟩] := by
  induction ss with
  | nil => rfl
  | cons s ss ih =>
    rw [setSeries, if_neg (h s List.mem_cons_self), ih fun s hs => h s (List.mem_cons_of_mem _ hs)]
    rfl

/-- Series with other labels than those there are come behind them. -/
theorem setAll_of_distinct (h : Distinct (g.series ++ ss)) : g.setAll ss = { g with series := g.series ++ ss } := by
  induction ss generalizing g with
  | nil => rw [List.append_nil]; rfl
  | cons s ss ih =>
    have hfresh : ∀ t ∈ g.series, t.labels ≠ s.labels := fun t ht =>
      (List.pairwise_append.1 h).2.2 t ht s List.mem_cons_self
    have hset : g.set s.labels s.value = { g with series := g.series ++ [s] } := by
      rw [set, setSeries_of_forall_ne hfresh]
    show (g.set s.labels s.value).setAll ss = _
    rw [hset, ih (by rwa [List.append_cons] at h), ← List.append_cons]

/-- A gauge without labels has one series, and goes on having one. -/
theorem set_of_single {g₀ : Gauge} (h : ∃ x, g = { g₀ with series := [⟨[], x⟩] }) (y : Float) :
    g.set [] y = { g₀ with series := [⟨[], y⟩] } := by
  obtain ⟨x, rfl⟩ := h
  rfl

end Gauge

/-! ## The gauges of validators -/

namespace GaugeRegistry

/-- The gauges that have a series for every validator whose figure is known. -/
inductive Kind where
  | height
  | failures
  | inActiveSet
  | peers
  | resources
  | up
  | uptime

/-- All of them, in the order of a page. -/
def Kind.all : List Kind :=
  [.height, .failures, .inActiveSet, .peers, .resources, .up, .uptime]

/-- One of these gauges. -/
def gauge (r : GaugeRegistry) : Kind → Gauge
  | .height => r.height
  | .failures => r.failures
  | .inActiveSet => r.inActiveSet
  | .peers => r.peers
  | .resources => r.resources
  | .up => r.up
  | .uptime => r.uptime

/-- What a validator shows in one of these gauges. -/
def series (e : String × ValidatorSnapshot) : Kind → List Series
  | .height => Gauge.known (labelsOf e.1 e.2) (e.2.height.map ofCount)
  | .failures => Gauge.known (labelsOf e.1 e.2) (some (ofCount e.2.fails))
  | .inActiveSet => Gauge.known (labelsOf e.1 e.2) (e.2.inActiveSet.map flag)
  | .peers => Gauge.known (labelsOf e.1 e.2) (e.2.peers.map ofCount)
  | .resources =>
    Gauge.known (resourceLabels e.1 e.2 "cpu") e.2.resources.cpu ++
      Gauge.known (resourceLabels e.1 e.2 "memory") e.2.resources.memory ++
        Gauge.known (resourceLabels e.1 e.2 "disk") e.2.resources.disk
  | .up => Gauge.known (upLabels e.1 e.2) (some (flag e.2.healthy))
  | .uptime => Gauge.known (labelsOf e.1 e.2) e.2.uptime.percent

variable {r : GaugeRegistry} {s : Snapshot} {e : String × ValidatorSnapshot} {es : List (String × ValidatorSnapshot)}
  {k : Kind}

theorem gauges_eq (r : GaugeRegistry) : r.gauges = r.persistenceOk :: r.uptimeSeconds :: Kind.all.map r.gauge := rfl

theorem gauge_reset (r : GaugeRegistry) (k : Kind) : r.reset.gauge k = (r.gauge k).reset := by
  cases k <;> rfl

theorem gauge_showValidator (r : GaugeRegistry) (e : String × ValidatorSnapshot) (k : Kind) :
    (r.showValidator e.1 e.2).gauge k = (r.gauge k).setAll (series e k) := by
  cases k with
  | failures => rfl
  | up => rfl
  | height => exact Gauge.setKnown_eq _
  | inActiveSet => exact Gauge.setKnown_eq _
  | peers => exact Gauge.setKnown_eq _
  | uptime => exact Gauge.setKnown_eq _
  | resources =>
    rw [series, Gauge.setAll_append, Gauge.setAll_append, ← Gauge.setKnown_eq, ← Gauge.setKnown_eq,
      ← Gauge.setKnown_eq]
    rfl

/-- Shows validators one after another. -/
def showAll (r : GaugeRegistry) (es : List (String × ValidatorSnapshot)) : GaugeRegistry :=
  es.foldl (fun r e => r.showValidator e.1 e.2) r

theorem gauge_showAll (r : GaugeRegistry) (es : List (String × ValidatorSnapshot)) (k : Kind) :
    (r.showAll es).gauge k = (r.gauge k).setAll (es.flatMap fun e => series e k) := by
  induction es generalizing r with
  | nil => rfl
  | cons e es ih =>
    show ((r.showValidator e.1 e.2).showAll es).gauge k = _
    rw [ih, gauge_showValidator, List.flatMap_cons, Gauge.setAll_append]

/-- The gauges of the monitor itself are not touched by it. -/
theorem showAll_own (r : GaugeRegistry) (es : List (String × ValidatorSnapshot)) :
    (r.showAll es).persistenceOk = r.persistenceOk ∧ (r.showAll es).uptimeSeconds = r.uptimeSeconds := by
  induction es generalizing r with
  | nil => exact ⟨rfl, rfl⟩
  | cons e es ih => exact ih (r.showValidator e.1 e.2)

/-! ## Labels -/

theorem labels_of_mem_known {labels : List (String × String)} {x : Option Float} {t : Series}
    (h : t ∈ Gauge.known labels x) : t.labels = labels := by
  obtain ⟨y, -, rfl⟩ := List.mem_map.1 h
  rfl

theorem distinct_known (labels : List (String × String)) (x : Option Float) :
    Gauge.Distinct (Gauge.known labels x) := by
  cases x with
  | none => exact List.Pairwise.nil
  | some x => exact List.pairwise_singleton _ _

theorem distinct_series (e : String × ValidatorSnapshot) (k : Kind) : Gauge.Distinct (series e k) := by
  cases k with
  | resources =>
    refine List.pairwise_append.2 ⟨List.pairwise_append.2 ⟨distinct_known _ _, distinct_known _ _, ?_⟩,
      distinct_known _ _, ?_⟩
    · intro t ht u hu
      rw [labels_of_mem_known ht, labels_of_mem_known hu]
      simp [resourceLabels]
    · intro t ht u hu
      rw [labels_of_mem_known hu]
      rcases List.mem_append.1 ht with ht | ht
      · rw [labels_of_mem_known ht]
        simp [resourceLabels]
      · rw [labels_of_mem_known ht]
        simp [resourceLabels]
  | _ => exact distinct_known _ _

/-- The last label of every series is the name of its validator. -/
theorem getLast?_labels {t : Series} (h : t ∈ series e k) : t.labels.getLast? = some ("validator", e.1) := by
  cases k with
  | resources =>
    rcases List.mem_append.1 h with h | h
    · rcases List.mem_append.1 h with h | h
      · rw [labels_of_mem_known h]
        rfl
      · rw [labels_of_mem_known h]
        rfl
    · rw [labels_of_mem_known h]
      rfl
  | _ =>
    rw [labels_of_mem_known h]
    rfl

/-- Validators with different names have different series. -/
theorem distinct_flatMap (h : es.Pairwise fun a b => a.1 ≠ b.1) (k : Kind) :
    Gauge.Distinct (es.flatMap fun e => series e k) := by
  refine List.pairwise_flatMap.2 ⟨fun e _ => distinct_series e k, h.imp fun hne t ht u hu heq => hne ?_⟩
  have hname := getLast?_labels hu
  rw [← heq, getLast?_labels ht] at hname
  exact (Prod.mk.inj (Option.some.inj hname)).2

theorem distinct_enabled (s : Snapshot) : s.enabled.Pairwise fun a b => a.1 ≠ b.1 := by
  refine (s.validators.sorted.filter _).imp ?_
  intro a b hlt heq
  exact String.lt_irrefl _ (heq ▸ hlt)

/-! ## One page after another -/

/-- What pages leave as it is: the names and help texts, and the one series of each gauge without
labels. -/
structure Kept (r : GaugeRegistry) : Prop where
  gauge : ∀ k, (r.gauge k).reset = new.gauge k
  persistenceOk : ∃ x, r.persistenceOk = { new.persistenceOk with series := [⟨[], x⟩] }
  uptimeSeconds : ∃ x, r.uptimeSeconds = { new.uptimeSeconds with series := [⟨[], x⟩] }

theorem kept_new : new.Kept where
  gauge k := by cases k <;> rfl
  persistenceOk := ⟨_, rfl⟩
  uptimeSeconds := ⟨_, rfl⟩

namespace Kept

theorem gauge_refresh (h : r.Kept) (s : Snapshot) (k : Kind) :
    (r.refresh s).gauge k = { new.gauge k with series := s.enabled.flatMap fun e => series e k } := by
  have hshown : (r.refresh s).gauge k = (r.reset.showAll s.enabled).gauge k := by
    cases k <;> rfl
  have hempty : (new.gauge k).series = [] := by
    cases k <;> rfl
  rw [hshown, gauge_showAll, gauge_reset, h.gauge, Gauge.setAll_of_distinct, hempty, List.nil_append]
  rw [hempty]
  exact distinct_flatMap (distinct_enabled s) k

theorem persistenceOk_refresh (h : r.Kept) (s : Snapshot) :
    (r.refresh s).persistenceOk = { new.persistenceOk with series := [⟨[], flag s.persistenceOk⟩] } :=
  calc (r.refresh s).persistenceOk
      = (r.reset.showAll s.enabled).persistenceOk.set [] (flag s.persistenceOk) := rfl
    _ = r.persistenceOk.set [] (flag s.persistenceOk) := by rw [(showAll_own r.reset _).1]; rfl
    _ = _ := Gauge.set_of_single h.persistenceOk _

theorem uptimeSeconds_refresh (h : r.Kept) (s : Snapshot) :
    (r.refresh s).uptimeSeconds = { new.uptimeSeconds with series := [⟨[], wholeValue s.uptimeSeconds⟩] } :=
  calc (r.refresh s).uptimeSeconds
      = (r.reset.showAll s.enabled).uptimeSeconds.set [] (wholeValue s.uptimeSeconds) := rfl
    _ = r.uptimeSeconds.set [] (wholeValue s.uptimeSeconds) := by rw [(showAll_own r.reset _).2]; rfl
    _ = _ := Gauge.set_of_single h.uptimeSeconds _

theorem refresh (h : r.Kept) (s : Snapshot) : (r.refresh s).Kept where
  gauge k := by
    rw [h.gauge_refresh s k]
    cases k <;> rfl
  persistenceOk := ⟨_, h.persistenceOk_refresh s⟩
  uptimeSeconds := ⟨_, h.uptimeSeconds_refresh s⟩

end Kept

/-- The gauges of a monitor after some pages. -/
def after (shown : List Snapshot) : GaugeRegistry :=
  shown.foldl (fun r s => (r.render s).2) new

theorem kept_after (shown : List Snapshot) : (after shown).Kept :=
  List.foldlRecOn shown _ kept_new fun _ h s _ => h.refresh s

end GaugeRegistry

/-! ## What a snapshot calls for -/

/-- The sample of a figure, if it is known. -/
def Sample.known (name : String) (labels : List (String × String)) (x : Option Float) : List Sample :=
  x.toList.map fun x => ⟨name, .ofList labels, some x⟩

/-- The samples of a validator. -/
def ValidatorSnapshot.samples (name : String) (v : ValidatorSnapshot) : List Sample :=
  let labels := [("network", v.network), ("validator", name)]
  let resource (r : String) := [("network", v.network), ("resource", r), ("validator", name)]
  Sample.known "monad_validator_block_height" labels (v.height.map ofCount) ++
    Sample.known "monad_validator_consecutive_failures" labels (some (ofCount v.fails)) ++
    Sample.known "monad_validator_in_active_set" labels (v.inActiveSet.map flag) ++
    Sample.known "monad_validator_peers" labels (v.peers.map ofCount) ++
    Sample.known "monad_validator_resource_usage_percent" (resource "cpu") v.resources.cpu ++
    Sample.known "monad_validator_resource_usage_percent" (resource "memory") v.resources.memory ++
    Sample.known "monad_validator_resource_usage_percent" (resource "disk") v.resources.disk ++
    Sample.known "monad_validator_up" [("network", v.network), ("state", v.state), ("validator", name)]
      (some (flag v.healthy)) ++
    Sample.known "monad_validator_uptime_percent" labels v.uptime.percent

/-- The samples of a snapshot: those of the enabled validators and two of the monitor. -/
def Snapshot.samples (s : Snapshot) : List Sample :=
  ⟨"monad_monitor_persistence_ok", .empty, some (flag s.persistenceOk)⟩ ::
    ⟨"monad_monitor_uptime_seconds", .empty, some (wholeValue s.uptimeSeconds)⟩ ::
      s.enabled.flatMap fun e => e.2.samples e.1

/-- The figures of a validator are finite, and its counts have the bits that are kept for them. -/
structure ValidatorSnapshot.Finite (v : ValidatorSnapshot) : Prop where
  fails : v.fails < 2 ^ 32
  height : ∀ n ∈ v.height, n < 2 ^ 64
  peers : ∀ n ∈ v.peers, n < 2 ^ 64
  resources : v.resources.Storable
  uptime : ∀ x ∈ v.uptime.percent, x.isFinite = true

/-- The figures of the enabled validators are finite. -/
structure Snapshot.Finite (s : Snapshot) : Prop where
  uptimeSeconds : -2 ^ 63 ≤ s.uptimeSeconds ∧ s.uptimeSeconds < 2 ^ 63
  validators : ∀ e ∈ s.enabled, e.2.Finite

theorem isFinite_flag (b : Bool) : (flag b).isFinite = true := by
  cases b <;> decide +kernel

namespace GaugeRegistry

variable {r : GaugeRegistry} {s : Snapshot} {e : String × ValidatorSnapshot} {k : Kind}

theorem readable_known {labels : List (String × String)} {x : Option Float}
    (hlabels : ∀ l ∈ labels, Exposition.PlainName l.1) (hx : ∀ y ∈ x, y.isFinite = true) :
    ∀ t ∈ Gauge.known labels x, t.Readable := by
  intro t ht
  obtain ⟨y, hy, rfl⟩ := List.mem_map.1 ht
  exact ⟨hlabels, hx y (Option.mem_toList.1 hy)⟩

theorem plain_labelsOf (name : String) (v : ValidatorSnapshot) :
    ∀ l ∈ labelsOf name v, Exposition.PlainName l.1 := by
  simp [labelsOf, Exposition.PlainName, Exposition.isPlain]

theorem plain_resourceLabels (name : String) (v : ValidatorSnapshot) (resource : String) :
    ∀ l ∈ resourceLabels name v resource, Exposition.PlainName l.1 := by
  simp [resourceLabels, Exposition.PlainName, Exposition.isPlain]

theorem plain_upLabels (name : String) (v : ValidatorSnapshot) :
    ∀ l ∈ upLabels name v, Exposition.PlainName l.1 := by
  simp [upLabels, Exposition.PlainName, Exposition.isPlain]

theorem isFinite_count {n : Option Nat} (h : ∀ k ∈ n, k < 2 ^ 64) : ∀ x ∈ n.map ofCount, x.isFinite = true := by
  intro x hx
  obtain ⟨k, hk, rfl⟩ := Option.map_eq_some_iff.1 hx
  exact Decimal.isFinite_ofCount (h k hk)

theorem readable_series (h : e.2.Finite) (k : Kind) : ∀ t ∈ series e k, t.Readable := by
  cases k with
  | height => exact readable_known (plain_labelsOf _ _) (isFinite_count h.height)
  | failures =>
    refine readable_known (plain_labelsOf _ _) fun x hx => ?_
    obtain rfl := Option.some.inj hx
    exact Decimal.isFinite_ofCount (Nat.lt_trans h.fails (by decide))
  | inActiveSet =>
    refine readable_known (plain_labelsOf _ _) fun x hx => ?_
    obtain ⟨b, -, rfl⟩ := Option.map_eq_some_iff.1 hx
    exact isFinite_flag b
  | peers => exact readable_known (plain_labelsOf _ _) (isFinite_count h.peers)
  | resources =>
    intro t ht
    rcases List.mem_append.1 ht with ht | ht
    · rcases List.mem_append.1 ht with ht | ht
      · exact readable_known (plain_resourceLabels _ _ _) h.resources.cpu t ht
      · exact readable_known (plain_resourceLabels _ _ _) h.resources.memory t ht
    · exact readable_known (plain_resourceLabels _ _ _) h.resources.disk t ht
  | up =>
    refine readable_known (plain_upLabels _ _) fun x hx => ?_
    obtain rfl := Option.some.inj hx
    exact isFinite_flag _
  | uptime => exact readable_known (plain_labelsOf _ _) h.uptime

theorem plain_new : ∀ g ∈ new.gauges, Exposition.PlainName g.name ∧ '\n' ∉ g.help.toList := by
  simp [new, gauges, Exposition.PlainName, Exposition.isPlain]

theorem Kept.readable_refresh (h : r.Kept) (hs : s.Finite) : ∀ g ∈ (r.refresh s).gauges, g.Readable := by
  have hsingle {x : Float} (hx : x.isFinite = true) : ∀ t ∈ [(⟨[], x⟩ : Series)], t.Readable := by
    intro t ht
    obtain rfl := List.mem_singleton.1 ht
    exact ⟨by simp, hx⟩
  have hplain := plain_new
  rw [gauges_eq, List.forall_mem_cons, List.forall_mem_cons, List.forall_mem_map] at hplain ⊢
  obtain ⟨hok, huptime, hgauge⟩ := hplain
  refine ⟨?_, ?_, fun k hk => ?_⟩
  · rw [h.persistenceOk_refresh s]
    exact ⟨hok.1, hok.2, hsingle (isFinite_flag _)⟩
  · have hbits : s.uptimeSeconds.natAbs < 2 ^ 64 := by
      have hrange := hs.uptimeSeconds
      omega
    rw [h.uptimeSeconds_refresh s]
    exact ⟨huptime.1, huptime.2, hsingle (Decimal.isFinite_ofScientific _ hbits)⟩
  · rw [h.gauge_refresh s k]
    refine ⟨(hgauge k hk).1, (hgauge k hk).2, fun t ht => ?_⟩
    obtain ⟨e, he, ht⟩ := List.mem_flatMap.1 ht
    exact readable_series (hs.validators e he) k t ht

/-! ## Samples -/

theorem sample_known (name : String) (labels : List (String × String)) (x : Option Float) :
    (Gauge.known labels x).map (Series.sample name) = Sample.known name labels x := by
  cases x <;> rfl

/-- What a validator shows, gauge by gauge. -/
theorem samples_eq (e : String × ValidatorSnapshot) :
    Kind.all.flatMap (fun k => (series e k).map (Series.sample (new.gauge k).name)) = e.2.samples e.1 := by
  simp only [Kind.all, List.flatMap_cons, List.flatMap_nil, series, List.map_append, sample_known,
    ValidatorSnapshot.samples, List.append_assoc, List.append_nil]
  rfl

/-- A page may be read validator by validator. -/
theorem flatMap_swap {α β γ : Type} (as : List α) (bs : List β) (f : α → β → List γ) :
    (as.flatMap fun a => bs.flatMap (f a)).Perm (bs.flatMap fun b => as.flatMap fun a => f a b) := by
  induction as with
  | nil => simp
  | cons a as ih =>
    simp only [List.flatMap_cons]
    exact (List.Perm.append_left _ ih).trans (List.flatMap_append_perm _ _ _)

/-- After a refresh the gauges have the samples of the snapshot. -/
theorem Kept.samples_refresh (h : r.Kept) (s : Snapshot) :
    ((r.refresh s).gauges.flatMap fun g => g.series.map (Series.sample g.name)).Perm s.samples := by
  have hgauge (k : Kind) : ((r.refresh s).gauge k).series.map (Series.sample ((r.refresh s).gauge k).name) =
      s.enabled.flatMap fun e => (series e k).map (Series.sample (new.gauge k).name) := by
    rw [h.gauge_refresh s k, List.map_flatMap]
  have hvalidators : (Kind.all.flatMap fun k =>
      ((r.refresh s).gauge k).series.map (Series.sample ((r.refresh s).gauge k).name)).Perm
        (s.enabled.flatMap fun e => e.2.samples e.1) := by
    simp only [hgauge, ← samples_eq]
    exact flatMap_swap _ _ _
  rw [gauges_eq, List.flatMap_cons, List.flatMap_cons, List.flatMap_map, h.persistenceOk_refresh s,
    h.uptimeSeconds_refresh s]
  exact (hvalidators.cons _).cons _

/-- After a refresh the gauges are those of a registry that has shown nothing else. -/
theorem Kept.gauges_refresh (h : r.Kept) (s : Snapshot) : (r.refresh s).gauges = (new.refresh s).gauges := by
  have hgauge : (r.refresh s).gauge = (new.refresh s).gauge := by
    funext k
    rw [h.gauge_refresh s k, kept_new.gauge_refresh s k]
  rw [gauges_eq, gauges_eq, hgauge, h.persistenceOk_refresh s, kept_new.persistenceOk_refresh s,
    h.uptimeSeconds_refresh s, kept_new.uptimeSeconds_refresh s]

/-- Earlier pages make no difference. -/
theorem render_after (shown : List Snapshot) (s : Snapshot) : ((after shown).render s).1 = s.metricPage := by
  show ((after shown).refresh s).page = (new.refresh s).page
  rw [page, page, (kept_after shown).gauges_refresh s]

/-- A name with quotes, a backslash, a line feed, braces and a comma. -/
def oddName : String :=
  "\"a\\b\n\x7bé\x7d,#\""

def oddValidator : ValidatorSnapshot :=
  { ValidatorSnapshot.pending "testnet" "10.0.0.1" with height := some 4242, resources := { cpu := some 12.5 } }

/-- A validator with a plain name is shown. -/
def plainShown : Snapshot :=
  { Snapshot.fresh "testnet" (.ofNanos 0) with validators := NameMap.empty.insert "val-2" oddValidator }

/-- It is disabled, and one with an odd name is shown. -/
def oddShown : Snapshot :=
  { plainShown with
    uptimeSeconds := 60
    validators := ⟨[(oddName, oddValidator), ("val-2", .disabled "testnet" "10.0.0.2")], by decide +kernel⟩ }

end GaugeRegistry

end ValidatorWatch
