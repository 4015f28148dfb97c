import ValidatorWatch.Decimal.Written
import ValidatorWatch.Validator.Snapshot
/-!
# Exported gauges

The figures of a snapshot as a metric page. Every enabled validator has a series in each gauge of
which its figure is known, and the monitor has two gauges of its own. Gauges are in the order of
their names, and the series of a gauge in the order of their label values. A gauge without series is
left out.

The gauges outlive the page: a registry holds them from one page to the next, and every snapshot is
shown in them anew.
-/

namespace ValidatorWatch

/-- One series: its labels in the order of their names, and its value. -/
structure Series where
  labels : List (String × String)
  value : Float
  deriving DecidableEq

/-- A gauge with its series. -/
structure Gauge where
  name : String
  help : String
  series : List Series

namespace Series

/-- A character of a label's value: the backslash, the quote and the line feed are escaped. -/
def escapeChar (c : Char) : List Char :=
  if c = '\\' then ['\\', '\\']
  else if c = '"' then ['\\', '"']
  else if c = '\n' then ['\\', 'n']
  else [c]

/-- A label with its value between quotes. -/
def labelText (label : String × String) : List Char :=
  label.1.toList ++ '=' :: '"' :: label.2.toList.flatMap escapeChar ++ ['"']

/-- The labels between braces; without labels there are none. -/
def labelsText : List (String × String) → List Char
  | [] => []
  | label :: more =>
    '\x7b' :: labelText label ++ more.flatMap (fun l => ',' :: labelText l) ++ ['\x7d']

/-- The line of a series. -/
def text (name : String) (s : Series) : List Char :=
  name.toList ++ labelsText s.labels ++ ' ' :: (Decimal.plain s.value).toList ++ ['\n']

/-- Whether a series stands before another: label by label, by their values. -/
def before (a b : Series) : Bool :=
  !(b.labels.map (·.2)).lex (a.labels.map (·.2)) fun x y => decide (x < y)

end Series

namespace Gauge

/-- The lines of a gauge. -/
def text (g : Gauge) : List Char :=
  if g.series.isEmpty then []
  else
    s!"# HELP {g.name} {g.help}\n# TYPE {g.name} gauge\n".toList ++
      (g.series.mergeSort Series.before).flatMap (Series.text g.name)

/-- Without series. -/
def reset (g : Gauge) : Gauge :=
  { g with series := [] }

/-- Among some series, the one with these labels gets a value; if there is none, it is added. -/
def setSeries (labels : List (String × String)) (x : Float) : List Series → List Series
  | [] => [⟨labels, x⟩]
  | s :: more => if s.labels = labels then ⟨labels, x⟩ :: more else s :: setSeries labels x more

/-- The series with these labels gets a value. -/
def set (g : Gauge) (labels : List (String × String)) (x : Float) : Gauge :=
  { g with series := setSeries labels x g.series }

/-- The same if the value is known. -/
def setKnown (g : Gauge) (labels : List (String × String)) : Option Float → Gauge
  | some x => g.set labels x
  | none => g

end Gauge

namespace Snapshot

/-- The value of a gauge that tells whether something holds. -/
def flag (b : Bool) : Float :=
  if b then 1 else 0

/-- A whole number as a double. -/
def wholeValue (n : Int) : Float :=
  Decimal.ofScientific (n < 0) n.natAbs 0

/-- The enabled validators. -/
def enabled (s : Snapshot) : List (String × ValidatorSnapshot) :=
  s.validators.entries.filter fun e => e.2.enabled

end Snapshot

/-- The gauges of a monitor, as the last page left them. -/
structure GaugeRegistry where
  persistenceOk : Gauge
  uptimeSeconds : Gauge
  height : Gauge
  failures : Gauge
  inActiveSet : Gauge
  peers : Gauge
  resources : Gauge
  up : Gauge
  uptime : Gauge

namespace GaugeRegistry

open Snapshot (flag wholeValue)

/-- The gauges before the first page. Those without labels are zero. -/
def new : GaugeRegistry where
  persistenceOk := ⟨"monad_monitor_persistence_ok", "1 when the last state writes succeeded", [⟨[], 0⟩]⟩
  uptimeSeconds := ⟨"monad_monitor_uptime_seconds", "Monitor process uptime", [⟨[], 0⟩]⟩
  height := ⟨"monad_validator_block_height", "Last known block height", []⟩
  failures := ⟨"monad_validator_consecutive_failures", "Consecutive failed checks", []⟩
  inActiveSet := ⟨"monad_validator_in_active_set", "1 when in the active set", []⟩
  peers := ⟨"monad_validator_peers", "Last known peer count", []⟩
  resources := ⟨"monad_validator_resource_usage_percent", "Host resource usage", []⟩
  up := ⟨"monad_validator_up", "1 when the validator verdict is active", []⟩
  uptime := ⟨"monad_validator_uptime_percent", "Third-party reported uptime", []⟩

/-- All gauges, in the order of their names. -/
def gauges (r : GaugeRegistry) : List Gauge :=
  [r.persistenceOk, r.uptimeSeconds, r.height, r.failures, r.inActiveSet, r.peers, r.resources, r.up, r.uptime]

/-- The gauges as a page. -/
def page (r : GaugeRegistry) : String :=
  String.ofList (r.gauges.flatMap Gauge.text)

/-- The gauges of validators without their series. -/
def reset (r : GaugeRegistry) : GaugeRegistry where
  persistenceOk := r.persistenceOk
  uptimeSeconds := r.uptimeSeconds
  height := r.height.reset
  failures := r.failures.reset
  inActiveSet := r.inActiveSet.reset
  peers := r.peers.reset
  resources := r.resources.reset
  up := r.up.reset
  uptime := r.uptime.reset

/-- The labels of most series of a validator. -/
def labelsOf (name : String) (v : ValidatorSnapshot) : List (String × String) :=
  [("network", v.network), ("validator", name)]

/-- The labels of a figure of a validator's host. -/
def resourceLabels (name : String) (v : ValidatorSnapshot) (resource : String) : List (String × String) :=
  [("network", v.network), ("resource", resource), ("validator", name)]

/-- The labels of the series that tells whether a validator is up. -/
def upLabels (name : String) (v : ValidatorSnapshot) : List (String × String) :=
  [("network", v.network), ("state", v.state), ("validator", name)]

/-- Shows what is known of a validator. -/
def showValidator (r : GaugeRegistry) (name : String) (v : ValidatorSnapshot) : GaugeRegistry :=
  { r with
    up := r.up.set (upLabels name v) (flag v.healthy)
    failures := r.failures.set (labelsOf name v) (Decimal.ofCount v.fails)
    height := r.height.setKnown (labelsOf name v) (v.height.map Decimal.ofCount)
    peers := r.peers.setKnown (labelsOf name v) (v.peers.map Decimal.ofCount)
    inActiveSet := r.inActiveSet.setKnown (labelsOf name v) (v.inActiveSet.map flag)
    uptime := r.uptime.setKnown (labelsOf name v) v.uptime.percent
    resources := ((r.resources.setKnown (resourceLabels name v "cpu") v.resources.cpu).setKnown
      (resourceLabels name v "memory") v.resources.memory).setKnown (resourceLabels name v "disk") v.resources.disk }

/-- Shows a snapshot. Every enabled validator has a series in each gauge of which its figure is
known. -/
def refresh (r : GaugeRegistry) (s : Snapshot) : GaugeRegistry :=
  let r := s.enabled.foldl (fun r e => r.showValidator e.1 e.2) r.reset
  { r with
    persistenceOk := r.persistenceOk.set [] (flag s.persistenceOk)
    uptimeSeconds := r.uptimeSeconds.set [] (wholeValue s.uptimeSeconds) }

/-- Shows a snapshot and writes the page. -/
def render (r : GaugeRegistry) (s : Snapshot) : String × GaugeRegistry :=
  let r := r.refresh s
  (r.page, r)

end GaugeRegistry

/-- The metric page of a snapshot. -/
def Snapshot.metricPage (s : Snapshot) : String :=
  (GaugeRegistry.new.render s).1

end ValidatorWatch
