import ValidatorWatch.Decimal.Written
import ValidatorWatch.Validator.Observation
import ValidatorWatch.Validator.Verdict
/-!
# Resource thresholds

Each of processor, memory and disk has a warning and a critical threshold in percent. A figure that
reaches a threshold breaches it. The level of a host is the highest level of its figures, and a
figure that is unknown breaches nothing.
-/

namespace ValidatorWatch

/-- The thresholds of a host, in percent. -/
structure ResourceThresholds where
  cpuWarning : Float := 90
  cpuCritical : Float := 95
  memoryWarning : Float := 90
  memoryCritical : Float := 95
  diskWarning : Float := 90
  diskCritical : Float := 95
  deriving DecidableEq, Inhabited

/-- A figure that reached a threshold. -/
structure Breach where
  level : ResourceLevel
  text : String
  deriving DecidableEq

namespace Breach

/-- The words for a figure and the threshold that it reached. -/
def describe (resource : String) (value threshold : Float) : String :=
  s!"{resource} {Decimal.fixed 1 value}% >= {Decimal.plain threshold}%"

/-- The highest threshold that a figure reached, if it is known and reached one. -/
def of? (resource : String) (value : Option Float) (warning critical : Float) : Option Breach :=
  match value with
  | none => none
  | some v =>
    if critical ≤ v then some ⟨.critical, describe resource v critical⟩
    else if warning ≤ v then some ⟨.warning, describe resource v warning⟩
    else none

end Breach

namespace ResourceThresholds

/-- Every breach, in the order processor, memory, disk. -/
def breaches (t : ResourceThresholds) (u : ResourceUsage) : List Breach :=
  [Breach.of? "cpu" u.cpu t.cpuWarning t.cpuCritical,
    Breach.of? "memory" u.memory t.memoryWarning t.memoryCritical,
    Breach.of? "disk" u.disk t.diskWarning t.diskCritical].filterMap id

/-- The highest level of any figure. -/
def level (t : ResourceThresholds) (u : ResourceUsage) : ResourceLevel :=
  (t.breaches u).foldl (fun l b => l.worst b.level) .normal

end ResourceThresholds

end ValidatorWatch
