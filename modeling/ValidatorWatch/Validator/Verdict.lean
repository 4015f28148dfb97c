/-!
# Verdicts and severities

A check ends in a verdict on the validator: active, warning, inactive or critical, from good to bad.
Resource usage has a level of its own, which counts as a verdict when the two are combined. The
combined verdict is the worst of its parts.
-/

namespace ValidatorWatch

/-- What a check says about a validator. -/
inductive Verdict where
  | active
  | warning
  | inactive
  | critical
  deriving DecidableEq, Inhabited

namespace Verdict

/-- From good to bad. -/
def rank : Verdict → Nat
  | .active => 0
  | .warning => 1
  | .inactive => 2
  | .critical => 3

instance : LE Verdict := ⟨fun a b => a.rank ≤ b.rank⟩
instance : LT Verdict := ⟨fun a b => a.rank < b.rank⟩
instance (a b : Verdict) : Decidable (a ≤ b) := inferInstanceAs (Decidable (a.rank ≤ b.rank))
instance (a b : Verdict) : Decidable (a < b) := inferInstanceAs (Decidable (a.rank < b.rank))

/-- The worse of two verdicts. -/
def worst (a b : Verdict) : Verdict :=
  if a < b then b else a

/-- The word for a verdict. -/
def name : Verdict → String
  | .active => "active"
  | .warning => "warning"
  | .inactive => "inactive"
  | .critical => "critical"

/-- The verdict that a word stands for. -/
def ofName? : String → Option Verdict
  | "active" => some .active
  | "warning" => some .warning
  | "inactive" => some .inactive
  | "critical" => some .critical
  | _ => none

@[simp] theorem ofName?_name (v : Verdict) : ofName? v.name = some v := by
  cases v <;> rfl

/-- Nothing to complain about. -/
def isHealthy (v : Verdict) : Bool :=
  v = .active

/-- The verdicts that a recovery is reported from. -/
def isDown (v : Verdict) : Bool :=
  v = .inactive || v = .critical

end Verdict

/-- How much an alert matters. -/
inductive Severity where
  | info
  | warning
  | critical
  deriving DecidableEq, Inhabited

namespace Severity

/-- The word for a severity. -/
def name : Severity → String
  | .info => "info"
  | .warning => "warning"
  | .critical => "critical"

/-- The severity that a word stands for. -/
def ofName? : String → Option Severity
  | "info" => some .info
  | "warning" => some .warning
  | "critical" => some .critical
  | _ => none

@[simp] theorem ofName?_name (s : Severity) : ofName? s.name = some s := by
  cases s <;> rfl

end Severity

/-- The highest resource threshold that is breached. -/
inductive ResourceLevel where
  | normal
  | warning
  | critical
  deriving DecidableEq, Inhabited

namespace ResourceLevel

/-- From good to bad. -/
def rank : ResourceLevel → Nat
  | .normal => 0
  | .warning => 1
  | .critical => 2

instance : LE ResourceLevel := ⟨fun a b => a.rank ≤ b.rank⟩
instance : LT ResourceLevel := ⟨fun a b => a.rank < b.rank⟩
instance (a b : ResourceLevel) : Decidable (a ≤ b) := inferInstanceAs (Decidable (a.rank ≤ b.rank))
instance (a b : ResourceLevel) : Decidable (a < b) := inferInstanceAs (Decidable (a.rank < b.rank))

/-- The higher of two levels. -/
def worst (a b : ResourceLevel) : ResourceLevel :=
  if a < b then b else a

/-- The word for a level. -/
def name : ResourceLevel → String
  | .normal => "normal"
  | .warning => "warning"
  | .critical => "critical"

/-- The level that a word stands for. -/
def ofName? : String → Option ResourceLevel
  | "normal" => some .normal
  | "warning" => some .warning
  | "critical" => some .critical
  | _ => none

@[simp] theorem ofName?_name (l : ResourceLevel) : ofName? l.name = some l := by
  cases l <;> rfl

/-- What a level adds to the combined verdict. -/
def verdict : ResourceLevel → Verdict
  | .normal => .active
  | .warning => .warning
  | .critical => .critical

/-- How severe an alert about the level is; there is none about the normal one. -/
def severity? : ResourceLevel → Option Severity
  | .normal => none
  | .warning => some .warning
  | .critical => some .critical

end ResourceLevel

end ValidatorWatch
