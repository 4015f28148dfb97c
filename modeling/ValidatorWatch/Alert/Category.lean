/-!
# Kinds of alerts and channels

Alerts come in six categories and go out on three channels. `ByCategory` and `ByChannel` hold one
value for each of them.
-/

namespace ValidatorWatch

/-- What an alert is about. -/
inductive Category where
  | down
  | recovery
  | resource
  | activeSet
  | consensusTimeout
  | extendedReport
  deriving DecidableEq, Inhabited

namespace Category

/-- The word for a category. -/
def name : Category → String
  | .down => "down"
  | .recovery => "recovery"
  | .resource => "resource"
  | .activeSet => "active-set"
  | .consensusTimeout => "consensus-timeout"
  | .extendedReport => "extended-report"

/-- The category that a word stands for. -/
def ofName? : String → Option Category
  | "down" => some .down
  | "recovery" => some .recovery
  | "resource" => some .resource
  | "active-set" => some .activeSet
  | "consensus-timeout" => some .consensusTimeout
  | "extended-report" => some .extendedReport
  | _ => none

@[simp] theorem ofName?_name (c : Category) : ofName? c.name = some c := by
  cases c <;> rfl

/-- All of them, in order. -/
def all : List Category :=
  [.down, .recovery, .resource, .activeSet, .consensusTimeout, .extendedReport]

instance {P : Category → Prop} [DecidablePred P] : Decidable (∀ c, P c) :=
  decidable_of_iff (∀ c ∈ Category.all, P c) ⟨fun h c => h c (by cases c <;> decide), fun h c _ => h c⟩

end Category

/-- Where alerts go. -/
inductive Channel where
  | primary
  | emergency
  | secondary
  deriving DecidableEq, Inhabited

namespace Channel

/-- The word for a channel. -/
def name : Channel → String
  | .primary => "primary"
  | .emergency => "emergency"
  | .secondary => "secondary"

/-- The channel that a word stands for. -/
def ofName? : String → Option Channel
  | "primary" => some .primary
  | "emergency" => some .emergency
  | "secondary" => some .secondary
  | _ => none

@[simp] theorem ofName?_name (c : Channel) : ofName? c.name = some c := by
  cases c <;> rfl

/-- All of them, in order. -/
def all : List Channel :=
  [.primary, .emergency, .secondary]

instance {P : Channel → Prop} [DecidablePred P] : Decidable (∀ k, P k) :=
  decidable_of_iff (∀ k ∈ Channel.all, P k) ⟨fun h k => h k (by cases k <;> decide), fun h k _ => h k⟩

end Channel

/-- One value for each category. -/
structure ByCategory (α : Type) where
  down : α
  recovery : α
  resource : α
  activeSet : α
  consensusTimeout : α
  extendedReport : α
  deriving DecidableEq, Inhabited

namespace ByCategory

variable {α : Type}

/-- The value of a category. -/
def get (m : ByCategory α) : Category → α
  | .down => m.down
  | .recovery => m.recovery
  | .resource => m.resource
  | .activeSet => m.activeSet
  | .consensusTimeout => m.consensusTimeout
  | .extendedReport => m.extendedReport

/-- A value for each category. -/
def ofFn (f : Category → α) : ByCategory α where
  down := f .down
  recovery := f .recovery
  resource := f .resource
  activeSet := f .activeSet
  consensusTimeout := f .consensusTimeout
  extendedReport := f .extendedReport

/-- Changes the value of one category. -/
def set (m : ByCategory α) (c : Category) (a : α) : ByCategory α :=
  ofFn fun d => if d = c then a else m.get d

@[simp] theorem get_ofFn (f : Category → α) (c : Category) : (ofFn f).get c = f c := by
  cases c <;> rfl

theorem get_set (m : ByCategory α) (c : Category) (a : α) (d : Category) :
    (m.set c a).get d = if d = c then a else m.get d :=
  get_ofFn _ d

@[ext] theorem ext_get {m n : ByCategory α} (h : ∀ c, m.get c = n.get c) : m = n := by
  cases m
  cases n
  simp only [mk.injEq]
  exact ⟨h .down, h .recovery, h .resource, h .activeSet, h .consensusTimeout, h .extendedReport⟩

end ByCategory

/-- One value for each channel. -/
structure ByChannel (α : Type) where
  primary : α
  emergency : α
  secondary : α
  deriving DecidableEq, Inhabited

namespace ByChannel

variable {α β : Type}

/-- The value of a channel. -/
def get (m : ByChannel α) : Channel → α
  | .primary => m.primary
  | .emergency => m.emergency
  | .secondary => m.secondary

/-- A value for each channel. -/
def ofFn (f : Channel → α) : ByChannel α where
  primary := f .primary
  emergency := f .emergency
  secondary := f .secondary

/-- Changes the value of one channel. -/
def set (m : ByChannel α) (c : Channel) (a : α) : ByChannel α :=
  ofFn fun d => if d = c then a else m.get d

@[simp] theorem get_ofFn (f : Channel → α) (c : Channel) : (ofFn f).get c = f c := by
  cases c <;> rfl

theorem get_set (m : ByChannel α) (c : Channel) (a : α) (d : Channel) :
    (m.set c a).get d = if d = c then a else m.get d :=
  get_ofFn _ d

@[ext] theorem ext_get {m n : ByChannel α} (h : ∀ c, m.get c = n.get c) : m = n := by
  cases m
  cases n
  simp only [mk.injEq]
  exact ⟨h .primary, h .emergency, h .secondary⟩

end ByChannel

end ValidatorWatch
