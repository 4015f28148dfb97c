import ValidatorWatch.Document.Record
/-!
# Networks

Validators belong to one of two networks. A network has figures of its own, which one of the
services tells.
-/

namespace ValidatorWatch

open Document

/-- The networks that validators belong to, in order. -/
inductive Network where
  | testnet
  | mainnet
  deriving DecidableEq, Inhabited

namespace Network

/-- The word for a network. -/
def name : Network → String
  | .testnet => "testnet"
  | .mainnet => "mainnet"

/-- The network that a word stands for. -/
def ofName? : String → Option Network
  | "testnet" => some .testnet
  | "mainnet" => some .mainnet
  | _ => none

@[simp] theorem ofName?_name (n : Network) : ofName? n.name = some n := by
  cases n <;> rfl

/-- All of them, in order. -/
def all : List Network :=
  [.testnet, .mainnet]

end Network

/-- One value for each network. -/
structure ByNetwork (α : Type) where
  testnet : α
  mainnet : α
  deriving DecidableEq, Inhabited

namespace ByNetwork

variable {α : Type}

/-- The value of a network. -/
def get (m : ByNetwork α) : Network → α
  | .testnet => m.testnet
  | .mainnet => m.mainnet

/-- The same value for each network. -/
def const (a : α) : ByNetwork α :=
  ⟨a, a⟩

/-- Changes the value of one network. -/
def set (m : ByNetwork α) (n : Network) (a : α) : ByNetwork α :=
  ⟨if n = .testnet then a else m.testnet, if n = .mainnet then a else m.mainnet⟩

theorem get_set (m : ByNetwork α) (n : Network) (a : α) (o : Network) :
    (m.set n a).get o = if n = o then a else m.get o := by
  cases n <;> cases o <;> rfl

end ByNetwork

/-- Figures of a whole network. -/
structure NetworkHealth where
  network : String
  tps : Float
  blockFullness : Float
  totalBlocks : Nat
  activeValidators : Nat
  fetchedAt : Time.Instant
  deriving DecidableEq, Inhabited

namespace NetworkHealth

/-- The members of the figures, in order. -/
def memberNames : List String :=
  ["network", "tps", "block_fullness_pct", "total_blocks", "active_validators", "fetched_at"]

/-- Writes the figures. -/
def toValue (h : NetworkHealth) : Value :=
  .obj [("network", .str h.network), ("tps", .float h.tps),
    ("block_fullness_pct", .float h.blockFullness), ("total_blocks", .nat h.totalBlocks),
    ("active_validators", .nat h.activeValidators), ("fetched_at", .ofInstant h.fetchedAt)]

/-- Reads the figures. -/
def ofValue? (v : Value) : Option NetworkHealth := do
  let f ← v.fields? memberNames
  return {
    network := ← f.required? "network" Value.text?
    tps := ← f.required? "tps" Value.real?
    blockFullness := ← f.required? "block_fullness_pct" Value.real?
    totalBlocks := ← f.required? "total_blocks" (Value.nat? 64)
    activeValidators := ← f.required? "active_validators" (Value.nat? 64)
    fetchedAt := ← f.required? "fetched_at" Value.instant? }

end NetworkHealth

end ValidatorWatch
