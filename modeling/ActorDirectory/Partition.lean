import ActorDirectory.Entry
import ActorDirectory.Keyed
import ActorDirectory.Order

namespace ActorDirectory

structure Instance where
  silo : Silo
  activation : Activation
  deriving DecidableEq, Repr

structure Holding where
  instances : List Instance
  single : Bool
  version : Version
  deriving DecidableEq, Repr

-- The registrations that one silo is responsible for. Tags are drawn from one counter, which
-- also clearing leaves as it is.
structure Partition where
  held : Keyed Grain Holding
  drawn : Nat
  deriving DecidableEq

namespace Instance

def address (inst : Instance) (grain : Grain) : Address := ⟨grain, inst.silo, inst.activation⟩

end Instance

namespace Address

def toInstance (address : Address) : Instance := ⟨address.silo, address.activation⟩

end Address

namespace Holding

def found (holding : Holding) (grain : Grain) : Found :=
  ⟨holding.instances.map (·.address grain), holding.version⟩

end Holding

namespace Partition

def empty : Partition := ⟨.empty, 0⟩

def size (partition : Partition) : Nat := partition.held.size

def listing (partition : Partition) : List (Grain × Holding) :=
  Order.sort (fun a b => (a.1.order b.1).isLE) partition.held.pairs

def tag (drawn : Nat) : Version := ⟨UInt64.ofNat (drawn + 1)⟩

-- A grain that was or is to be alone is answered with its first instance. Otherwise an
-- instance that is not yet known is added under a fresh tag.
def register (partition : Partition) (address : Address) (single : Bool) : Tagged × Partition :=
  let fresh := tag partition.drawn
  match partition.held.get? address.grain with
  | none =>
    let holding := ⟨[address.toInstance], single, fresh⟩
    (⟨address, fresh⟩, ⟨partition.held.put address.grain holding, partition.drawn + 1⟩)
  | some holding =>
    match holding.single || single, holding.instances with
    | true, first :: _ => (⟨first.address address.grain, holding.version⟩, partition)
    | _, instances =>
      if address.toInstance ∈ instances then (⟨address, holding.version⟩, partition)
      else
        let holding := ⟨instances ++ [address.toInstance], holding.single, fresh⟩
        (⟨address, fresh⟩, ⟨partition.held.put address.grain holding, partition.drawn + 1⟩)

def lookup (partition : Partition) (grain : Grain) : Option Found :=
  ((partition.held.get? grain).map (·.found grain)).filter (!·.addresses.isEmpty)

-- Takes away an activation wherever it runs, if the entry still has the expected tag. The
-- unknown tag expects nothing. Answers whether something was taken.
def unregisterAt (partition : Partition) (address : Address) (expected : Version) :
    Except Fault (Bool × Partition) :=
  match partition.held.get? address.grain with
  | none => .ok (false, partition)
  | some holding =>
    if expected ≠ .unknown ∧ expected ≠ holding.version then
      .error (.staleVersion address.grain.toText expected holding.version)
    else
      let kept := holding.instances.filter (·.activation ≠ address.activation)
      if kept.length = holding.instances.length then .ok (false, partition)
      else if kept.isEmpty then
        .ok (true, { partition with held := partition.held.erase address.grain })
      else
        let holding := ⟨kept, holding.single, tag partition.drawn⟩
        .ok (true, ⟨partition.held.put address.grain holding, partition.drawn + 1⟩)

def unregister (partition : Partition) (address : Address) : Bool × Partition :=
  match partition.unregisterAt address .unknown with
  | .ok result => result
  | .error _ => (false, partition)

def clear (partition : Partition) : Partition := { partition with held := .empty }

def retainHolding (keep : Grain → Silo → Bool) (grain : Grain) (holding : Holding)
    (state : Nat × Nat) : Option Holding × (Nat × Nat) :=
  let (drawn, removed) := state
  let kept := holding.instances.filter fun inst => keep grain inst.silo
  let lost := holding.instances.length - kept.length
  if kept.isEmpty then (none, (drawn, removed + lost))
  else if lost = 0 then (some holding, (drawn, removed))
  else (some ⟨kept, holding.single, tag drawn⟩, (drawn + 1, removed + lost))

def retain (partition : Partition) (keep : Grain → Silo → Bool) : Nat × Partition :=
  let (held, drawn, removed) := partition.held.sweep (retainHolding keep) (partition.drawn, 0)
  (removed, ⟨held, drawn⟩)

def unregisterSilos (partition : Partition) (silos : List Silo) : Nat × Partition :=
  partition.retain fun _ silo => silo ∉ silos

end Partition
end ActorDirectory
