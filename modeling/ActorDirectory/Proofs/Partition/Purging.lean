import ActorDirectory.Proofs.Partition.Integrity

-- Removing activations in bulk. Seen as one list of all activations that is a filter, so that
-- several removals come to one.
namespace ActorDirectory

namespace Roster

end Roster

namespace Holding

def activations (grain : Grain) (holding : Holding) : List (Address × Bool) :=
  holding.instances.map fun inst => (inst.address grain, holding.single)

end Holding

namespace Partition

variable {partition other : Partition} {keep : Grain → Silo → Bool} {grain : Grain}
  {old new holding : Holding} {state : Nat × Nat}

def activationsOf (pairs : List (Grain × Holding)) : List (Address × Bool) :=
  pairs.flatMap fun pair => pair.2.activations pair.1

def activations (partition : Partition) : List (Address × Bool) :=
  activationsOf partition.held.pairs

def stays (keep : Grain → Silo → Bool) (activation : Address × Bool) : Bool :=
  keep activation.1.grain activation.1.silo

def Retagged (before after : Partition) (version : Version) : Prop :=
  ∃ number, before.drawn ≤ number ∧ number < after.drawn ∧ version = tag number ∧
    (after.drawn < UInt64.size → ∀ issued < before.drawn, (tag issued).number < version.number)

end Partition

namespace Solo
open ActorDirectory.Partition

def elsewhere : Address := ⟨address.grain, ⟨.v4 ⟨10, 0, 0, 2⟩, 100, 1⟩, .ofNat 12⟩

def crowd : Partition :=
  empty.run [.register address false, .register elsewhere false, .register neighbour true]

end Solo
end ActorDirectory
