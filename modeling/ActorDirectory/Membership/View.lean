import ActorDirectory.Membership.Snapshot
import ActorDirectory.Ring

namespace ActorDirectory

structure Membership where
  snapshot : Snapshot
  ring : Ring
  deriving DecidableEq

namespace Membership

def empty : Membership := ⟨.empty, .empty⟩

def ofSnapshot (hash : String → UInt64) (buckets : Nat) (snapshot : Snapshot) : Membership :=
  ⟨snapshot, Ring.build hash buckets snapshot.activeSilos⟩

def owner? (hash : String → UInt64) (membership : Membership) (grain : Grain) : Option Silo :=
  Ring.owner? hash membership.ring grain

def install? (hash : String → UInt64) (buckets : Nat) (current : Membership)
    (snapshot : Snapshot) : Option Membership :=
  if snapshot.epoch.number < current.snapshot.epoch.number then none
  else some (ofSnapshot hash buckets snapshot)

end Membership
end ActorDirectory
